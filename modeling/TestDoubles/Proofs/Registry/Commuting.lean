import TestDoubles.Proofs.Registry.Replacing

/-!
# Registrations in either order

Two registrations under different keys may be given in either order. An entry that is replaced stays where
it is, and what its replacement does with the aliases depends on these two alone; so it makes a difference
only where two new keys are appended, and there only to the order of entries that have no aliases. Nothing
that is looked up notices.

The doubles that registrations bring are new objects, and which ones depends on the order. So the object
that each of them uses is given here, the same in both orders; and what is found depends on these two objects
in the simplest way: it is the one, or the other, or something else altogether.

- `Registry.SameAnswers` compares registries by their size and by what is found in them.
- `Registry.insert_comm` is about entries, `Registry.Commute` about registrations.
- `Registry.commute_of_registers` shows that registrations under different keys commute.
-/

namespace TestDoubles

namespace Registry

variable {mockOf : TypeId → TypeId} {r r' : Registry} {key other : Key} {x y : Entry}

/-! ## Registries that give the same answers -/

/-- As many entries, and the same found for every key. -/
structure SameAnswers (r r' : Registry) : Prop where
  size : r.size = r'.size
  lookup (key : Key) : r.lookup key = r'.lookup key

namespace SameAnswers

theorem of_eq (h : r = r') : SameAnswers r r' :=
  h ▸ ⟨rfl, fun _ => rfl⟩

theorem symm (h : SameAnswers r r') : SameAnswers r' r :=
  ⟨h.size.symm, fun key => (h.lookup key).symm⟩

theorem contains (h : SameAnswers r r') (hindexed : r.Indexed) (hindexed' : r'.Indexed) (key : Key) :
    r.contains key = r'.contains key := by
  rw [← hindexed.agreesWithScan.lookup_isSome, ← hindexed'.agreesWithScan.lookup_isSome, h.lookup]

end SameAnswers

/-! ## Inserting two entries -/

theorem insert_of_find?_exact {i : Nat} {previous : Entry} (hexact : r.exact.find? x.key = some i)
    (hi : r.entries[i]? = some previous) :
    (r.insert mockOf x).1 = { r with
      entries := r.entries.set i { x with aliases := carriedAliases mockOf previous x } } := by
  simp [insert, hexact, hi]

theorem insert_of_find?_exact_none (hexact : r.exact.find? x.key = none) :
    (r.insert mockOf x).1 =
      ⟨r.entries ++ [x], r.exact.insert x.key r.entries.length⟩ := by
  simp [insert, hexact]

/-- A key that is appended leaves all others as they are. -/
theorem lookup_insert_of_new (h : r.Indexed) (hexact : r.exact.find? x.key = none)
    (haliases : x.aliases = []) (hkey : key ≠ x.key) :
    (r.insert mockOf x).1.lookup key = r.lookup key := by
  rw [insert_of_find?_exact_none hexact]
  exact h.lookup_concat haliases hkey

/-- A replacement and a new entry do not meet. -/
theorem insert_comm_of_new {i : Nat} {previous : Entry} (hx : r.exact.find? x.key = some i)
    (hi : r.entries[i]? = some previous) (hy : r.exact.find? y.key = none) :
    ((r.insert mockOf x).1.insert mockOf y).1 = ((r.insert mockOf y).1.insert mockOf x).1 := by
  have hlt : i < r.entries.length := (List.getElem?_eq_some_iff.mp hi).1
  have hne : y.key ≠ x.key := by
    intro hkey
    rw [hkey, hx] at hy
    cases hy
  rw [insert_of_find?_exact hx hi, insert_of_find?_exact_none hy,
    insert_of_find?_exact_none (by exact hy),
    insert_of_find?_exact ((Table.find?_insert_of_ne _ _ hne).trans hx)
      ((List.getElem?_append_left hlt).trans hi)]
  simp [List.set_append_left i _ hlt]

/-- **Entries with different keys may be inserted in either order.** -/
theorem insert_comm (h : r.Indexed) (hkey : x.key ≠ y.key) (hx : x.aliases = [])
    (hy : y.aliases = []) :
    SameAnswers ((r.insert mockOf x).1.insert mockOf y).1 ((r.insert mockOf y).1.insert mockOf x).1 := by
  cases hexact : r.exact.find? x.key with
  | some i =>
    obtain ⟨previous, hi, hprevious⟩ := h.key_of_find?_exact hexact
    cases hexact' : r.exact.find? y.key with
    | none => exact .of_eq (insert_comm_of_new hexact hi hexact')
    | some j =>
      obtain ⟨previous', hj, hprevious'⟩ := h.key_of_find?_exact hexact'
      have hij : i ≠ j := by
        rintro rfl
        obtain rfl := Option.some.inj (hi.symm.trans hj)
        exact hkey (hprevious.symm.trans hprevious')
      apply SameAnswers.of_eq
      rw [insert_of_find?_exact hexact hi, insert_of_find?_exact hexact' hj,
        insert_of_find?_exact (by exact hexact') (by rw [List.getElem?_set_ne hij]; exact hj),
        insert_of_find?_exact (by exact hexact) (by rw [List.getElem?_set_ne hij.symm]; exact hi)]
      simp only [List.set_comm _ _ hij]
  | none =>
    cases hexact' : r.exact.find? y.key with
    | some j =>
      obtain ⟨previous', hj, -⟩ := h.key_of_find?_exact hexact'
      exact .symm (.of_eq (insert_comm_of_new hexact' hj hexact))
    | none =>
      have hx' : (r.insert mockOf y).1.exact.find? x.key = none := by
        rw [insert_of_find?_exact_none hexact', Table.find?_insert_of_ne _ _ hkey.symm, hexact]
      have hy' : (r.insert mockOf x).1.exact.find? y.key = none := by
        rw [insert_of_find?_exact_none hexact, Table.find?_insert_of_ne _ _ hkey, hexact']
      have hindexed : (r.insert mockOf x).1.Indexed := indexed_insert h x
      have hindexed' : (r.insert mockOf y).1.Indexed := indexed_insert h y
      refine ⟨?_, fun key => ?_⟩
      · rw [insert_of_find?_exact_none hy', insert_of_find?_exact_none hx',
          insert_of_find?_exact_none hexact, insert_of_find?_exact_none hexact']
        simp [size]
      · by_cases hkx : key = x.key
        · rw [lookup_insert_of_new hindexed hy' hy (hkx ▸ hkey), hkx, lookup_insert h,
            lookup_insert hindexed']
        · rw [lookup_insert_of_new hindexed' hx' hx hkx]
          by_cases hky : key = y.key
          · rw [hky, lookup_insert h, lookup_insert hindexed]
          · rw [lookup_insert_of_new hindexed hy' hy hky, lookup_insert_of_new h hexact hx hkx,
              lookup_insert_of_new h hexact' hy hky]

/-! ## Which object is found -/

/-- What a registration inserts, depending on the object that it may use: a double that is this object, or
the same in any case. -/
inductive Brings (mockOf : TypeId → TypeId) (key : Key) : (Ref → Entry) → Prop where
  | double : Brings mockOf key fun fresh =>
      .ofMock .customMock (mockOf key.type) ⟨key, fresh, fresh⟩
  | plain (entry : Entry) (hkey : entry.key = key) (haliases : entry.aliases = []) :
      Brings mockOf key fun _ => entry

namespace Brings

variable {entry : Ref → Entry}

theorem key_eq (h : Brings mockOf key entry) (fresh : Ref) : (entry fresh).key = key := by
  cases h with
  | double => rfl
  | plain _ hkey _ => exact hkey

theorem aliases_eq (h : Brings mockOf key entry) (fresh : Ref) : (entry fresh).aliases = [] := by
  cases h with
  | double => rfl
  | plain _ _ haliases => exact haliases

end Brings

/-- A double takes over the aliases that are served by its type of double, as views of itself. -/
theorem carriedAliases_ofMock (mockOf : TypeId → TypeId) (previous : Entry) (origin : Origin)
    (key : Key) (fresh : Ref) :
    carriedAliases mockOf previous (.ofMock origin (mockOf key.type) ⟨key, fresh, fresh⟩) =
      (previous.aliases.filter fun old => mockOf key.type = mockOf old.key.type).map fun old =>
        ⟨old.key, .object old.key.type fresh⟩ := by
  unfold carriedAliases
  rw [← List.filterMap_eq_map, List.filterMap_filter]
  apply List.filterMap_congr
  intro old _
  by_cases hserves : mockOf key.type = mockOf old.key.type <;>
    simp [rebind?, Entry.ofMock, Handle.viewAs?, Handle.as?, hserves]

/-- An entry in the place of another one, with views of one object as its aliases. -/
theorem hasAlias_views (entry : Entry) (kept : List Alias) (ref : Ref) (key : Key) :
    Entry.hasAlias { entry with
      aliases := kept.map fun old => ⟨old.key, .object old.key.type ref⟩ } key =
        kept.any fun old => old.key = key := by
  simp [Entry.hasAlias, Function.comp_def]

theorem provides?_views {entry : Entry} {kept : List Alias} (ref : Ref) (hkey : entry.key ≠ key)
    (hkept : (kept.any fun old => old.key = key) = true) :
    Entry.provides? { entry with
      aliases := kept.map fun old => ⟨old.key, .object old.key.type ref⟩ } key =
        some (.object key.type ref) := by
  obtain ⟨old, hold⟩ := Option.isSome_iff_exists.mp (List.find?_isSome.mpr (List.any_eq_true.mp hkept))
  have hown : old.key = key := by simpa using List.find?_some hold
  simp only [Entry.provides?, if_neg hkey, List.find?_map, Function.comp_def, hold, Option.map_some,
    hown]

/-- A key that was answered for in this place is answered for by the view that takes its place. -/
theorem lookup_set_of_view {entry previous : Entry} {kept : List Alias} {i : Nat} (ref : Ref)
    (hi : r.entries[i]? = some previous) (hposition : r.position? other = some i)
    (hkey : entry.key ≠ other) (hkept : (kept.any fun old => old.key = other) = true) :
    lookup { r with entries := r.entries.set i { entry with
      aliases := kept.map fun old => ⟨old.key, .object old.key.type ref⟩ } } other =
        some (.object other.type ref, entry.origin) := by
  have hfound := entry?_set_self hi (position?_set hi (fun hii => absurd hii (Nat.lt_irrefl i))
    (fun _ _ => (hasAlias_views entry kept ref other).trans hkept) hposition)
  unfold lookup
  rw [hfound, Option.bind_some, provides?_views ref hkey hkept, Option.map_some]

/-- **What is found after a registration** is the double that it brings, or does not depend on it. -/
theorem Brings.lookup_insert (h : r.Indexed) {entry : Ref → Entry} (hbrings : Brings mockOf key entry)
    (other : Key) :
    (∃ found, ∀ fresh, (r.insert mockOf (entry fresh)).1.lookup other = found) ∨
      ∀ fresh, (r.insert mockOf (entry fresh)).1.lookup other =
        some (.object other.type fresh, .customMock) := by
  cases hbrings with
  | plain entry _ _ => exact .inl ⟨_, fun _ => rfl⟩
  | double =>
    by_cases hother : other = key
    · subst hother
      exact .inr fun fresh => Registry.lookup_insert h _
    cases hexact : r.exact.find? key with
    | none => exact .inl ⟨r.lookup other, fun fresh => lookup_insert_of_new h hexact rfl hother⟩
    | some i =>
      obtain ⟨previous, hi, hprevious⟩ := h.key_of_find?_exact hexact
      have hreplaced (fresh : Ref) := @insert_of_find?_exact mockOf r
        (.ofMock .customMock (mockOf key.type) ⟨key, fresh, fresh⟩) i previous hexact hi
      simp only [hreplaced, carriedAliases_ofMock]
      generalize hkept : (previous.aliases.filter fun old =>
        mockOf key.type = mockOf old.key.type) = kept
      have hold (halias : (kept.any fun old => old.key = other) = true) : previous.hasAlias other := by
        obtain ⟨old, hmem, hown⟩ := List.any_eq_true.mp halias
        rw [← hkept] at hmem
        exact List.any_eq_true.mpr ⟨old, (List.mem_filter.mp hmem).1, hown⟩
      by_cases hposition : r.position? other = some i
      · have hne : previous.key ≠ other := hprevious.trans_ne (Ne.symm hother)
        cases halias : kept.any fun old => old.key = other with
        | true => exact .inr fun fresh => lookup_set_of_view fresh hi hposition (Ne.symm hother) halias
        | false =>
          let next := (r.entries.drop (i + 1)).find? fun later => later.hasAlias other
          refine .inl ⟨next.bind fun later => (later.provides? other).map fun object =>
            (object, later.origin), fun fresh => ?_⟩
          unfold lookup
          rw [entry?_set_of_dropped h hi hposition hne ((hasAlias_views _ kept fresh other).trans halias)]
      · refine .inl ⟨r.lookup other, fun fresh => ?_⟩
        refine lookup_set_of_ne hi (fun hviews => hold ?_) hposition
        rw [← hviews, hasAlias_views]

/-- Of two objects that may be found, it is always the first one, or always the second, or neither of them
has anything to do with it. -/
def Chooses (type : TypeId) (found : Ref → Ref → Option (Stored × Origin)) : Prop :=
  (∃ other, ∀ a b, found a b = other) ∨
    (∀ a b, found a b = some (.object type a, .customMock)) ∨
    ∀ a b, found a b = some (.object type b, .customMock)

/-- It is enough to know this of each of the two while the other one is fixed. -/
theorem chooses_of_each {type : TypeId} {found : Ref → Ref → Option (Stored × Origin)}
    (hsecond : ∀ a, (∃ other, ∀ b, found a b = other) ∨
      ∀ b, found a b = some (.object type b, .customMock))
    (hfirst : ∀ b, (∃ other, ∀ a, found a b = other) ∨
      ∀ a, found a b = some (.object type a, .customMock)) : Chooses type found := by
  have hview {a b : Ref}
      (h : some (Stored.object type a, Origin.customMock) = some (.object type b, .customMock)) :
      a = b := by
    simpa using h
  by_cases hfixed : ∀ a, ∃ other, ∀ b, found a b = other
  · have hsame (a b : Ref) : found a b = found a ⟨0⟩ := by
      obtain ⟨other, hother⟩ := hfixed a
      rw [hother b, hother ⟨0⟩]
    rcases hfirst ⟨0⟩ with ⟨other, hother⟩ | hother
    · exact .inl ⟨other, fun a b => (hsame a b).trans (hother a)⟩
    · exact .inr (.inl fun a b => (hsame a b).trans (hother a))
  · obtain ⟨c, hc⟩ := not_forall.mp hfixed
    have hfound := (hsecond c).resolve_left hc
    -- For any other second object it is found with every first one.
    have hother (a b : Ref) (hne : b ≠ c) : found a b = some (.object type b, .customMock) := by
      rcases hfirst b with ⟨other, hother⟩ | hviews
      · rw [hother a, ← hother c, hfound b]
      · exact absurd (hview ((hfound b).symm.trans (hviews c))) hne
    refine .inr (.inr fun a b => ?_)
    rcases hsecond a with ⟨other, hsame⟩ | hviews
    · have hnext (n : Nat) : (⟨c.index + n + 1⟩ : Ref) ≠ c := by
        intro heq
        have := congrArg Ref.index heq
        simp only at this
        omega
      have heq := (hother a ⟨c.index + 0 + 1⟩ (hnext 0)).symm.trans
        ((hsame _).trans ((hsame _).symm.trans (hother a ⟨c.index + 1 + 1⟩ (hnext 1))))
      have := congrArg Ref.index (hview heq)
      simp at this
    · exact hviews b

namespace Brings

variable {entry entry' : Ref → Entry}

/-- What two registrations under different keys bring may be inserted in either order. -/
theorem insert_comm (h : r.Indexed) (hbrings : Brings mockOf key entry)
    (hbrings' : Brings mockOf other entry') (hne : key ≠ other) (a b : Ref) :
    SameAnswers ((r.insert mockOf (entry a)).1.insert mockOf (entry' b)).1
      ((r.insert mockOf (entry' b)).1.insert mockOf (entry a)).1 :=
  Registry.insert_comm h (by rwa [hbrings.key_eq, hbrings'.key_eq]) (hbrings.aliases_eq a)
    (hbrings'.aliases_eq b)

/-- After both, the double of the one is found, or that of the other, or neither. -/
theorem chooses (h : r.Indexed) (hbrings : Brings mockOf key entry)
    (hbrings' : Brings mockOf other entry') (hne : key ≠ other) (asked : Key) :
    Chooses asked.type fun a b =>
      ((r.insert mockOf (entry a)).1.insert mockOf (entry' b)).1.lookup asked := by
  apply chooses_of_each
  · exact fun a => hbrings'.lookup_insert (indexed_insert h (entry a)) asked
  · intro b
    simp only [(hbrings.insert_comm h hbrings' hne _ b).lookup]
    exact hbrings.lookup_insert (indexed_insert h (entry' b)) asked

end Brings

/-! ## Registrations -/

/-- The registry after two registrations, of which the first uses the object `a` and the second `b`. -/
def after (mockOf : TypeId → TypeId) (first second : Operation) (a b : Ref) (r : Registry) : Registry :=
  (second.perform mockOf (first.perform mockOf r a).registry b).registry

/-- Two registrations come to the same in either order, if each of them uses the same object. -/
structure Commute (mockOf : TypeId → TypeId) (r : Registry) (first second : Operation) : Prop where
  -- Each of them is answered as if the other one had not been given.
  answers (a b : Ref) :
    (second.perform mockOf (first.perform mockOf r a).registry b).result =
        (second.perform mockOf r b).result ∧
      (first.perform mockOf (second.perform mockOf r b).registry a).result =
        (first.perform mockOf r a).result
  same (a b : Ref) : SameAnswers (r.after mockOf first second a b) (r.after mockOf second first b a)
  -- Which objects these are does not matter for what else is found.
  identities (key : Key) : Chooses key.type fun a b => (r.after mockOf first second a b).lookup key

/-- A registration that is accepted once is accepted by every registry, and inserts its entry. -/
theorem Operation.brings {operation : Operation} (hkey : operation.registers? = some key)
    {fresh : Ref} {answer : Option Mock}
    (hok : (operation.perform mockOf r fresh).result = .ok answer) :
    ∃ (entry : Ref → Entry) (answer : Ref → Option Mock), Brings mockOf key entry ∧
      ∀ r fresh, operation.perform mockOf r fresh =
        { result := .ok (answer fresh)
          registry := (r.insert mockOf (entry fresh)).1
          events := (r.insert mockOf (entry fresh)).2 } := by
  cases operation with
  | addCustomMock capability name =>
    obtain rfl := Option.some.inj hkey
    rcases capabilityKey_cases capability name with ⟨-, hname⟩ | ⟨-, hname⟩
    · simp [perform, Registry.addCustomMock, hname, Outcome.map, Except.map] at hok
    · refine ⟨_, fun fresh => some ⟨⟨capability, name⟩, fresh, fresh⟩, .double, fun r fresh => ?_⟩
      simp [perform, Registry.addCustomMock, hname, Outcome.map, Except.map]
  | useInstance capability ref =>
    obtain rfl := Option.some.inj hkey
    exact ⟨_, fun _ => none, .plain (.ofReal capability ref) rfl rfl, fun _ _ => rfl⟩
  | useValue type datum =>
    obtain rfl := Option.some.inj hkey
    exact ⟨_, fun _ => none, .plain (.ofValue (.of type) (.value type datum)) rfl rfl, fun _ _ => rfl⟩
  | getOrCreateMock _ _ => cases hkey
  | combine _ _ => cases hkey
  | clear => cases hkey

/-- **Registrations under different keys commute**, in every registry whose index is in order. -/
theorem commute_of_registers (h : r.Indexed) {first second : Operation}
    (hfirst : first.registers? = some key) (hsecond : second.registers? = some other)
    (hne : key ≠ other) {a b : Ref} {answer answer' : Option Mock}
    (hok : (first.perform mockOf r a).result = .ok answer)
    (hok' : (second.perform mockOf r b).result = .ok answer') : Commute mockOf r first second := by
  obtain ⟨entry, _, hbrings, hperform⟩ := first.brings hfirst hok
  obtain ⟨entry', _, hbrings', hperform'⟩ := second.brings hsecond hok'
  constructor
  · intro a b
    simp only [hperform, hperform', and_self]
  · intro a b
    simp only [after, hperform, hperform']
    exact hbrings.insert_comm h hbrings' hne a b
  · intro key
    simp only [after, hperform, hperform']
    exact hbrings.chooses h hbrings' hne key

/-! ## One double more -/

namespace SameAnswers

/-- The same new entry keeps the answers the same. -/
theorem insert (h : SameAnswers r r') (hindexed : r.Indexed) (hindexed' : r'.Indexed)
    (hnew : r.exact.find? x.key = none) (hnew' : r'.exact.find? x.key = none)
    (haliases : x.aliases = []) : SameAnswers (r.insert mockOf x).1 (r'.insert mockOf x).1 where
  size := by
    have hsize : r.entries.length = r'.entries.length := h.size
    rw [insert_of_find?_exact_none hnew, insert_of_find?_exact_none hnew']
    simp [Registry.size, hsize]
  lookup key := by
    by_cases hkey : key = x.key
    · rw [hkey, lookup_insert hindexed, lookup_insert hindexed']
    · rw [lookup_insert_of_new hindexed hnew haliases hkey,
        lookup_insert_of_new hindexed' hnew' haliases hkey, h.lookup]

/-- A double that is created on demand in both registries keeps the answers the same. -/
theorem getOrCreateMock (h : SameAnswers r r') (hindexed : r.Indexed) (hindexed' : r'.Indexed)
    (hlookup : r.lookup key = none) (fresh : Ref) :
    (r.getOrCreateMock mockOf fresh key.type key.name).result =
        (r'.getOrCreateMock mockOf fresh key.type key.name).result ∧
      SameAnswers (r.getOrCreateMock mockOf fresh key.type key.name).registry
        (r'.getOrCreateMock mockOf fresh key.type key.name).registry := by
  have hposition := (hindexed.lookup_eq_none_iff_position? key).mp hlookup
  have hlookup' : r'.lookup key = none := (h.lookup key).symm.trans hlookup
  have hposition' := (hindexed'.lookup_eq_none_iff_position? key).mp hlookup'
  have hexact {r : Registry} (hnone : r.position? key = none) : r.exact.find? key = none := by
    unfold position? at hnone
    split at hnone
    · cases hnone
    · assumption
  unfold Registry.getOrCreateMock
  cases hname : capabilityKey key.type key.name with
  | error e => exact ⟨rfl, h⟩
  | ok named =>
    obtain rfl : named = key := capabilityKey_eq hname
    simp only [hposition, hposition', true_and]
    exact h.insert hindexed hindexed' (hexact hposition) (hexact hposition') rfl

end SameAnswers

end Registry

end TestDoubles
