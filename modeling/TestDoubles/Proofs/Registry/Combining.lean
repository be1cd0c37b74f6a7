import TestDoubles.Proofs.Registry.OnDemand
import TestDoubles.Proofs.Registry.Together

/-!
# What combining does to look-ups

Combining two capabilities gives the entry that serves the first of them an alias for the second, unless
it provides that already. Who answers for the second one afterwards is a matter of order: its own entry
if there is one, otherwise the first entry with such an alias, which need not be the one that has just
been given it. Here it is said who it is, and that nobody else is affected.

- `Registry.combine_eq` computes `combine` from a request for the first capability and
  `Registry.serveToo`, the one place where an alias is added.
- `Registry.position?_serveToo` finds the first of the entries with an alias, and
  `Registry.lookup_serveToo` shows that an entry that goes on to answer says the same.
- `Registry.Combines` is the whole effect, and `Registry.combining_effect` shows that combining has it.
-/

namespace TestDoubles

namespace Registry

/-! ## The effect -/

/-- The position of the entry that a double is requested of: the one that answers for the key, or the one
that is created at the end. -/
def place (r : Registry) (key : Key) : Nat :=
  (r.position? key).getD r.size

/-- Two capabilities are combined in the double `mock` of the first one, and this is the registry
afterwards. -/
structure Combines (mockOf : TypeId → TypeId) (r : Registry) (capability other : TypeId) (mock : Mock)
    (after : Registry) : Prop where
  returned : mock.key = .of capability ∧ after.Yields mockOf mock
  -- No entry moves, and the first capability is served where it was.
  stays : r.Stays after
  serving : after.position? (.of capability) = some (r.place (.of capability))
  -- The second one is answered for by its own entry, ...
  own {i : Nat} {entry : Entry} (hi : r.entries[i]? = some entry) (hkey : entry.key = .of other) :
    after.position? (.of other) = some i ∧
      after.lookup (.of other) = some (entry.object, entry.origin)
  -- ... or by the entry that did so before, if that stands in front, ...
  ahead {j : Nat} (hown : .of other ∉ r.keys) (hposition : r.position? (.of other) = some j)
    (hj : j < r.place (.of capability)) :
    after.position? (.of other) = some j ∧ after.lookup (.of other) = r.lookup (.of other)
  -- ... or else by the double of the first one.
  behind (hown : .of other ∉ r.keys)
    (hposition : ∀ j, r.position? (.of other) = some j → r.place (.of capability) ≤ j) :
    after.position? (.of other) = some (r.place (.of capability)) ∧
      after.Yields mockOf ⟨.of other, mock.handle, mock.object⟩
  unanswered (hnone : r.lookup (.of other) = none) :
    after.Yields mockOf ⟨.of other, mock.handle, mock.object⟩
  elsewhere (key : Key) (hother : key ≠ .of other)
    (hfound : key = .of capability → r.lookup key ≠ none) :
    after.position? key = r.position? key ∧ after.lookup key = r.lookup key
  repeated (later : Ref) :
    after.combine mockOf later capability other = { result := .ok mock, registry := after }

/-- What combining two capabilities comes to, when `next` is a new object: it fails for a capability
with itself and whenever there is no double for the first one, and has its effect otherwise. -/
structure CombinesOrFails (mockOf : TypeId → TypeId) (r : Registry) (next : Ref)
    (capability other : TypeId) : Prop where
  fails (e : Error) : (r.combine mockOf next capability other).result = .error e ↔
    other = capability ∧ e = .invalidArgument (.combinedWithItself other) ∨
      other ≠ capability ∧ r.RefusesDouble capability none e
  unchanged (e : Error) (herror : (r.combine mockOf next capability other).result = .error e) :
    r.combine mockOf next capability other = { result := .error e, registry := r }
  succeeds (mock : Mock) (hok : (r.combine mockOf next capability other).result = .ok mock) :
    r.Combines mockOf capability other mock (r.combine mockOf next capability other).registry

/-- Combining capabilities with one type of double always comes to this. -/
def CombinesAll (mockOf : TypeId → TypeId) (next : Nat) (r : Registry) : Prop :=
  ∀ capability other, mockOf other = mockOf capability →
    r.CombinesOrFails mockOf ⟨next⟩ capability other

/-! ## Serving one more capability -/

/-- Let the entry at position `i`, the double `ref`, serve another capability too. It is given an alias
unless it provides that capability anyway. -/
def serveToo (r : Registry) (i : Nat) (entry : Entry) (other : TypeId) (ref : Ref) : Registry :=
  if (entry.provides? (.of other)).isSome then
    r
  else
    { r with
      entries := r.entries.set i
        { entry with aliases := entry.aliases ++ [⟨.of other, .object other ref⟩] } }

variable {mockOf : TypeId → TypeId} {r : Registry} {n i : Nat} {fresh ref : Ref}
  {capability other : TypeId} {name : Option String} {key : Key} {entry : Entry} {mock : Mock}
  {outcome : Outcome Mock} {e : Error}

/-- An entry with an alias may stand behind the one that answers, but not in front of it. -/
theorem position?_of_hasAlias (hi : r.entries[i]? = some entry) (halias : entry.hasAlias key)
    (hexact : r.exact.find? key = none) : ∃ j, r.position? key = some j ∧ j ≤ i := by
  obtain ⟨hlt, rfl⟩ := List.getElem?_eq_some_iff.mp hi
  unfold position?
  rw [hexact]
  cases hfind : r.entries.findIdx? fun entry => entry.hasAlias key with
  | none =>
    have hplain := List.findIdx?_eq_none_iff.mp hfind _ (List.getElem_mem hlt)
    rw [halias] at hplain
    cases hplain
  | some j =>
    refine ⟨j, rfl, Nat.le_of_not_lt fun hij => ?_⟩
    exact (List.findIdx?_eq_some_iff_getElem.mp hfind).2.2 i hij halias

/-- An element that has the property sought is found, or else one in front of it that was found
before. -/
theorem findIdx?_set_of_pos {entries : List Entry} {p : Entry → Bool} (hlt : i < entries.length)
    (hentry : p entry) :
    (entries.set i entry).findIdx? p = some ((entries.findIdx? p).elim i (min i)) := by
  rw [List.findIdx?_eq_some_iff_getElem]
  cases hfind : entries.findIdx? p with
  | none =>
    rw [List.findIdx?_eq_none_iff] at hfind
    refine ⟨by simpa using hlt, by simpa using hentry, fun k hk => ?_⟩
    have hne : i ≠ k := (Nat.ne_of_lt hk).symm
    rw [List.getElem_set_ne hne, hfind _ (List.getElem_mem (Nat.lt_trans hk hlt))]
    exact Bool.false_ne_true
  | some j =>
    obtain ⟨hj, hfound, hbefore⟩ := List.findIdx?_eq_some_iff_getElem.mp hfind
    simp only [Option.elim_some]
    refine ⟨by rw [List.length_set]; omega, ?_, fun k hk => ?_⟩
    · rw [List.getElem_set]
      split
      · exact hentry
      · have hmin : min i j = j := by omega
        simpa only [hmin] using hfound
    · have hne : i ≠ k := by omega
      rw [List.getElem_set_ne hne]
      exact hbefore k (by omega)

theorem serveToo_of_provides (hprovides : (entry.provides? (.of other)).isSome) :
    r.serveToo i entry other ref = r :=
  if_pos hprovides

/-- The entry that is written provides the capability from then on, and what it provided before. -/
theorem getElem?_serveToo (other : TypeId) (ref : Ref) (hi : r.entries[i]? = some entry) :
    ∃ later, (r.serveToo i entry other ref).entries[i]? =
        some { entry with aliases := entry.aliases ++ later } ∧
      (Entry.provides? { entry with aliases := entry.aliases ++ later } (.of other)).isSome := by
  by_cases hprovides : (entry.provides? (.of other)).isSome
  · rw [serveToo_of_provides hprovides]
    exact ⟨[], by simpa using hi, by simpa using hprovides⟩
  · refine ⟨[⟨.of other, .object other ref⟩], ?_, ?_⟩
    · simp only [serveToo, if_neg hprovides]
      exact List.getElem?_set_self (List.getElem?_eq_some_iff.mp hi).1
    · rw [provides?_isSome_iff]
      exact .inr (by simp [Entry.hasAlias])

theorem position?_serveToo_of_ne (hi : r.entries[i]? = some entry) (hkey : key ≠ .of other) :
    (r.serveToo i entry other ref).position? key = r.position? key := by
  by_cases hprovides : (entry.provides? (.of other)).isSome
  · rw [serveToo_of_provides hprovides]
  · simp only [serveToo, if_neg hprovides]
    by_cases hposition : r.position? key = some i
    · rw [hposition]
      exact position?_addAlias _ hi hposition
    · refine position?_set_of_ne hi (fun halias => ?_) hposition
      simpa [Entry.hasAlias, hkey.symm] using halias

/-- **Of the entries with an alias for a capability, the first one answers**, if it has no own entry. -/
theorem position?_serveToo (h : r.Indexed) (hi : r.entries[i]? = some entry)
    (hown : .of other ∉ r.keys) : (r.serveToo i entry other ref).position? (.of other) =
      some ((r.position? (.of other)).elim i (min i)) := by
  have hexact : r.exact.find? (.of other) = none := by
    rw [h.find?_exact]
    exact findIdx?_eq_none hown
  by_cases hprovides : (entry.provides? (.of other)).isSome
  · have halias : entry.hasAlias (.of other) := by
      refine ((provides?_isSome_iff entry _).mp hprovides).resolve_left fun hkey => hown ?_
      exact hkey ▸ List.mem_map_of_mem (List.mem_of_getElem? hi)
    obtain ⟨j, hposition, hj⟩ := position?_of_hasAlias hi halias hexact
    rw [serveToo_of_provides hprovides, hposition, Option.elim_some, Nat.min_eq_right hj]
  · simp only [serveToo, if_neg hprovides]
    unfold position?
    rw [hexact]
    exact findIdx?_set_of_pos (List.getElem?_eq_some_iff.mp hi).1 (by simp [Entry.hasAlias])

/-- An entry that goes on to answer for a key says the same. -/
theorem lookup_serveToo (h : r.Indexed) (hi : r.entries[i]? = some entry)
    (hposition : (r.serveToo i entry other ref).position? key = r.position? key) :
    (r.serveToo i entry other ref).lookup key = r.lookup key := by
  by_cases hprovides : (entry.provides? (.of other)).isSome
  · rw [serveToo_of_provides hprovides]
  · simp only [serveToo, if_neg hprovides] at hposition ⊢
    unfold lookup entry?
    rw [hposition]
    cases hj : r.position? key with
    | none => rfl
    | some j =>
      rw [Option.bind_some, Option.bind_some]
      by_cases hij : i = j
      · subst hij
        have hfound := provides?_of_found h (show r.entry? key = some entry by simp [hj, hi, entry?])
        rw [List.getElem?_set_self (List.getElem?_eq_some_iff.mp hi).1, hi, Option.bind_some,
          Option.bind_some, provides?_addAliases _ hfound]
      · rw [List.getElem?_set_ne hij]

/-! ## The request for the first capability -/

/-- A double is had of the entry that answers, or else of a new one at the end. -/
theorem Requested.position?_eq (hrequested : Requested mockOf r fresh capability name outcome)
    (hok : outcome.result = .ok mock) :
    outcome.registry.position? ⟨capability, name⟩ = some (r.place ⟨capability, name⟩) := by
  cases hrequested with
  | nameless _ => cases hok
  | found _ hentry =>
    obtain ⟨i, hposition, -⟩ := Option.bind_eq_some_iff.mp hentry
    simp [place, hposition]
  | created _ hnone =>
    rw [insert_of_position? mockOf hnone, place, hnone]
    simp [position?, size, Entry.ofMock]

/-- A request leaves everything as it is that is found under other keys. -/
theorem Requested.elsewhere (h : r.Indexed)
    (hrequested : Requested mockOf r fresh capability name outcome) (hkey : key ≠ ⟨capability, name⟩) :
    outcome.registry.position? key = r.position? key ∧
      outcome.registry.lookup key = r.lookup key := by
  cases hrequested with
  | nameless _ => exact ⟨rfl, rfl⟩
  | found _ _ => exact ⟨rfl, rfl⟩
  | created _ hnone =>
    rw [insert_of_position? mockOf hnone]
    exact ⟨position?_concat r rfl hkey, h.lookup_concat rfl hkey⟩

/-- A request creates no entry under another key. -/
theorem Requested.mem_keys (hrequested : Requested mockOf r fresh capability name outcome)
    (hkey : key ≠ ⟨capability, name⟩) (hmem : key ∈ outcome.registry.keys) : key ∈ r.keys := by
  cases hrequested with
  | nameless _ => exact hmem
  | found _ _ => exact hmem
  | created _ hnone =>
    rw [insert_of_position? mockOf hnone] at hmem
    simpa [keys, Entry.ofMock, hkey] using hmem

/-! ## Combining -/

theorem combine_of_error (hne : other ≠ capability)
    (herror : (r.getOrCreateMock mockOf fresh capability none).result = .error e) :
    r.combine mockOf fresh capability other = r.getOrCreateMock mockOf fresh capability none := by
  simp only [combine, if_neg hne, herror]

/-- **Combining lets the double of the first capability serve the second one too.** -/
theorem combine_eq (h : r.Indexed) (hne : other ≠ capability)
    (hok : (r.getOrCreateMock mockOf fresh capability none).result = .ok mock) :
    ∃ entry, (r.getOrCreateMock mockOf fresh capability none).registry.entries[
          r.place (.of capability)]? = some entry ∧
      r.combine mockOf fresh capability other =
        { result := .ok mock
          registry := (r.getOrCreateMock mockOf fresh capability none).registry.serveToo
            (r.place (.of capability)) entry other mock.handle
          events := (r.getOrCreateMock mockOf fresh capability none).events ++
            if (entry.provides? (.of other)).isSome then [] else
              [.combinedMock (.of capability) (.of other)] } := by
  have hrequested := requested mockOf h fresh capability none
  have hposition := hrequested.position?_eq hok
  have hkey : mock.key = .of capability := hrequested.key_eq hok
  obtain ⟨-, entry, hentry, -⟩ := (yields_iff (hrequested.indexed h)).mp (hrequested.yields h hok)
  obtain ⟨i, hi, hget⟩ := Option.bind_eq_some_iff.mp hentry
  rw [hkey] at hi
  obtain rfl : r.place (.of capability) = i := Option.some.inj (hposition.symm.trans hi)
  refine ⟨entry, hget, ?_⟩
  simp only [combine, if_neg hne, hok, hkey, hi, hget, serveToo]
  cases entry.provides? (.of other) with
  | some object => simp [← hok]
  | none => rfl

/-- What the entry of a double provides besides is served by that double. -/
theorem Yields.of_position?_eq (h : r.Coherent mockOf n) (hyields : r.Yields mockOf mock)
    (htype : mockOf other = mockOf mock.key.type)
    (hposition : r.position? (.of other) = r.position? mock.key) :
    r.Yields mockOf ⟨.of other, mock.handle, mock.object⟩ := by
  obtain ⟨-, entry, hentry, hmock⟩ := (yields_iff h.indexed).mp hyields
  have hother : r.entry? (.of other) = some entry := by
    rw [← hentry, entry?, entry?, hposition]
  obtain ⟨i, -, hget⟩ := Option.bind_eq_some_iff.mp hentry
  have hcoherent := h.entries entry (List.mem_of_getElem? hget)
  rcases mockAt_cases hcoherent (provides?_of_found h.indexed hentry) with ⟨ref, hhandle, hok⟩ | herror
  · have hsame := Except.ok.inj (hok.symm.trans hmock)
    rw [← show ref = mock.handle from congrArg Mock.handle hsame,
      ← show ref = mock.object from congrArg Mock.object hsame]
    refine (yields_iff h.indexed).mpr ⟨by simp, entry, hother, ?_⟩
    exact mockAt_of_handle hcoherent (htype ▸ hhandle) (provides?_of_found h.indexed hother)
  · cases herror.symm.trans hmock

/-- The position of a key that has an entry is that of the entry. -/
theorem Indexed.position?_of_keys (h : r.Indexed) (hi : r.keys[i]? = some key) :
    r.position? key = some i := by
  rw [keys, List.getElem?_map] at hi
  obtain ⟨entry, hget, rfl⟩ := Option.map_eq_some_iff.mp hi
  simp [position?, h.find?_exact_key hget]

/-- Whoever combines again finds that the second capability is provided. -/
theorem Yields.combine_eq (h : r.Indexed) (hne : other ≠ capability) (hkey : mock.key = .of capability)
    (hyields : r.Yields mockOf mock) (hposition : r.position? (.of capability) = some i)
    (hi : r.entries[i]? = some entry) (hprovides : (entry.provides? (.of other)).isSome)
    (later : Ref) :
    r.combine mockOf later capability other = { result := .ok mock, registry := r } := by
  have hrequest := hyields later
  rw [hkey] at hrequest
  obtain ⟨found, hget, heq⟩ := Registry.combine_eq h hne (congrArg Outcome.result hrequest)
  rw [show r.getOrCreateMock mockOf later capability none = _ from hrequest] at hget heq
  rw [place, hposition] at hget heq
  obtain rfl := Option.some.inj (hi.symm.trans hget)
  rw [heq, serveToo_of_provides hprovides, if_pos hprovides]
  rfl

section Served

variable {created : Outcome Mock} {after : Registry} (h : r.Indexed) (hne : other ≠ capability)
  (hrequested : Requested mockOf r fresh capability none created)
  (hget : created.registry.entries[r.place (.of capability)]? = some entry)
  (heq : after = created.registry.serveToo (r.place (.of capability)) entry other ref)

include h hne hrequested hget heq

/-- The second capability is answered for by the first of the entries with such an alias, the one that
serves the first capability being among them now. -/
theorem Requested.position?_served (hown : .of other ∉ r.keys) :
    after.position? (.of other) = some ((r.position? (.of other)).elim (r.place (.of capability))
      (min (r.place (.of capability)))) := by
  have hkey : Key.of other ≠ ⟨capability, none⟩ := mt Key.of_inj.mp hne
  rw [heq, position?_serveToo (hrequested.indexed h) hget (mt (hrequested.mem_keys hkey) hown),
    (hrequested.elsewhere h hkey).1]

/-- What answers for the second capability at the same position as before says the same as before. -/
theorem Requested.lookup_served (hposition : after.position? (.of other) = r.position? (.of other)) :
    after.lookup (.of other) = r.lookup (.of other) := by
  have hkey : Key.of other ≠ ⟨capability, none⟩ := mt Key.of_inj.mp hne
  obtain ⟨hcreated, hlookup⟩ := hrequested.elsewhere h hkey
  rw [heq] at hposition ⊢
  rw [lookup_serveToo (hrequested.indexed h) hget (hposition.trans hcreated.symm), hlookup]

omit hne in
/-- Any other key is left alone, if it is not that of a double that has to be created. -/
theorem Requested.elsewhere_served (hother : key ≠ .of other)
    (hfound : key = .of capability → r.lookup key ≠ none) :
    after.position? key = r.position? key ∧ after.lookup key = r.lookup key := by
  have hcreated : created.registry.position? key = r.position? key ∧
      created.registry.lookup key = r.lookup key := by
    by_cases hkey : key = ⟨capability, none⟩
    · have hposition := mt (h.lookup_eq_none_iff_position? key).mpr (hfound hkey)
      rw [hkey] at hposition
      rw [hrequested.registry_eq hposition]
      exact ⟨rfl, rfl⟩
    · exact hrequested.elsewhere h hkey
  have hposition : after.position? key = created.registry.position? key := by
    rw [heq, position?_serveToo_of_ne hget hother]
  rw [heq] at hposition ⊢
  rw [lookup_serveToo (hrequested.indexed h) hget hposition, hposition]
  exact hcreated

/-- **Combining has its effect whenever there is a double for the first capability.** -/
theorem Requested.combines (hok : created.result = .ok mock) (hafter : after.Coherent mockOf n)
    (hyields : after.Yields mockOf mock) (hextends : r.Extends after)
    (hmatches : mockOf other = mockOf capability) :
    r.Combines mockOf capability other mock after := by
  have hkeys : Key.of other ≠ .of capability := mt Key.of_inj.mp hne
  have hkey : mock.key = .of capability := hrequested.key_eq hok
  have hserving : after.position? (.of capability) = some (r.place (.of capability)) := by
    rw [heq, position?_serveToo_of_ne hget hkeys.symm]
    exact hrequested.position?_eq hok
  have hbehind (hown : .of other ∉ r.keys)
      (hposition : ∀ j, r.position? (.of other) = some j → r.place (.of capability) ≤ j) :
      after.position? (.of other) = some (r.place (.of capability)) ∧
        after.Yields mockOf ⟨.of other, mock.handle, mock.object⟩ := by
    have hother : after.position? (.of other) = some (r.place (.of capability)) := by
      rw [hrequested.position?_served h hne hget heq hown]
      cases hj : r.position? (.of other) with
      | none => rfl
      | some j => rw [Option.elim_some, Nat.min_eq_left (hposition j hj)]
    refine ⟨hother, hyields.of_position?_eq hafter ?_ ?_⟩
    · rw [hkey]
      exact hmatches
    · rw [hkey, hother, hserving]
  refine ⟨⟨hkey, hyields⟩, hextends.stays, hserving, ?_, ?_, hbehind, ?_, ?_, ?_⟩
  · intro i own hi hown
    have hold : r.keys[i]? = some (.of other) := by simp [keys, hi, hown]
    have hnew := hafter.indexed.position?_of_keys (hextends.stays i _ hold)
    refine ⟨hnew, ?_⟩
    rw [hrequested.lookup_served h hne hget heq (hnew.trans (h.position?_of_keys hold).symm), ← hown]
    simp [lookup, h.entry?_key (List.mem_of_getElem? hi), Entry.provides?]
  · intro j hown hposition hj
    have hsame : after.position? (.of other) = some j := by
      rw [hrequested.position?_served h hne hget heq hown, hposition, Option.elim_some,
        Nat.min_eq_right (Nat.le_of_lt hj)]
    exact ⟨hsame, hrequested.lookup_served h hne hget heq (hsame.trans hposition.symm)⟩
  · intro hnone
    rw [h.lookup_eq_none_iff_position?] at hnone
    refine (hbehind (fun hown => ?_) fun j hj => ?_).2
    · obtain ⟨i, hi⟩ := List.mem_iff_getElem?.mp hown
      cases hnone.symm.trans (h.position?_of_keys hi)
    · cases hnone.symm.trans hj
  · exact fun key hother hfound => hrequested.elsewhere_served h hget heq hother hfound
  · obtain ⟨later, hwritten, hprovides⟩ := getElem?_serveToo other ref hget
    rw [← heq] at hwritten
    exact hyields.combine_eq hafter.indexed hne hkey hserving hwritten hprovides

end Served

/-- A capability is not combined with itself. -/
theorem combine_self (mockOf : TypeId → TypeId) (r : Registry) (fresh : Ref) (capability : TypeId) :
    r.combine mockOf fresh capability capability =
      { result := .error (.invalidArgument (.combinedWithItself capability)), registry := r } :=
  if_pos rfl

theorem combinesOrFails (h : r.Coherent mockOf n) (huniform : r.Uniform mockOf)
    (hmatches : mockOf other = mockOf capability) :
    r.CombinesOrFails mockOf ⟨n⟩ capability other := by
  by_cases hne : other = capability
  · subst hne
    constructor
    · intro e
      simp [combine_self, eq_comm]
    · intro e herror
      rw [combine_self] at herror ⊢
      rw [← herror]
    · intro mock hok
      rw [combine_self] at hok
      cases hok
  have hrequested := requested mockOf h.indexed ⟨n⟩ capability none
  have hfails (e : Error) := hrequested.error_iff (e := e) h huniform
  cases hresult : (r.getOrCreateMock mockOf ⟨n⟩ capability none).result with
  | error e =>
    have heq := combine_of_error hne hresult
    constructor
    · intro e
      rw [heq, hfails e]
      simp [hne]
    · intro e herror
      rw [heq] at herror ⊢
      exact hrequested.eq_of_error herror
    · intro mock hok
      rw [heq, hresult] at hok
      cases hok
  | ok mock =>
    have hasks : Asks mockOf r ⟨n⟩ (r.combine mockOf ⟨n⟩ capability other) :=
      .combine capability other
    obtain ⟨entry, hget, heq⟩ := combine_eq h.indexed hne hresult
    have hok := congrArg Outcome.result heq
    have hcombines := hrequested.combines h.indexed hne hget (congrArg Outcome.registry heq) hresult
      (hasks.coherent h) (hasks.yields h.indexed hok) (extends_combine h.indexed _ _ _) hmatches
    constructor
    · intro e
      have hrefuses : ¬ r.RefusesDouble capability none e := by
        rw [← hfails, hresult]
        exact nofun
      simp [hok, hne, hrefuses]
    · intro e herror
      cases hok.symm.trans herror
    · intro mock' hok'
      obtain rfl := Except.ok.inj (hok.symm.trans hok')
      exact hcombines

/-- **The effect of combining on every look-up**, in the registries that come of operations and in those
of fixtures: it fails for a capability with itself and for one whose own entry is no double; otherwise
the first capability has the double that is returned, the second one is answered for by its own entry or
else by the first entry in order that serves it, everything else is left alone, and combining again
changes nothing. -/
theorem combining_effect {E : Type} (catalog : Catalog E) (conduct : Conduct E) :
    (∀ operations n, (∀ operation ∈ operations, operation.Matches catalog.mockOf) →
      (Operation.performAll catalog.mockOf operations n empty).CombinesAll catalog.mockOf
        (n + operations.length)) ∧
    (conduct.Matches catalog.mockOf → ∀ w, World.Reachable catalog conduct w →
      w.fixture.registry.CombinesAll catalog.mockOf w.allocated) := by
  constructor
  · intro operations n hoperations capability other
    exact combinesOrFails ((Arises.empty n).performAll operations).coherent
      ((uniform_empty catalog.mockOf).performAll hoperations n)
  · intro hmatches w hw capability other
    exact combinesOrFails hw.sound.registry.coherent (hw.uniform hmatches)

/-- A recorder serves as the audit trail, behind a logger and in front of a real clock. Combined with the
logger, the audit trail is served by it; combined with a journal, which is created, it stays with the
recorder; and the clock is combined with nothing. -/
theorem combining_effect_in_order :
    let catalog : Catalog Unit := ⟨fun _ => ⟨"MockLogger"⟩, fun _ => .null, fun _ => []⟩
    let run : Runner Unit := World.idle
    let audit : Key := .of ⟨"AuditTrail"⟩
    let operations : List Operation :=
      [.getOrCreateMock ⟨"Logger"⟩ none, .combine ⟨"Recorder"⟩ ⟨"AuditTrail"⟩,
        .useInstance ⟨"Clock"⟩ ⟨7⟩]
    let r := Operation.performAll catalog.mockOf operations 0 empty
    let combine := fun capability other => r.combine catalog.mockOf ⟨3⟩ capability other
    let logging := combine ⟨"Logger"⟩ ⟨"AuditTrail"⟩
    let journal := combine ⟨"Journal"⟩ ⟨"AuditTrail"⟩
    let start : World Unit := { surroundings := () }
    let used := start.performAll catalog run [.combine ⟨"Logger"⟩ ⟨"AuditTrail"⟩]
    r.position? audit = some 1 ∧
      logging.result = .ok ⟨.of ⟨"Logger"⟩, ⟨0⟩, ⟨0⟩⟩ ∧
      logging.registry.position? audit = some 0 ∧
      logging.registry.Yields catalog.mockOf ⟨audit, ⟨0⟩, ⟨0⟩⟩ ∧
      (∀ later, logging.registry.combine catalog.mockOf later ⟨"Logger"⟩ ⟨"AuditTrail"⟩ =
        { result := .ok ⟨.of ⟨"Logger"⟩, ⟨0⟩, ⟨0⟩⟩, registry := logging.registry }) ∧
      journal.result = .ok ⟨.of ⟨"Journal"⟩, ⟨3⟩, ⟨3⟩⟩ ∧
      journal.registry.lookup audit = r.lookup audit ∧
      (combine ⟨"Clock"⟩ ⟨"AuditTrail"⟩).result =
        .error (.invalidArgument (.notAMock (.of ⟨"Clock"⟩) .real)) ∧
      used.fixture.registry.CombinesAll catalog.mockOf used.allocated := by
  intro catalog run audit operations r combine logging journal start used
  have hoperations : ∀ operation ∈ operations, operation.Matches catalog.mockOf := by
    intro operation hoperation
    simp only [operations, List.mem_cons, List.not_mem_nil, or_false] at hoperation
    rcases hoperation with rfl | rfl | rfl <;> trivial
  have hstart : World.Reachable catalog {} start := World.Fresh.reachable ⟨⟨{}, rfl⟩, trivial⟩
  have hused : World.Reachable catalog {} used :=
    hstart.performAll (World.scripted_idle catalog fun _ _ => trivial)
      (fun _ _ _ => trivial) fun _ _ _ => trivial
  obtain ⟨hbare, hfixture⟩ := combining_effect catalog {}
  have hr : r.CombinesAll catalog.mockOf 3 := hbare operations 0 hoperations
  have hown : audit ∉ r.keys := by decide +kernel
  have hserving : r.position? audit = some 1 := by decide +kernel
  have hlogged : logging.result = .ok ⟨.of ⟨"Logger"⟩, ⟨0⟩, ⟨0⟩⟩ := by decide +kernel
  have hjournaled : journal.result = .ok ⟨.of ⟨"Journal"⟩, ⟨3⟩, ⟨3⟩⟩ := by decide +kernel
  have hlogging := (hr ⟨"Logger"⟩ ⟨"AuditTrail"⟩ rfl).succeeds _ hlogged
  have hjournal := (hr ⟨"Journal"⟩ ⟨"AuditTrail"⟩ rfl).succeeds _ hjournaled
  have hclock : r.entries[2]? = some (.ofReal ⟨"Clock"⟩ ⟨7⟩) := rfl
  obtain ⟨hposition, hyields⟩ := hlogging.behind hown fun j _ => Nat.zero_le j
  refine ⟨hserving, hlogged, hposition, hyields, hlogging.repeated, hjournaled, ?_, ?_, ?_⟩
  · exact (hjournal.ahead hown hserving (by decide +kernel)).2
  · exact ((hr ⟨"Clock"⟩ ⟨"AuditTrail"⟩ rfl).fails _).mpr (.inr ⟨by decide,
      .plain (List.mem_of_getElem? hclock) rfl (.inl rfl)⟩)
  · exact hfixture (fun _ _ _ _ => rfl) used hused

end Registry

end TestDoubles
