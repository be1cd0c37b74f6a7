import TestDoubles.Proofs.Registry.Lookup

/-!
# What the entries answer

What is found under a key depends on the entries alone, and can be read off the list of entries: the
entry with that own key answers, or else the first one with such an alias. This makes it simple to say
what is found after doubles have been created on demand, which are appended to the entries one by one.
-/

namespace TestDoubles

namespace Registry

/-- What is found under a key among some entries, and how it came to exist. -/
def answer? (entries : List Entry) (key : Key) : Option (Stored × Origin) :=
  match entries.find? fun entry => entry.key = key with
  | some entry => some (entry.object, entry.origin)
  | none =>
    (entries.find? fun entry => entry.hasAlias key).bind fun entry =>
      (entry.aliases.find? fun a => a.key = key).map fun a => (a.object, entry.origin)

/-- Whether some entry provides a key. -/
def answers (entries : List Entry) (key : Key) : Bool :=
  entries.any fun entry => (entry.provides? key).isSome

theorem answers_append (entries entries' : List Entry) (key : Key) :
    answers (entries ++ entries') key = (answers entries key || answers entries' key) :=
  List.any_append

/-- Nothing is found under a key exactly if no entry provides it. -/
theorem answer?_eq_none_iff {entries : List Entry} {key : Key} :
    answer? entries key = none ↔ answers entries key = false := by
  have hprovided {p : Entry → Bool} {entry : Entry} (hentry : entries.find? p = some entry)
      (hprovides : entry.key = key ∨ entry.hasAlias key) : answers entries key = true :=
    List.any_eq_true.mpr ⟨entry, List.mem_of_find?_eq_some hentry,
      (provides?_isSome_iff entry key).mpr hprovides⟩
  unfold answer?
  cases hown : entries.find? fun entry => entry.key = key with
  | some entry =>
    simp [hprovided hown (.inl (by simpa using List.find?_some hown))]
  | none =>
    cases hother : entries.find? fun entry => entry.hasAlias key with
    | some entry =>
      have halias : entry.hasAlias key = true := by simpa using List.find?_some hother
      have hfound : entry.aliases.find? (fun a => a.key = key) ≠ none := by
        simpa [Entry.hasAlias] using halias
      simp [hprovided hother (.inr halias), hfound]
    | none =>
      rw [List.find?_eq_none] at hown hother
      refine iff_of_true rfl (List.any_eq_false.mpr fun entry hentry => ?_)
      rw [provides?_isSome_iff]
      rintro (hkey | halias)
      · exact hown entry hentry (by simpa using hkey)
      · exact hother entry hentry halias

namespace Indexed

variable {r : Registry} (h : r.Indexed)

include h

/-- The entry that answers is the one with that own key, or else the first with such an alias. -/
theorem entry?_eq (key : Key) : r.entry? key =
    (r.entries.find? fun entry => entry.key = key).or
      (r.entries.find? fun entry => entry.hasAlias key) := by
  unfold entry?
  rw [h.position?_eq_scan, scan, List.find?_eq_bind_findIdx?_getElem?,
    List.find?_eq_bind_findIdx?_getElem?]
  cases hown : r.entries.findIdx? fun entry => entry.key = key with
  | none => rfl
  | some i =>
    obtain ⟨hlt, -⟩ := List.findIdx?_eq_some_iff_getElem.mp hown
    simp [List.getElem?_eq_getElem hlt]

theorem lookup_eq_answer? (key : Key) : r.lookup key = answer? r.entries key := by
  rw [lookup, h.entry?_eq]
  unfold answer?
  cases hown : r.entries.find? fun entry => entry.key = key with
  | some entry =>
    have hkey : entry.key = key := by simpa using List.find?_some hown
    simp [Entry.provides?, hkey]
  | none =>
    cases halias : r.entries.find? fun entry => entry.hasAlias key with
    | none => rfl
    | some entry =>
      have hkey : entry.key ≠ key := by
        simpa using List.find?_eq_none.mp hown entry (List.mem_of_find?_eq_some halias)
      simp [Entry.provides?, hkey, Option.map_map, Function.comp_def]

/-- A key is there if some entry provides it. -/
theorem contains_eq_answers (key : Key) : r.contains key = answers r.entries key := by
  rw [h.agreesWithScan.contains_eq, answers, Bool.eq_iff_iff, List.any_eq_true]
  constructor
  · intro hscan
    obtain ⟨i, hi⟩ := Option.isSome_iff_exists.mp hscan
    obtain ⟨entry, hentry, hprovides⟩ := provides?_of_scan hi
    exact ⟨entry, List.mem_of_getElem? hentry, hprovides⟩
  · rintro ⟨entry, hentry, hprovides⟩
    rw [scan, Option.isSome_or, Bool.or_eq_true, List.findIdx?_isSome, List.findIdx?_isSome,
      List.any_eq_true, List.any_eq_true]
    rcases (provides?_isSome_iff entry key).mp hprovides with hown | halias
    · exact .inl ⟨entry, hentry, by simpa using hown⟩
    · exact .inr ⟨entry, hentry, halias⟩

theorem lookup_eq_none_iff (key : Key) : r.lookup key = none ↔ answers r.entries key = false := by
  rw [h.lookup_eq_answer?, answer?_eq_none_iff]

end Indexed

/-! ## Doubles created on demand -/

theorem exists_findIdx? {keys : List Key} {key : Key} (h : key ∈ keys) :
    ∃ i, (keys.findIdx? fun k => k = key) = some i := by
  rw [← Option.isSome_iff_exists, List.findIdx?_isSome, List.any_eq_true]
  exact ⟨key, h, decide_eq_true rfl⟩

theorem findIdx?_eq_none {keys : List Key} {key : Key} (h : key ∉ keys) :
    (keys.findIdx? fun k => k = key) = none := by
  rw [List.findIdx?_eq_none_iff]
  intro k hk
  refine decide_eq_false ?_
  rintro rfl
  exact h hk

/-- The entries of doubles that are created on demand for some keys, one object after the other. -/
def freshDoubles (mockOf : TypeId → TypeId) (next : Nat) (keys : List Key) : List Entry :=
  keys.mapIdx fun i key =>
    .ofMock .autoMock (mockOf key.type) ⟨key, ⟨next + i⟩, ⟨next + i⟩⟩

variable (mockOf : TypeId → TypeId)

@[simp] theorem freshDoubles_nil (next : Nat) : freshDoubles mockOf next [] = [] := rfl

theorem freshDoubles_concat (next : Nat) (keys : List Key) (key : Key) :
    freshDoubles mockOf next (keys ++ [key]) = freshDoubles mockOf next keys ++
      [.ofMock .autoMock (mockOf key.type)
        ⟨key, ⟨next + keys.length⟩, ⟨next + keys.length⟩⟩] :=
  List.mapIdx_concat

/-- Doubles that were just created answer for their own keys and nothing else. -/
theorem answers_freshDoubles (next : Nat) (keys : List Key) (key : Key) :
    answers (freshDoubles mockOf next keys) key = decide (key ∈ keys) := by
  rw [answers, Bool.eq_iff_iff, List.any_eq_true, decide_eq_true_iff]
  constructor
  · rintro ⟨entry, hentry, hprovides⟩
    obtain ⟨i, hi, rfl⟩ := List.mem_mapIdx.mp hentry
    rcases (provides?_isSome_iff _ key).mp hprovides with hown | halias
    · exact hown ▸ List.getElem_mem hi
    · cases halias
  · intro hkey
    obtain ⟨i, hi, rfl⟩ := List.mem_iff_getElem.mp hkey
    refine ⟨_, List.mem_mapIdx.mpr ⟨i, hi, rfl⟩, ?_⟩
    exact (provides?_isSome_iff _ _).mpr (.inl rfl)

/-- The double that was created for a key, if one was. -/
theorem find?_freshDoubles (next : Nat) (keys : List Key) (key : Key) :
    ((freshDoubles mockOf next keys).find? fun entry => entry.key = key) =
      (keys.findIdx? fun k => k = key).map fun i =>
        .ofMock .autoMock (mockOf key.type) ⟨key, ⟨next + i⟩, ⟨next + i⟩⟩ := by
  have hkeys : (freshDoubles mockOf next keys).map Entry.key = keys := by
    refine List.ext_getElem (by simp [freshDoubles]) fun i hi hi' => ?_
    simp [freshDoubles, Entry.ofMock]
  have hposition : ((freshDoubles mockOf next keys).findIdx? fun entry => entry.key = key) =
      keys.findIdx? fun k => k = key := by
    conv_rhs => rw [← hkeys]
    rw [List.findIdx?_map]
    rfl
  rw [List.find?_eq_bind_findIdx?_getElem?, hposition]
  cases hi : keys.findIdx? fun k => k = key with
  | none => rfl
  | some i =>
    obtain ⟨hlt, hkey, -⟩ := List.findIdx?_eq_some_iff_getElem.mp hi
    obtain rfl : keys[i] = key := by simpa using hkey
    simp [freshDoubles, hlt]

/-- Doubles created for keys that nothing answered for answer for these keys, each with its own
object. -/
theorem answer?_append_freshDoubles {entries : List Entry} {keys : List Key}
    (hunanswered : ∀ key ∈ keys, answers entries key = false) (next : Nat) (key : Key) :
    answer? (entries ++ freshDoubles mockOf next keys) key =
      (answer? entries key).or ((keys.findIdx? fun k => k = key).map fun i =>
        (.object key.type ⟨next + i⟩, .autoMock)) := by
  have hplain : ((freshDoubles mockOf next keys).find? fun entry => entry.hasAlias key) = none := by
    rw [List.find?_eq_none]
    intro entry hentry
    obtain ⟨i, hi, rfl⟩ := List.mem_mapIdx.mp hentry
    exact Bool.false_ne_true
  have hfound (hanswers : answers entries key = true) :
      (keys.findIdx? fun k => k = key) = none := by
    refine findIdx?_eq_none fun hkey => ?_
    rw [hunanswered key hkey] at hanswers
    cases hanswers
  unfold answer?
  rw [List.find?_append, List.find?_append, hplain, Option.or_none, find?_freshDoubles]
  cases hown : entries.find? fun entry => entry.key = key with
  | some entry => rfl
  | none =>
    cases hother : entries.find? fun entry => entry.hasAlias key with
    | none => cases keys.findIdx? fun k => k = key <;> rfl
    | some entry =>
      have halias : entry.hasAlias key = true := by simpa using List.find?_some hother
      have hprovides := (provides?_isSome_iff entry key).mpr (.inr halias)
      rw [hfound (List.any_eq_true.mpr ⟨entry, List.mem_of_find?_eq_some hother, hprovides⟩)]
      simp

theorem capabilityKey_eq {capability : TypeId} {name : Option String} {key : Key}
    (h : capabilityKey capability name = .ok key) : key = ⟨capability, name⟩ := by
  unfold capabilityKey at h
  split at h
  · exact (Except.ok.inj h).symm
  · split at h
    · cases h
    · exact (Except.ok.inj h).symm

/-- A key is answered for exactly if it has a position. -/
theorem Indexed.lookup_eq_none_iff_position? {r : Registry} (h : r.Indexed) (key : Key) :
    r.lookup key = none ↔ r.position? key = none := by
  rw [← Option.not_isSome_iff_eq_none, ← Option.not_isSome_iff_eq_none,
    h.agreesWithScan.lookup_isSome, contains]

/-- A double that is created on demand is appended to the entries. -/
theorem getOrCreateMock_of_lookup {r : Registry} (h : r.Indexed) {fresh : Ref} {key : Key}
    {mock : Mock} (hlookup : r.lookup key = none)
    (hok : (r.getOrCreateMock mockOf fresh key.type key.name).result = .ok mock) :
    mock = ⟨key, fresh, fresh⟩ ∧
      (r.getOrCreateMock mockOf fresh key.type key.name).registry.entries =
        r.entries ++ [.ofMock .autoMock (mockOf key.type) ⟨key, fresh, fresh⟩] := by
  have hposition := (h.lookup_eq_none_iff_position? key).mp hlookup
  unfold getOrCreateMock at hok ⊢
  split at hok
  · cases hok
  next key' hkey =>
    obtain rfl : key' = key := capabilityKey_eq hkey
    dsimp only at hok ⊢
    rw [hposition] at hok ⊢
    dsimp only at hok ⊢
    refine ⟨(Except.ok.inj hok).symm, ?_⟩
    exact congrArg Registry.entries (insert_of_position? mockOf (by exact hposition))

end Registry

end TestDoubles
