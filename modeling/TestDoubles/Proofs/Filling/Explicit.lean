import TestDoubles.Arguments

/-!
# Matching explicit arguments

Resolution marks explicit arguments as used, one by one, in a mask. What this comes to is simpler to say
without the mask: of the arguments of one type, the first is for the first parameter of that type, the
second for the second, and so on. The two descriptions are related by `Arguments.Covers`, which holds
between the parameters filled so far and the mask that they leave behind.
-/

namespace TestDoubles

namespace Arguments

/-- The arguments of `type` that are not marked as used, in order. -/
def unused (type : TypeId) : List Stored → List Bool → List Stored
  | [], _ => []
  | value :: values, used =>
    if used.headD false = false ∧ value.type = type then
      value :: unused type values used.tail
    else
      unused type values used.tail

/-- The argument for a parameter, given the parameters before it: of the arguments of its type, the
one that has as many before it as the parameter has parameters of its type. -/
def argumentFor (args : Arguments) (earlier : List Param) (param : Param) : Option Stored :=
  (args.values.filter fun value => value.type = param.key.type)[
    earlier.countP fun p => p.key.type = param.key.type]?

/-- The mask `used` is that after the parameters `earlier` have been filled. -/
structure Covers (args : Arguments) (earlier : List Param) (used : List Bool) : Prop where
  length_eq : used.length = args.values.length
  unused_eq (type : TypeId) : unused type args.values used =
    (args.values.filter fun value => value.type = type).drop
      (earlier.countP fun p => p.key.type = type)

/-! ## The mask -/

theorem unused_replicate (type : TypeId) (values : List Stored) (n : Nat) :
    unused type values (List.replicate n false) =
      values.filter fun value => value.type = type := by
  induction values generalizing n with
  | nil => rfl
  | cons value values ih =>
    have hhead : (List.replicate n false).headD false = false := by cases n <;> rfl
    rw [unused, hhead, List.tail_replicate, ih, List.filter_cons]
    simp

/-- What is found is the first of the unused arguments. -/
theorem map_snd_firstUnused (type : TypeId) (values : List Stored) (used : List Bool) :
    (firstUnused type values used).map Prod.snd = (unused type values used).head? := by
  induction values generalizing used with
  | nil => rfl
  | cons value values ih =>
    unfold firstUnused unused
    split
    · rfl
    · rw [← ih, Option.map_map]
      rfl

/-- What is found is an argument of the type that has not been used. -/
theorem getElem?_of_firstUnused {type : TypeId} {values : List Stored} {used : List Bool}
    {index : Nat} {value : Stored} (h : firstUnused type values used = some (index, value)) :
    values[index]? = some value ∧ value.type = type ∧ used[index]?.getD false = false := by
  induction values generalizing used index with
  | nil => cases h
  | cons first values ih =>
    unfold firstUnused at h
    split at h
    next hfirst =>
      obtain ⟨rfl, rfl⟩ := Prod.mk.inj (Option.some.inj h)
      refine ⟨rfl, hfirst.2, ?_⟩
      rw [← List.head?_eq_getElem?, ← List.headD_eq_head?_getD]
      exact hfirst.1
    next =>
      obtain ⟨⟨i, found⟩, hrest, hpair⟩ := Option.map_eq_some_iff.mp h
      obtain ⟨rfl, rfl⟩ := Prod.mk.inj hpair
      obtain ⟨hget, htype, hunused⟩ := ih hrest
      rw [List.getElem?_tail] at hunused
      exact ⟨hget, htype, hunused⟩

/-- Marking what was found takes it from the unused arguments of its type, and no others. -/
theorem unused_set {type : TypeId} {values : List Stored} {used : List Bool} {index : Nat}
    {value : Stored} (h : firstUnused type values used = some (index, value))
    (hlength : used.length = values.length) (other : TypeId) :
    unused other values (used.set index true) =
      if other = type then (unused type values used).tail else unused other values used := by
  induction values generalizing used index with
  | nil => cases h
  | cons first values ih =>
    obtain ⟨mark, used, rfl⟩ := List.exists_cons_of_length_eq_add_one hlength
    by_cases hfirst : mark = false ∧ first.type = type
    · -- The first argument is the one that was found, so it is of no other type.
      obtain ⟨rfl, rfl⟩ := hfirst
      simp only [firstUnused, List.headD_cons, true_and, if_true, Option.some.injEq,
        Prod.mk.injEq] at h
      obtain ⟨rfl, -⟩ := h
      by_cases hother : other = first.type
      · simp [unused, hother]
      · simp [unused, hother, Ne.symm hother]
    · simp only [firstUnused, List.headD_cons, hfirst, if_false, Option.map_eq_some_iff] at h
      obtain ⟨⟨i, found⟩, hrest, hpair⟩ := h
      obtain ⟨rfl, rfl⟩ := Prod.mk.inj hpair
      have hlength' : used.length = values.length := by simpa using hlength
      have hset := ih hrest hlength'
      rw [List.tail_cons] at hset
      by_cases hother : other = type
      · subst hother
        simp [unused, hfirst, hset]
      · simp [unused, hset, hother]

/-! ## Filling parameters in order -/

theorem covers_nil (args : Arguments) : args.Covers [] args.noneUsed where
  length_eq := List.length_replicate
  unused_eq type := unused_replicate type args.values args.length

namespace Covers

variable {args : Arguments} {earlier : List Param} {used : List Bool}

/-- **What the mask leads to is the argument for the parameter.** -/
theorem map_snd_find? (h : args.Covers earlier used) (param : Param) :
    (args.find? param.key.type used).map Prod.snd = args.argumentFor earlier param := by
  rw [find?, map_snd_firstUnused, h.unused_eq, List.head?_drop]
  rfl

theorem argumentFor_eq_some (h : args.Covers earlier used) {param : Param} {index : Nat}
    {value : Stored} (hfind : args.find? param.key.type used = some (index, value)) :
    args.argumentFor earlier param = some value := by
  rw [← h.map_snd_find?, hfind]
  rfl

theorem argumentFor_eq_none (h : args.Covers earlier used) {param : Param}
    (hfind : args.find? param.key.type used = none) : args.argumentFor earlier param = none := by
  rw [← h.map_snd_find?, hfind]
  rfl

private theorem countP_concat (earlier : List Param) (param : Param) (type : TypeId) :
    (earlier ++ [param]).countP (fun p => p.key.type = type) =
      earlier.countP (fun p => p.key.type = type) + if param.key.type = type then 1 else 0 := by
  simp [List.countP_append, List.countP_singleton]

/-- An explicit argument has been used for the parameter. -/
theorem take (h : args.Covers earlier used) {param : Param} {index : Nat} {value : Stored}
    (hfind : args.find? param.key.type used = some (index, value)) :
    args.Covers (earlier ++ [param]) (used.set index true) where
  length_eq := by rw [List.length_set, h.length_eq]
  unused_eq type := by
    rw [unused_set hfind h.length_eq, countP_concat]
    by_cases htype : type = param.key.type
    · subst htype
      rw [if_pos rfl, if_pos rfl, h.unused_eq, List.tail_drop]
    · rw [if_neg htype, if_neg (Ne.symm htype), h.unused_eq, Nat.add_zero]

/-- No explicit argument was left for the parameter, so none of its type is left for any other. -/
theorem skip (h : args.Covers earlier used) {param : Param}
    (hfind : args.find? param.key.type used = none) : args.Covers (earlier ++ [param]) used where
  length_eq := h.length_eq
  unused_eq type := by
    rw [h.unused_eq, countP_concat]
    by_cases htype : type = param.key.type
    · subst htype
      have hnone := h.argumentFor_eq_none hfind
      have hlength := List.getElem?_eq_none_iff.mp hnone
      rw [List.drop_eq_nil_of_le hlength, List.drop_eq_nil_of_le (by omega)]
    · rw [if_neg (Ne.symm htype), Nat.add_zero]

end Covers

end Arguments

end TestDoubles
