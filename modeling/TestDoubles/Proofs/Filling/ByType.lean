import Mathlib.Algebra.BigOperators.Group.Finset.Basic
import Mathlib.Algebra.BigOperators.Group.Finset.Piecewise
import TestDoubles.Proofs.Filling.Marks
import TestDoubles.Proofs.Run.Reachable

/-!
# Explicit arguments, type by type

Explicit arguments are looked for one by one, in one mask for all types. What comes of it concerns each
type by itself: its first argument goes to its first parameter, its second one to the second parameter,
and what is too many of one type or the other is left over. So it does not matter how arguments of
different types are mixed.

- `Arguments.Meant` says which argument is meant for which parameter, by counting those in front.
- `Arguments.Marked` is the invariant of the mask: of each type, as many arguments are marked as there
  have been parameters. `Arguments.Marked.use` is its step, `Arguments.marked_maskAfter` its run.
- `Arguments.Covers.count_false` counts what is left over, type by type.
- `World.FilledByType` is what comes of the parameters of a constructor, and `World.arguments_by_type`
  shows it; `World.resolveArguments_sameByType` is about arguments that are mixed in another way.
-/

namespace TestDoubles

namespace Arguments

/-- The argument at position `j` is meant for the parameter at position `i`: it is of the same type, and
as many of that type are in front of the one as of the other. -/
def Meant (args : Arguments) (params : List Param) (i j : Nat) : Prop :=
  ∃ param value, params[i]? = some param ∧ args.values[j]? = some value ∧
    value.type = param.key.type ∧
    (args.values.take j).countP (fun v => v.type = param.key.type) =
      (params.take i).countP fun p => p.key.type = param.key.type

/-- The number of arguments that are too many for some parameters: of every type, as many as there are
more of them than parameters. -/
def leftOver (args : Arguments) (params : List Param) : Nat :=
  ∑ type ∈ (args.values.map Stored.type).toFinset,
    (args.values.countP (fun v => v.type = type) - params.countP fun p => p.key.type = type)

/-- Two lists of arguments are the same for each type, however the types are mixed. -/
def SameByType (args other : Arguments) : Prop :=
  ∀ type, (args.values.filter fun v => v.type = type) = other.values.filter fun v => v.type = type

/-- The mask marks the arguments that are meant for the parameters `earlier`. -/
structure Marked (args : Arguments) (earlier : List Param) (used : List Bool) : Prop where
  length_eq : used.length = args.values.length
  marked (j : Nat) (value : Stored) (hj : args.values[j]? = some value) :
    used[j]?.getD false = true ↔ (args.values.take j).countP (fun v => v.type = value.type) <
      earlier.countP fun p => p.key.type = value.type

variable {args other : Arguments} {earlier params : List Param} {param : Param} {used : List Bool}
  {type : TypeId} {values : List Stored} {value : Stored} {i i' j : Nat}

/-! ## How many are in front -/

/-- In front of a later position there are more elements with a property than in front of one that has
it. -/
theorem countP_take_lt {α : Type} {l : List α} {p : α → Bool} {a : α} {i j : Nat} (hij : i < j)
    (hi : l[i]? = some a) (ha : p a) : (l.take i).countP p < (l.take j).countP p := by
  have hsucc : (l.take (i + 1)).countP p = (l.take i).countP p + 1 := by
    rw [List.take_add_one, hi, Option.toList_some, List.countP_append, List.countP_singleton,
      if_pos ha]
  -- The element itself is the one that is counted more.
  have hle : (l.take (i + 1)).countP p ≤ (l.take j).countP p := by
    apply List.Sublist.countP_le
    exact List.take_sublist_take_left hij
  omega

/-- Of the elements with a property, there is one with `n` others in front, if there are so many. -/
theorem exists_countP_take {α : Type} {l : List α} {p : α → Bool} {n : Nat} (h : n < l.countP p) :
    ∃ i a, l[i]? = some a ∧ p a ∧ (l.take i).countP p = n := by
  induction l generalizing n with
  | nil => cases h
  | cons first l ih =>
    rw [List.countP_cons] at h
    by_cases hfirst : p first
    · cases n with
      | zero => exact ⟨0, first, rfl, hfirst, rfl⟩
      | succ n =>
        rw [if_pos hfirst] at h
        obtain ⟨i, a, hi, ha, hcount⟩ := ih (Nat.lt_of_add_lt_add_right h)
        exact ⟨i + 1, a, hi, ha, by rw [List.take_succ_cons, List.countP_cons, if_pos hfirst, hcount]⟩
    · rw [if_neg hfirst] at h
      obtain ⟨i, a, hi, ha, hcount⟩ := ih h
      exact ⟨i + 1, a, hi, ha, by rw [List.take_succ_cons, List.countP_cons_of_neg hfirst, hcount]⟩

/-- For a parameter an argument is meant if there are more of its type than parameters in front. -/
theorem exists_meant_iff (hparam : params[i]? = some param) : (∃ j, args.Meant params i j) ↔
    ((params.take i).countP fun p => p.key.type = param.key.type) <
      args.values.countP fun v => v.type = param.key.type := by
  constructor
  · rintro ⟨j, found, value, hfound, hj, htype, hcount⟩
    obtain rfl := Option.some.inj (hparam.symm.trans hfound)
    have hlt := countP_take_lt (p := fun v : Stored => v.type = param.key.type)
      (List.getElem?_eq_some_iff.mp hj).1 hj (by simpa using htype)
    rwa [List.take_length, hcount] at hlt
  · intro hlt
    obtain ⟨j, value, hj, htype, hcount⟩ := exists_countP_take hlt
    exact ⟨j, param, value, hparam, hj, by simpa using htype, hcount⟩

/-- No argument is meant for two parameters. -/
theorem Meant.unique (h : args.Meant params i j) (h' : args.Meant params i' j) : i = i' := by
  obtain ⟨param, value, hparam, hj, htype, hcount⟩ := h
  obtain ⟨param', value', hparam', hj', htype', hcount'⟩ := h'
  obtain rfl := Option.some.inj (hj.symm.trans hj')
  have hsame : param'.key.type = param.key.type := htype'.symm.trans htype
  -- Both have as many parameters of the type in front, so neither stands before the other.
  rw [hsame, hcount] at hcount'
  rcases Nat.lt_trichotomy i i' with hlt | heq | hlt
  · exact absurd hcount' (countP_take_lt hlt hparam (by simp)).ne
  · exact heq
  · exact absurd hcount'.symm (countP_take_lt hlt hparam' (by simpa using hsame)).ne

/-! ## The mask -/

/-- What is found is the first argument of the type that is not marked. -/
theorem firstUnused_eq_some_iff : firstUnused type values used = some (j, value) ↔
    values[j]? = some value ∧ value.type = type ∧ used[j]?.getD false = false ∧
      ∀ k v, k < j → values[k]? = some v → v.type = type → used[k]?.getD false = true := by
  induction values generalizing used j with
  | nil => simp [firstUnused]
  | cons first values ih =>
    have hhead : used.headD false = used[0]?.getD false := by
      rw [← List.head?_eq_getElem?, ← List.headD_eq_head?_getD]
    have htail (k : Nat) : used.tail[k]? = used[k + 1]? := List.getElem?_tail
    unfold firstUnused
    rw [hhead]
    by_cases hfirst : used[0]?.getD false = false ∧ first.type = type
    -- The first argument will do, so no later one is found.
    · rw [if_pos hfirst]
      cases j with
      | zero =>
        simp only [Option.some.injEq, Prod.mk.injEq, true_and, List.getElem?_cons_zero]
        constructor
        · rintro rfl
          exact ⟨rfl, hfirst.2, hfirst.1, fun k v hk => absurd hk (Nat.not_lt_zero k)⟩
        · exact fun h => h.1
      | succ j =>
        refine iff_of_false (by simp) ?_
        rintro ⟨-, -, -, hfront⟩
        have htaken := hfront 0 first (Nat.zero_lt_succ j) rfl hfirst.2
        cases hfirst.1.symm.trans htaken
    -- It will not, so what is found is found among the others.
    · rw [if_neg hfirst]
      cases j with
      | zero =>
        refine iff_of_false (by simp) ?_
        rintro ⟨hvalue, htype, hfree, -⟩
        exact hfirst ⟨hfree, by rw [Option.some.inj hvalue, htype]⟩
      | succ j =>
        have hlater (found : Option (Nat × Stored)) :
            (∃ a, found = some a ∧ (a.1 + 1, a.2) = (j + 1, value)) ↔ found = some (j, value) := by
          constructor
          · rintro ⟨a, rfl, hpair⟩
            obtain ⟨hindex, hvalue⟩ := Prod.mk.inj hpair
            rw [← Nat.succ.inj hindex, ← hvalue]
          · exact fun hfound => ⟨_, hfound, rfl⟩
        rw [Option.map_eq_some_iff, hlater, ih, htail, List.getElem?_cons_succ]
        simp only [htail]
        refine and_congr_right fun _ => and_congr_right fun _ => and_congr_right fun _ => ?_
        constructor
        · intro hfront k v hk hv htype
          cases k with
          | zero =>
            obtain rfl := Option.some.inj hv
            by_contra htaken
            exact hfirst ⟨Bool.eq_false_of_not_eq_true htaken, htype⟩
          | succ k => exact hfront k v (Nat.lt_of_succ_lt_succ hk) hv htype
        · exact fun hfront k v hk hv htype => hfront (k + 1) v (Nat.succ_lt_succ hk) hv htype

namespace Marked

theorem nil (args : Arguments) : args.Marked [] args.noneUsed where
  length_eq := List.length_replicate
  marked j value _ := by
    have hfree : args.noneUsed[j]?.getD false = false := by
      rw [noneUsed, List.getElem?_replicate]
      split <;> rfl
    simp [hfree]

/-- **The argument that is found has as many of its type in front as there have been parameters.** -/
theorem find?_eq_some_iff (h : args.Marked earlier used) :
    args.find? type used = some (j, value) ↔ args.values[j]? = some value ∧ value.type = type ∧
      (args.values.take j).countP (fun v => v.type = type) =
        earlier.countP fun p => p.key.type = type := by
  rw [find?, firstUnused_eq_some_iff]
  constructor
  · rintro ⟨hj, rfl, hfree, hfront⟩
    refine ⟨hj, rfl, Nat.le_antisymm (Nat.le_of_not_lt fun hlt => ?_) (Nat.le_of_not_lt fun hlt => ?_)⟩
    · -- One of those in front would have to be free as well.
      obtain ⟨k, v, hk, hv, hcount⟩ := exists_countP_take hlt
      obtain ⟨hkj, hk⟩ : k < j ∧ args.values[k]? = some v := by
        rw [List.getElem?_take] at hk
        split at hk
        next hkj => exact ⟨hkj, hk⟩
        next => cases hk
      have htype : v.type = value.type := by simpa using hv
      have hmarked := (h.marked k v hk).mp (hfront k v hkj hk htype)
      rw [List.take_take, Nat.min_eq_left (Nat.le_of_lt hkj)] at hcount
      rw [htype, hcount] at hmarked
      exact Nat.lt_irrefl _ hmarked
    · -- With fewer in front, it would have been marked for an earlier parameter.
      have htaken := (h.marked j value hj).mpr hlt
      cases hfree.symm.trans htaken
  · rintro ⟨hj, rfl, hcount⟩
    refine ⟨hj, rfl, ?_, fun k v hk hv htype => ?_⟩
    · rw [← Bool.not_eq_true, h.marked j value hj, hcount]
      exact Nat.lt_irrefl _
    · rw [h.marked k v hv, htype, ← hcount]
      exact countP_take_lt hk hv (by simpa using htype)

/-- The mask goes on to mark what is meant when an argument is used for one parameter more. -/
theorem use (h : args.Marked earlier used) (param : Param) :
    args.Marked (earlier ++ [param]) (args.use used param) := by
  have hlater (type : TypeId) : (earlier ++ [param]).countP (fun p => p.key.type = type) =
      earlier.countP (fun p => p.key.type = type) + if param.key.type = type then 1 else 0 := by
    simp [List.countP_append, List.countP_singleton]
  -- An argument of the type of the parameter with as many in front as there have been parameters is
  -- the one that is found, so nothing else changes.
  have hnext {j : Nat} {value : Stored} (hj : args.values[j]? = some value)
      (hfind : ∀ v, args.find? param.key.type used ≠ some (j, v)) :
      (used[j]?.getD false = true ↔ (args.values.take j).countP (fun v => v.type = value.type) <
        (earlier ++ [param]).countP fun p => p.key.type = value.type) := by
    rw [h.marked j value hj, hlater]
    split
    next htype =>
      have hne := mt (fun hcount => h.find?_eq_some_iff.mpr ⟨hj, htype.symm, hcount⟩) (hfind value)
      rw [htype] at hne
      omega
    next => rfl
  unfold Arguments.use
  cases hfind : args.find? param.key.type used with
  | none => exact ⟨h.length_eq, fun j value hj => hnext hj (by simp [hfind])⟩
  | some found =>
    obtain ⟨k, v⟩ := found
    refine ⟨by rw [List.length_set, h.length_eq], fun j value hj => ?_⟩
    by_cases hjk : k = j
    -- The argument that is used now is marked, and one more parameter of its type is counted.
    · subst hjk
      obtain ⟨hk, htype, hcount⟩ := h.find?_eq_some_iff.mp hfind
      obtain rfl := Option.some.inj (hk.symm.trans hj)
      have hlt : k < used.length := h.length_eq ▸ (List.getElem?_eq_some_iff.mp hk).1
      rw [List.getElem?_set_self hlt, hlater, if_pos htype.symm, htype, hcount]
      simp
    · rw [List.getElem?_set_ne hjk]
      refine hnext hj fun v' hfind' => hjk ?_
      exact (Prod.mk.inj (Option.some.inj (hfind.symm.trans hfind'))).1

end Marked

/-- What is kept up from one parameter to the next is kept up over all of them. -/
theorem maskAfter_of_use (P : List Param → List Bool → Prop)
    (huse : ∀ earlier used param, P earlier used → P (earlier ++ [param]) (args.use used param))
    (h : P earlier used) (params : List Param) :
    P (earlier ++ params) (args.maskAfter params used) := by
  induction params generalizing earlier used with
  | nil =>
    rw [List.append_nil]
    exact h
  | cons param params ih =>
    have hlater := ih (huse earlier used param h)
    rwa [List.append_assoc] at hlater

theorem marked_maskAfter (args : Arguments) (params : List Param) :
    args.Marked params (args.maskAfter params args.noneUsed) :=
  maskAfter_of_use args.Marked (fun _ _ param h => h.use param) (.nil args) params

theorem covers_maskAfter (args : Arguments) (params : List Param) :
    args.Covers params (args.maskAfter params args.noneUsed) :=
  maskAfter_of_use args.Covers (fun _ _ param h => h.use param) (covers_nil args) params

/-! ## What is left over -/

/-- What is left over of all types is what is not marked. -/
theorem count_false_eq_sum {types : Finset TypeId} (hlength : used.length = values.length)
    (htypes : ∀ value ∈ values, value.type ∈ types) :
    used.count false = ∑ type ∈ types, (unused type values used).length := by
  induction values generalizing used with
  | nil =>
    obtain rfl := List.length_eq_zero_iff.mp hlength
    simp [unused]
  | cons value values ih =>
    obtain ⟨mark, used, rfl⟩ := List.exists_cons_of_length_eq_add_one hlength
    obtain ⟨hvalue, hvalues⟩ := List.forall_mem_cons.mp htypes
    have hrest : used.count false = ∑ type ∈ types, (unused type values used).length :=
      ih (by simpa using hlength) hvalues
    cases mark with
    | true => simpa [unused] using hrest
    | false =>
      -- A value that is not marked is left over for its own type, which is one of them.
      have hone (type : TypeId) : (unused type (value :: values) (false :: used)).length =
          (if value.type = type then 1 else 0) + (unused type values used).length := by
        by_cases htype : value.type = type <;> simp [unused, htype, Nat.add_comm]
      rw [List.count_cons_self, hrest, Finset.sum_congr rfl fun type _ => hone type,
        Finset.sum_add_distrib, Finset.sum_ite_eq, if_pos hvalue, Nat.add_comm]

/-- **The mask leaves over what is too many of each type.** -/
theorem Covers.count_false (h : args.Covers params used) : used.count false = args.leftOver params := by
  have htypes (value : Stored) (hvalue : value ∈ args.values) :
      value.type ∈ (args.values.map Stored.type).toFinset :=
    List.mem_toFinset.mpr (List.mem_map_of_mem hvalue)
  rw [count_false_eq_sum h.length_eq htypes, leftOver]
  apply Finset.sum_congr rfl
  intro type _
  rw [h.unused_eq, List.length_drop, ← List.countP_eq_length_filter]

theorem SameByType.argumentFor_eq (h : args.SameByType other) (earlier : List Param) (param : Param) :
    args.argumentFor earlier param = other.argumentFor earlier param := by
  unfold argumentFor
  rw [h]

theorem SameByType.leftOver_eq (h : args.SameByType other) (params : List Param) :
    args.leftOver params = other.leftOver params := by
  have htypes : (args.values.map Stored.type).toFinset = (other.values.map Stored.type).toFinset := by
    ext type
    have hmem (args : Arguments) : type ∈ (args.values.map Stored.type).toFinset ↔
        ∃ value, value ∈ args.values.filter fun v => v.type = type := by
      simp [List.mem_filter]
    rw [hmem, hmem, h]
  have hcount (type : TypeId) : args.values.countP (fun v => v.type = type) =
      other.values.countP fun v => v.type = type := by
    rw [List.countP_eq_length_filter, h, ← List.countP_eq_length_filter]
  unfold leftOver
  rw [htypes]
  simp only [hcount]

end Arguments

namespace World

variable {E : Type} (catalog : Catalog E) (run : Runner E) (target : TypeId)
  {explicit other : Arguments}

/-- What is reported of the arguments that are left over. -/
def leftOverWarning (constructor : Declaration) (explicit : Arguments) : List Event :=
  if 0 < explicit.leftOver constructor.params then
    [.unusedArguments constructor (explicit.leftOver constructor.params)]
  else
    []

/-! ## Arguments that are mixed in another way -/

/-- Arguments that are the same for each type fill a parameter alike, wherever the masks have got to. -/
theorem resolveArgument_sameByType (h : explicit.SameByType other) {earlier : List Param}
    {used used' : List Bool} (hcovers : explicit.Covers earlier used)
    (hcovers' : other.Covers earlier used') (param : Param) (w : World E) :
    (w.resolveArgument catalog run target explicit param used).2 =
        (w.resolveArgument catalog run target other param used').2 ∧
      (w.resolveArgument catalog run target explicit param used).1.map Prod.fst =
        (w.resolveArgument catalog run target other param used').1.map Prod.fst := by
  have hargument := h.argumentFor_eq earlier param
  rw [← hcovers.map_snd_find?, ← hcovers'.map_snd_find?] at hargument
  unfold resolveArgument
  rcases hfind : explicit.find? param.key.type used with _ | ⟨index, value⟩
  · rw [hfind, Option.map_none, eq_comm, Option.map_eq_none_iff] at hargument
    rw [hargument]
    dsimp only
    split <;> exact ⟨rfl, rfl⟩
  · rw [hfind, Option.map_some, eq_comm, Option.map_eq_some_iff] at hargument
    obtain ⟨⟨index', value'⟩, hfind', rfl⟩ := hargument
    rw [hfind']
    exact ⟨rfl, rfl⟩

/-- The same for all parameters, by induction on them. -/
theorem resolveParams_sameByType (h : explicit.SameByType other) (params : List Param)
    {earlier : List Param} {used used' : List Bool} (hcovers : explicit.Covers earlier used)
    (hcovers' : other.Covers earlier used') (w : World E) :
    (w.resolveParams catalog run target explicit params used).2 =
        (w.resolveParams catalog run target other params used').2 ∧
      (w.resolveParams catalog run target explicit params used).1.map Prod.fst =
        (w.resolveParams catalog run target other params used').1.map Prod.fst := by
  induction params generalizing earlier used used' w with
  | nil => exact ⟨rfl, rfl⟩
  | cons param params ih =>
    -- The masks may differ, so only what comes of the parameter is compared.
    obtain ⟨hworld, hresult⟩ :=
      resolveArgument_sameByType catalog run target h hcovers hcovers' param w
    rcases hfirst : w.resolveArgument catalog run target explicit param used with
      ⟨e | ⟨injection, used₁⟩, w₁⟩ <;>
      rcases hfirst' : w.resolveArgument catalog run target other param used' with
        ⟨e' | ⟨injection', used₁'⟩, w₁'⟩ <;>
      rw [hfirst, hfirst'] at hworld hresult
    -- Either both fail in the same way, or both go on with the same injection in the same world.
    · obtain rfl := Except.error.inj hresult
      rw [resolveParams_cons_of_error hfirst, resolveParams_cons_of_error hfirst']
      exact ⟨hworld, rfl⟩
    · cases hresult
    · cases hresult
    · obtain rfl : injection = injection' := Except.ok.inj hresult
      obtain rfl : w₁ = w₁' := hworld
      rw [mask_resolveArgument hfirst] at hfirst
      rw [mask_resolveArgument hfirst'] at hfirst'
      obtain ⟨hlater, hrest⟩ := ih (hcovers.use param) (hcovers'.use param)
        (w₁.emit [.resolvedArgument injection.parameter injection.source])
      rw [resolveParams_cons_of_ok hfirst, resolveParams_cons_of_ok hfirst']
      have hcons (result : Except Error (List Injection × List Bool)) :
          (result.map fun rest => (injection :: rest.1, rest.2)).map Prod.fst =
            (result.map Prod.fst).map (injection :: ·) := by
        cases result <;> rfl
      refine ⟨hlater, ?_⟩
      rw [hcons, hcons, hrest]

theorem unusedWarning_eq {constructor : Declaration} {used : List Bool}
    (h : explicit.Covers constructor.params used) :
    unusedWarning constructor used = leftOverWarning constructor explicit := by
  unfold unusedWarning leftOverWarning
  rw [h.count_false]

/-- **Arguments of different types can be mixed in any way**: what is the same for each type comes to the
same. -/
theorem resolveArguments_sameByType (h : explicit.SameByType other) (constructor : Declaration)
    (w : World E) : w.resolveArguments catalog run target constructor other =
      w.resolveArguments catalog run target constructor explicit := by
  obtain ⟨hworld, hresult⟩ := resolveParams_sameByType catalog run target h constructor.params
    (Arguments.covers_nil explicit) (Arguments.covers_nil other) w
  unfold resolveArguments
  rcases hfilled : w.resolveParams catalog run target explicit constructor.params explicit.noneUsed with
    ⟨e | ⟨injections, used⟩, w'⟩ <;>
    rcases hfilled' : w.resolveParams catalog run target other constructor.params other.noneUsed with
      ⟨e' | ⟨injections', used'⟩, w''⟩ <;>
    rw [hfilled, hfilled'] at hworld hresult
  · obtain rfl := Except.error.inj hresult
    exact congrArg _ hworld.symm
  · cases hresult
  · cases hresult
  · obtain rfl : injections = injections' := Except.ok.inj hresult
    obtain rfl : w' = w'' := hworld
    -- The masks at the end leave over as many of each type, and so in all.
    have hcovers := explicit.covers_maskAfter constructor.params
    have hcovers' := other.covers_maskAfter constructor.params
    rw [← mask_resolveParams hfilled] at hcovers
    rw [← mask_resolveParams hfilled'] at hcovers'
    dsimp only
    rw [unusedWarning_eq hcovers, unusedWarning_eq hcovers', leftOverWarning, leftOverWarning,
      h.leftOver_eq]

/-! ## Reports of what is left over -/

/-- An event warns that explicit arguments are left over. -/
def warnsOfUnused (event : Event) : Bool :=
  event.level = .warn ∧ event.message = "Explicit arguments did not match any parameter"

/-- No more warnings of this kind have been reported in `w'` than in `w`. -/
def Unwarned (w w' : World E) : Prop :=
  w'.events.filter warnsOfUnused = w.events.filter warnsOfUnused

theorem filter_leftOverWarning (constructor : Declaration) (explicit : Arguments) :
    (leftOverWarning constructor explicit).filter warnsOfUnused =
      leftOverWarning constructor explicit := by
  unfold leftOverWarning
  split
  · rfl
  · rfl

theorem warnsOfUnused_insert (mockOf : TypeId → TypeId) (r : Registry) (entry : Entry) :
    (r.insert mockOf entry).2.filter warnsOfUnused = [] := by
  rw [List.filter_eq_nil_iff]
  unfold Registry.insert
  split
  -- Where an entry is replaced, there are warnings, but of dropped aliases and of the entry itself.
  · split
    next index _ previous _ =>
      intro event hevent
      rcases List.mem_append.mp hevent with hdropped | hreplaced
      · obtain ⟨old, -, hold⟩ := List.mem_filterMap.mp hdropped
        split at hold
        · cases hold
        · rw [← Option.some.inj hold]
          simp [warnsOfUnused, Event.message]
      · unfold Registry.replacementWarning at hreplaced
        split at hreplaced
        · rw [List.mem_singleton.mp hreplaced]
          simp [warnsOfUnused, Event.message]
        · cases hreplaced
    · simp
  · simp [warnsOfUnused, Event.message]

theorem warnsOfUnused_getOrCreateMock (mockOf : TypeId → TypeId) (r : Registry) (fresh : Ref)
    (key : Key) : (r.getOrCreateMock mockOf fresh key.type key.name).events.filter warnsOfUnused = [] := by
  unfold Registry.getOrCreateMock
  split
  · rfl
  · split
    · split <;> rfl
    · exact warnsOfUnused_insert mockOf r _

theorem unwarned_produced {key : Key} {w : World E} {result : Except Error (Option Stored) × World E}
    (hran : ∀ id started, ProduceStarts key w id started → started.Unwarned (run id started).2)
    (h : Produced catalog run key w result) : w.Unwarned result.2 := by
  -- To start a factory is to report nothing.
  have hended {recipe : Recipe} {factory : Factory} {entered ended : World E}
      {answer : Except Error Datum} (hrecipe : w.fixture.recipes.find? key = some recipe)
      (hfactory : recipe.factory = some factory) (henter : w.enter key = .ok entered)
      (hrun : run factory.id entered = (answer, ended)) : w.Unwarned ended := by
    have hunwarned := hran _ _ ⟨hrecipe, hfactory, henter⟩
    obtain ⟨-, rfl⟩ := enter_eq_ok_iff.mp henter
    rwa [hrun] at hunwarned
  cases h with
  | noFactory _ => rfl
  | cyclic _ _ _ => rfl
  | failed hrecipe hfactory henter hrun =>
    have hunwarned := hended hrecipe hfactory henter hrun
    exact hunwarned
  | transient hrecipe hfactory _ henter hrun =>
    have hunwarned := hended hrecipe hfactory henter hrun
    exact hunwarned
  | singleton hrecipe hfactory _ henter hrun =>
    -- To register the product may report that something is replaced.
    unfold Unwarned
    rw [← hended hrecipe hfactory henter hrun]
    simp [mapFixture, insertValue, setRegistry, emit, leave, Registry.insertValue,
      warnsOfUnused_insert]

theorem unwarned_provided {param : Param} {w : World E}
    {result : Except Error (Source × Stored) × World E}
    (hran : w.fixture.registry.lookup param.key = none → ∀ id started,
      ProduceStarts param.key.unnamed w id started → started.Unwarned (run id started).2)
    (h : Provided catalog run target param w result) : w.Unwarned result.2 := by
  have hmocked : w.Unwarned (w.onRegistry fun r fresh =>
      r.getOrCreateMock catalog.mockOf fresh param.key.type param.key.name).2 := by
    simp [Unwarned, onRegistry, allocate, mapFixture, emit, warnsOfUnused_getOrCreateMock]
  cases h with
  | registered _ => rfl
  | failed hlookup h => exact unwarned_produced catalog run (hran hlookup) h
  | made hlookup h => exact unwarned_produced catalog run (hran hlookup) h
  | fellBack _ _ h =>
    cases h with
    | mocked _ h => rwa [h] at hmocked
    | refused _ h => rwa [h] at hmocked
    | defaultValue _ _ => rfl
    | unresolvable _ _ => rfl
    | constructed _ => rfl

/-- While parameters are filled, only factories could warn of arguments left over; by induction on the
parameters. -/
theorem unwarned_resolveParams {params : List Param} {used used' : List Bool} {w w' : World E}
    {injections : List Injection}
    (hran : ∀ id started, ParamsStart catalog run target explicit params used w id started →
      started.Unwarned (run id started).2)
    (h : w.resolveParams catalog run target explicit params used = (.ok (injections, used'), w')) :
    w.Unwarned w' := by
  induction params generalizing used w injections with
  | nil =>
    obtain ⟨-, rfl⟩ := Prod.mk.inj h
    rfl
  | cons param params ih =>
    obtain ⟨injection, used₁, w₁, later, hfirst, hlater, -⟩ := resolveParams_cons_eq_ok h
    have hrest := ih (fun id started hstarts => hran id started (.there hfirst hstarts)) hlater
    have hreported : w₁.Unwarned (w₁.emit [.resolvedArgument injection.parameter injection.source]) := by
      simp [Unwarned, emit, warnsOfUnused, Event.message]
    have hfilled : w.Unwarned w₁ := by
      have hresolved := resolved catalog run target explicit param used w
      rw [hfirst] at hresolved
      cases hresolved with
      | explicit _ => rfl
      | provided hexplicit h =>
        exact unwarned_provided catalog run target (fun hlookup id started hstarts =>
          hran id started (.here hexplicit hlookup hstarts)) h
    exact hrest.trans (hreported.trans hfilled)

/-! ## Filling the parameters of a constructor -/

/-- The parameters of a constructor are filled, with explicit arguments type by type. -/
structure FilledByType (constructor : Declaration) (explicit : Arguments) (w : World E)
    (injections : List Injection) (w' : World E) : Prop where
  -- Every parameter receives something.
  parameters : injections.map (fun injection => (injection.parameter, injection.key)) =
    constructor.params.map fun param => (param.name, param.key)
  -- What is meant for a parameter fills it, and nothing else does.
  fills (i j : Nat) : Fills catalog run target explicit constructor.params explicit.noneUsed w i j ↔
    explicit.Meant constructor.params i j
  received (i j : Nat) (injection : Injection) (hmeant : explicit.Meant constructor.params i j)
    (hi : injections[i]? = some injection) :
    injection.source = .explicit ∧ explicit.values[j]? = some injection.value
  explicit_iff (i : Nat) (injection : Injection) (hi : injections[i]? = some injection) :
    injection.source = .explicit ↔
      ((constructor.params.take i).countP fun p => p.key.type = injection.key.type) <
        explicit.values.countP fun v => v.type = injection.key.type
  once (i i' j : Nat) :
    Fills catalog run target explicit constructor.params explicit.noneUsed w i j →
    Fills catalog run target explicit constructor.params explicit.noneUsed w i' j → i = i'
  -- The arguments that are left over are counted and reported at the end.
  leaves : ∃ used filled, w.resolveParams catalog run target explicit constructor.params
      explicit.noneUsed = (.ok (injections, used), filled) ∧
    used.count false = explicit.leftOver constructor.params ∧
    w' = filled.emit (leftOverWarning constructor explicit)
  -- Nothing else warns of such arguments, unless a factory does that runs meanwhile.
  warned (hran : ∀ id started,
      ParamsStart catalog run target explicit constructor.params explicit.noneUsed w id started →
        started.Unwarned (run id started).2) :
    w'.events.filter warnsOfUnused =
      w.events.filter warnsOfUnused ++ leftOverWarning constructor explicit

/-- Every parameter that is filled is recorded under its name and key; by induction on the parameters. -/
theorem parameters_of_resolveParams {params : List Param} {used used' : List Bool} {w w' : World E}
    {injections : List Injection}
    (h : w.resolveParams catalog run target explicit params used = (.ok (injections, used'), w')) :
    injections.map (fun injection => (injection.parameter, injection.key)) =
      params.map fun param => (param.name, param.key) := by
  induction params generalizing used w injections with
  | nil =>
    obtain ⟨hok, -⟩ := Prod.mk.inj h
    obtain ⟨rfl, -⟩ := Prod.mk.inj (Except.ok.inj hok)
    rfl
  | cons param params ih =>
    obtain ⟨injection, used₁, w₁, later, hfirst, hlater, rfl⟩ := resolveParams_cons_eq_ok h
    have hresolved := resolved catalog run target explicit param used w
    rw [hfirst] at hresolved
    rw [List.map_cons, List.map_cons, ih hlater]
    cases hresolved with
    | explicit _ => rfl
    | provided _ _ => rfl

/-- **What fills a parameter is the argument that is meant for it.** -/
theorem fills_iff_meant {params : List Param} {used : List Bool} {w w' : World E}
    {injections : List Injection}
    (h : w.resolveParams catalog run target explicit params explicit.noneUsed =
      (.ok (injections, used), w')) (i j : Nat) :
    Fills catalog run target explicit params explicit.noneUsed w i j ↔ explicit.Meant params i j := by
  -- Up to the parameter, the mask marks what has been meant for those in front.
  rw [← List.take_append_drop i params] at h
  obtain ⟨filled, used₁, w₁, later, hearlier, -⟩ := resolveParams_append_eq_ok h
  rw [fills_iff hearlier]
  simp only [(explicit.marked_maskAfter (params.take i)).find?_eq_some_iff]
  rfl

theorem filledByType {constructor : Declaration} {w w' : World E} {injections : List Injection}
    (h : w.resolveArguments catalog run target constructor explicit = (.ok injections, w')) :
    FilledByType catalog run target constructor explicit w injections w' := by
  obtain ⟨used, filled, hparams, rfl⟩ : ∃ used filled, w.resolveParams catalog run target explicit
      constructor.params explicit.noneUsed = (.ok (injections, used), filled) ∧
        w' = filled.emit (unusedWarning constructor used) := by
    unfold resolveArguments at h
    split at h
    next => cases (Prod.mk.inj h).1
    next injections' used filled hparams =>
      obtain ⟨hok, hworld⟩ := Prod.mk.inj h
      exact ⟨used, filled, Except.ok.inj hok ▸ hparams, hworld.symm⟩
  have hparameters := parameters_of_resolveParams catalog run target hparams
  have hfills := fills_iff_meant catalog run target hparams
  have hcovers := explicit.covers_maskAfter constructor.params
  rw [← mask_resolveParams hparams] at hcovers
  have hwarning := unusedWarning_eq hcovers
  constructor
  · exact hparameters
  · exact hfills
  · intro i j injection hmeant hi
    obtain ⟨hsource, hvalue⟩ := source_eq_explicit_iff hparams hi
    have hfilled := (hfills i j).mpr hmeant
    exact ⟨hsource.mpr ⟨j, hfilled⟩, hvalue j hfilled⟩
  · intro i injection hi
    obtain ⟨hsource, -⟩ := source_eq_explicit_iff hparams hi
    -- The parameter at this position is the one that the injection names.
    obtain ⟨param, hparam, hkey⟩ : ∃ param, constructor.params[i]? = some param ∧
        param.key = injection.key := by
      have hpair := congrArg (·[i]?) hparameters
      simp only [List.getElem?_map, hi, Option.map_some] at hpair
      obtain ⟨param, hparam, heq⟩ := Option.map_eq_some_iff.mp hpair.symm
      exact ⟨param, hparam, (Prod.mk.inj heq).2⟩
    rw [hsource, ← hkey, ← Arguments.exists_meant_iff hparam]
    exact exists_congr fun j => hfills i j
  · intro i i' j hi hi'
    exact ((hfills i j).mp hi).unique ((hfills i' j).mp hi')
  · exact ⟨used, filled, hparams, hcovers.count_false, by rw [hwarning]⟩
  · intro hran
    have hunwarned := unwarned_resolveParams catalog run target hran hparams
    rw [hwarning, emit, List.filter_append, filter_leftOverWarning, hunwarned]

/-- **Explicit arguments are matched type by type, in order**, whenever the parameters of a constructor
are filled: the first argument of a type goes to the first parameter of that type and so on, each to one
parameter only; those left over are counted and reported. How arguments of different types are mixed
makes no difference. -/
theorem arguments_by_type (constructor : Declaration) (explicit : Arguments) (w : World E) :
    (∀ injections w', w.resolveArguments catalog run target constructor explicit =
      (.ok injections, w') → FilledByType catalog run target constructor explicit w injections w') ∧
    (∀ other, explicit.SameByType other → w.resolveArguments catalog run target constructor other =
      w.resolveArguments catalog run target constructor explicit) :=
  ⟨fun _ _ h => filledByType catalog run target h,
    fun _ h => resolveArguments_sameByType catalog run target h constructor w⟩

/-- Three numbers and one logger, for two parameters of either type: the numbers go to their parameters
in order and one is left over, and for the second logger there is a double. The same arguments may be
passed in another order, as long as the numbers stay in theirs. -/
theorem arguments_by_type_mixed :
    let catalog : Catalog Unit := ⟨fun _ => ⟨"MockLogger"⟩, fun _ => .null, fun _ => []⟩
    let run : Runner Unit := idle
    let report : Declaration := ⟨"new", .isPublic, [.value "width" ⟨"u32"⟩,
      .capability "log" ⟨"Logger"⟩, .value "height" ⟨"u32"⟩,
      .capability "spare" ⟨"Logger"⟩ (some "spare")]⟩
    let explicit : Arguments :=
      ⟨[.object ⟨"Logger"⟩ ⟨9⟩, .value ⟨"u32"⟩ (.int 5), .value ⟨"u32"⟩ (.int 6),
        .value ⟨"u32"⟩ (.int 7)]⟩
    let mixed : Arguments :=
      ⟨[.value ⟨"u32"⟩ (.int 5), .value ⟨"u32"⟩ (.int 6), .object ⟨"Logger"⟩ ⟨9⟩,
        .value ⟨"u32"⟩ (.int 7)]⟩
    let start : World Unit := { surroundings := () }
    let filled := start.resolveArguments catalog run ⟨"Report"⟩ report explicit
    let injections : List Injection :=
      [⟨"width", .of ⟨"u32"⟩, .explicit, .value ⟨"u32"⟩ (.int 5)⟩,
        ⟨"log", .of ⟨"Logger"⟩, .explicit, .object ⟨"Logger"⟩ ⟨9⟩⟩,
        ⟨"height", .of ⟨"u32"⟩, .explicit, .value ⟨"u32"⟩ (.int 6)⟩,
        ⟨"spare", ⟨⟨"Logger"⟩, some "spare"⟩, .autoMock, .object ⟨"Logger"⟩ ⟨0⟩⟩]
    filled = (.ok injections, filled.2) ∧
      FilledByType catalog run ⟨"Report"⟩ report explicit start injections filled.2 ∧
      explicit.leftOver report.params = 1 ∧ explicit.SameByType mixed ∧
      start.resolveArguments catalog run ⟨"Report"⟩ report mixed = filled := by
  intro catalog run report explicit mixed start filled injections
  have hfilled : filled = (.ok injections, filled.2) := rfl
  have hmixed : explicit.SameByType mixed := by
    intro type
    by_cases hlogger : type = ⟨"Logger"⟩
    · rw [hlogger]
      rfl
    · simp [explicit, mixed, List.filter_cons, Ne.symm hlogger]
  obtain ⟨hall, hsame⟩ := arguments_by_type catalog run ⟨"Report"⟩ report explicit start
  exact ⟨hfilled, hall injections filled.2 hfilled, by decide +kernel, hmixed, hsame mixed hmixed⟩

end World

end TestDoubles
