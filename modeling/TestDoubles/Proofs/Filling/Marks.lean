import TestDoubles.Proofs.Filling.Explicit
import TestDoubles.Proofs.Run.Outcomes

/-!
# Two passes over the parameters

Explicit arguments are matched to the parameters of a constructor twice: when constructors are compared,
to see which could be called, and when the selected one is called. The two passes are written down
separately and stop for different reasons, the first at a parameter that could not be filled, the second
at one that cannot be. Here it is shown that they match the arguments alike.

- `Fixture.Marks` follows the first pass, `World.Fills` the second.
- `Arguments.maskAfter` is the mask that both of them have reached after some parameters.
- `Fixture.isResolvable_iff` says without a mask which constructors the first pass finds resolvable.
- `World.fills_iff_marks`: as far as the second pass gets, it does what the first one did.
-/

namespace TestDoubles

namespace Arguments

/-- The mask after an argument has been used for a parameter, if there is one left for it. -/
def use (args : Arguments) (used : List Bool) (param : Param) : List Bool :=
  match args.find? param.key.type used with
  | some (index, _) => used.set index true
  | none => used

/-- The mask after arguments have been used for some parameters, one after the other. -/
def maskAfter (args : Arguments) (params : List Param) (used : List Bool) : List Bool :=
  params.foldl args.use used

/-- The mask goes on to cover the parameters. -/
theorem Covers.use {args : Arguments} {earlier : List Param} {used : List Bool}
    (h : args.Covers earlier used) (param : Param) :
    args.Covers (earlier ++ [param]) (args.use used param) := by
  unfold Arguments.use
  cases hfind : args.find? param.key.type used with
  | none => exact h.skip hfind
  | some found => exact h.take hfind

end Arguments

/-! ## The first pass -/

namespace Fixture

/-- While it is judged whether some parameters could be filled, the argument at position `j` is marked
for the `i`th of them. -/
inductive Marks (f : Fixture) (explicit : Arguments) :
    List Param → List Bool → (i j : Nat) → Prop where
  | here {param : Param} {params : List Param} {used : List Bool} {j : Nat} {value : Stored}
      (hfind : explicit.find? param.key.type used = some (j, value)) :
      Marks f explicit (param :: params) used 0 j
  -- Another argument is marked for the first parameter.
  | marked {param : Param} {params : List Param} {used : List Bool} {i j k : Nat} {value : Stored}
      (hfind : explicit.find? param.key.type used = some (k, value))
      (h : Marks f explicit params (used.set k true) i j) :
      Marks f explicit (param :: params) used (i + 1) j
  -- The first parameter could be filled without an argument.
  | filled {param : Param} {params : List Param} {used : List Bool} {i j : Nat}
      (hfind : explicit.find? param.key.type used = none) (hfill : f.canFill param)
      (h : Marks f explicit params used i j) : Marks f explicit (param :: params) used (i + 1) j

section FirstPass

variable {f : Fixture} {explicit : Arguments}

/-- The first pass goes on from the mask that it has reached. -/
theorem firstUnfilled_cons_eq_none_iff {param : Param} {params : List Param} {used : List Bool} :
    f.firstUnfilled explicit (param :: params) used = none ↔
      (explicit.find? param.key.type used = none → f.canFill param) ∧
        f.firstUnfilled explicit params (explicit.use used param) = none := by
  unfold Arguments.use
  rcases hfind : explicit.find? param.key.type used with _ | ⟨index, value⟩
  · by_cases hfill : f.canFill param <;> simp [firstUnfilled, hfind, hfill]
  · simp [firstUnfilled, hfind]

/-- If the first pass gets to the end, every parameter could be filled for which no argument was left. -/
theorem canFill_of_firstUnfilled {earlier later : List Param} {param : Param} {used : List Bool}
    (h : f.firstUnfilled explicit (earlier ++ param :: later) used = none)
    (hfind : explicit.find? param.key.type (explicit.maskAfter earlier used) = none) :
    f.canFill param := by
  induction earlier generalizing used with
  | nil => exact (firstUnfilled_cons_eq_none_iff.mp h).1 hfind
  | cons first earlier ih => exact ih (firstUnfilled_cons_eq_none_iff.mp h).2 hfind

/-- The first pass gets to the end if every parameter could be filled for which no argument is meant;
by induction on the parameters that are left. -/
theorem firstUnfilled_eq_none_iff {earlier params : List Param} {used : List Bool}
    (h : explicit.Covers earlier used) :
    f.firstUnfilled explicit params used = none ↔
      ∀ before param after, params = before ++ param :: after →
        explicit.argumentFor (earlier ++ before) param = none → f.canFill param := by
  induction params generalizing earlier used with
  | nil => simp [firstUnfilled]
  | cons first params ih =>
    rw [firstUnfilled_cons_eq_none_iff, ih (h.use first)]
    have hfind : explicit.find? first.key.type used = none ↔
        explicit.argumentFor earlier first = none := by
      rw [← h.map_snd_find?, Option.map_eq_none_iff]
    constructor
    · rintro ⟨hfirst, hrest⟩ before param after hsplit hargument
      rcases List.cons_eq_append_iff.mp hsplit with ⟨rfl, hcons⟩ | ⟨before, rfl, hparams⟩
      · obtain ⟨rfl, -⟩ := List.cons.inj hcons
        rw [List.append_nil] at hargument
        exact hfirst (hfind.mpr hargument)
      · refine hrest before param after hparams ?_
        rwa [List.append_assoc, List.singleton_append]
    · intro hall
      refine ⟨fun hnone => hall [] first params rfl ?_, ?_⟩
      · rw [List.append_nil]
        exact hfind.mp hnone
      · intro before param after hsplit hargument
        rw [List.append_assoc, List.singleton_append] at hargument
        exact hall (first :: before) param after (congrArg (first :: ·) hsplit) hargument

/-- Which constructors are resolvable, said without a mask. -/
theorem isResolvable_iff {constructor : Declaration} :
    f.isResolvable explicit constructor ↔
      ∀ earlier param later, constructor.params = earlier ++ param :: later →
        explicit.argumentFor earlier param = none → f.canFill param := by
  rw [isResolvable, Option.isNone_iff_eq_none, obstacle?,
    firstUnfilled_eq_none_iff (Arguments.covers_nil explicit)]
  rfl

/-- What the first pass marks, if it gets to the end. -/
theorem marks_iff {params : List Param} {used : List Bool}
    (h : f.firstUnfilled explicit params used = none) (i j : Nat) :
    Marks f explicit params used i j ↔ ∃ param value, params[i]? = some param ∧
      explicit.find? param.key.type (explicit.maskAfter (params.take i) used) = some (j, value) := by
  induction params generalizing used i with
  | nil =>
    constructor
    · intro hmarks
      cases hmarks
    · rintro ⟨param, value, hparam, -⟩
      cases hparam
  | cons first params ih =>
    obtain ⟨hfirst, hrest⟩ := firstUnfilled_cons_eq_none_iff.mp h
    cases i with
    | zero =>
      constructor
      · rintro (@⟨_, _, _, _, value, hfind⟩)
        exact ⟨first, value, rfl, hfind⟩
      · rintro ⟨param, value, hparam, hfind⟩
        obtain rfl : first = param := Option.some.inj hparam
        exact .here hfind
    | succ i =>
      have hlater := ih hrest i
      have hmask : explicit.maskAfter ((first :: params).take (i + 1)) used =
        explicit.maskAfter (params.take i) (explicit.use used first) := rfl
      rw [hmask, List.getElem?_cons_succ, ← hlater]
      unfold Arguments.use
      constructor
      · intro hmarks
        cases hmarks with
        | marked hfind hmarks => rwa [hfind]
        | filled hfind _ hmarks => rwa [hfind]
      · intro hmarks
        cases hfind : explicit.find? first.key.type used with
        | none =>
          rw [hfind] at hmarks
          exact .filled hfind (hfirst hfind) hmarks
        | some found =>
          rw [hfind] at hmarks
          exact .marked hfind hmarks

end FirstPass

end Fixture

/-! ## The second pass -/

namespace World

variable {E : Type}

/-- While some parameters are filled, the `i`th of them receives the argument at position `j`. -/
inductive Fills (catalog : Catalog E) (run : Runner E) (target : TypeId) (explicit : Arguments) :
    List Param → List Bool → World E → (i j : Nat) → Prop where
  | here {param : Param} {params : List Param} {used : List Bool} {w : World E} {j : Nat}
      {value : Stored} (hfind : explicit.find? param.key.type used = some (j, value)) :
      Fills catalog run target explicit (param :: params) used w 0 j
  -- The first parameter is filled before.
  | there {param : Param} {params : List Param} {used used' : List Bool} {w w' : World E}
      {i j : Nat} {injection : Injection}
      (hfirst : w.resolveArgument catalog run target explicit param used =
        (.ok (injection, used'), w'))
      (h : Fills catalog run target explicit params used'
        (w'.emit [.resolvedArgument injection.parameter injection.source]) i j) :
      Fills catalog run target explicit (param :: params) used w (i + 1) j

section SecondPass

variable {catalog : Catalog E} {run : Runner E} {target : TypeId} {explicit : Arguments}

theorem mask_resolveArgument {param : Param} {used used' : List Bool} {w w' : World E}
    {injection : Injection} (h : w.resolveArgument catalog run target explicit param used =
      (.ok (injection, used'), w')) : used' = explicit.use used param := by
  have hresolved := resolved catalog run target explicit param used w
  rw [h] at hresolved
  unfold Arguments.use
  cases hresolved with
  | explicit hfind => rw [hfind]
  | provided hfind _ => rw [hfind]

/-- Only explicit arguments are recorded as such. -/
theorem Provided.source_ne {param : Param} {source : Source} {value : Stored} {w w' : World E}
    (h : Provided catalog run target param w (.ok (source, value), w')) : source ≠ .explicit := by
  cases h with
  | @registered _ origin _ => cases origin <;> simp [Source.ofOrigin]
  | made _ _ => simp
  | fellBack _ _ hfellBack => cases hfellBack <;> simp

theorem mask_resolveParams {params : List Param} {used used' : List Bool} {w w' : World E}
    {injections : List Injection} (h : w.resolveParams catalog run target explicit params used =
      (.ok (injections, used'), w')) : used' = explicit.maskAfter params used := by
  induction params generalizing used w injections with
  | nil =>
    obtain ⟨hok, -⟩ := Prod.mk.inj h
    exact (Prod.mk.inj (Except.ok.inj hok)).2.symm
  | cons param params ih =>
    obtain ⟨injection, used₁, w₁, later, hfirst, hlater, -⟩ := resolveParams_cons_eq_ok h
    rw [mask_resolveArgument hfirst] at hlater
    exact ih hlater

/-- Later parameters are filled from where the first one has led. -/
theorem fills_succ_iff {param : Param} {params : List Param} {used used' : List Bool}
    {w w' : World E} {injection : Injection} {i j : Nat}
    (hfirst : w.resolveArgument catalog run target explicit param used =
      (.ok (injection, used'), w')) :
    Fills catalog run target explicit (param :: params) used w (i + 1) j ↔
      Fills catalog run target explicit params used'
        (w'.emit [.resolvedArgument injection.parameter injection.source]) i j := by
  constructor
  · intro hfills
    cases hfills with
    | there hfirst' hfills =>
      rw [hfirst] at hfirst'
      obtain ⟨hok, rfl⟩ := Prod.mk.inj hfirst'
      obtain ⟨rfl, rfl⟩ := Prod.mk.inj (Except.ok.inj hok)
      exact hfills
  · exact .there hfirst

/-- What the second pass fills, as far as it gets. -/
theorem fills_iff {params : List Param} {used used' : List Bool} {w w' : World E}
    {injections : List Injection} {i : Nat}
    (h : w.resolveParams catalog run target explicit (params.take i) used =
      (.ok (injections, used'), w')) (j : Nat) :
    Fills catalog run target explicit params used w i j ↔ ∃ param value, params[i]? = some param ∧
      explicit.find? param.key.type (explicit.maskAfter (params.take i) used) = some (j, value) := by
  induction params generalizing used w injections i with
  | nil =>
    constructor
    · intro hfills
      cases hfills
    · rintro ⟨param, value, hparam, -⟩
      cases hparam
  | cons first params ih =>
    cases i with
    | zero =>
      constructor
      · rintro (@⟨_, _, _, _, _, value, hfind⟩)
        exact ⟨first, value, rfl, hfind⟩
      · rintro ⟨param, value, hparam, hfind⟩
        obtain rfl : first = param := Option.some.inj hparam
        exact .here hfind
    | succ i =>
      obtain ⟨injection, used₁, w₁, later, hfirst, hlater, -⟩ := resolveParams_cons_eq_ok h
      obtain rfl := mask_resolveArgument hfirst
      have hmask : explicit.maskAfter ((first :: params).take (i + 1)) used =
        explicit.maskAfter (params.take i) (explicit.use used first) := rfl
      rw [hmask, List.getElem?_cons_succ, ← ih hlater, fills_succ_iff hfirst]

/-- **The two passes match the arguments alike**, as far as the second one gets. -/
theorem fills_iff_marks {f : Fixture} {params : List Param} {used used' : List Bool}
    {w w' : World E} {injections : List Injection} {i : Nat}
    (hselected : f.firstUnfilled explicit params used = none)
    (h : w.resolveParams catalog run target explicit (params.take i) used =
      (.ok (injections, used'), w')) (j : Nat) :
    Fills catalog run target explicit params used w i j ↔ f.Marks explicit params used i j := by
  rw [fills_iff h, Fixture.marks_iff hselected]

/-- What a parameter receives is an explicit argument exactly if the second pass fills it with one. -/
theorem source_eq_explicit_iff {params : List Param} {used used' : List Bool} {w w' : World E}
    {injections : List Injection} (h : w.resolveParams catalog run target explicit params used =
      (.ok (injections, used'), w')) {i : Nat} {injection : Injection}
    (hi : injections[i]? = some injection) :
    (injection.source = .explicit ↔ ∃ j, Fills catalog run target explicit params used w i j) ∧
      ∀ j, Fills catalog run target explicit params used w i j →
        explicit.values[j]? = some injection.value := by
  induction params generalizing used w injections i with
  | nil =>
    obtain ⟨hok, -⟩ := Prod.mk.inj h
    obtain ⟨rfl, -⟩ := Prod.mk.inj (Except.ok.inj hok)
    cases hi
  | cons first params ih =>
    obtain ⟨filled, used₁, w₁, later, hfirst, hlater, rfl⟩ := resolveParams_cons_eq_ok h
    cases i with
    | zero =>
      obtain rfl : filled = injection := Option.some.inj hi
      have hresolved := resolved catalog run target explicit first used w
      rw [hfirst] at hresolved
      cases hresolved with
      | @explicit index value hfind =>
        obtain ⟨hget, -, -⟩ := Arguments.getElem?_of_firstUnused hfind
        refine ⟨⟨fun _ => ⟨index, .here hfind⟩, fun _ => rfl⟩, ?_⟩
        rintro j (@⟨_, _, _, _, _, _, hfind'⟩)
        obtain ⟨rfl, rfl⟩ := Prod.mk.inj (Option.some.inj (hfind.symm.trans hfind'))
        exact hget
      | @provided source value _ hfind hprovided =>
        have hnone (j : Nat) : ¬Fills catalog run target explicit (first :: params) used w 0 j := by
          rintro (@⟨_, _, _, _, _, _, hfind'⟩)
          rw [hfind] at hfind'
          cases hfind'
        have hsource : source ≠ .explicit := hprovided.source_ne
        exact ⟨⟨fun hexplicit => absurd hexplicit hsource, fun ⟨j, hj⟩ => absurd hj (hnone j)⟩,
          fun j hj => absurd hj (hnone j)⟩
    | succ i =>
      simp only [fills_succ_iff hfirst]
      exact ih hlater hi

end SecondPass

end World

end TestDoubles
