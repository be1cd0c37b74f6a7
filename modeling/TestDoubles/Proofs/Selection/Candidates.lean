import Mathlib.Data.List.Forall2
import TestDoubles.Proofs.Filling.Marks
import TestDoubles.Proofs.Selection.Choice

/-!
# The best candidate, or what is in the way

Without a signature, constructors compete: each of them is judged with a mask of its own for the explicit
arguments, the longest of those that could be filled wins, and what is in the way of the others is kept
for the report in case there is no winner. Here all of this is said without masks and without a running
best.

- `Fixture.Fillable` holds of a parameter that could be filled after some others, and
  `Fixture.AllFillable` of parameters that could all be filled.
- `Fixture.Blocks` holds of the first parameter that could not, and `Fixture.obstacle?_eq_some_iff` says
  that this is the one that is found.
- `Fixture.Best` and `Fixture.Reported` describe the two outcomes, and `Fixture.greedy_selection` shows
  that there are no others.
-/

namespace TestDoubles

namespace Fixture

variable {E : Type}

/-! ## What could be filled -/

/-- A parameter could be filled after some others, which have their explicit arguments already. -/
inductive Fillable (f : Fixture) (explicit : Arguments) (earlier : List Param) (param : Param) :
    Prop where
  -- Of the arguments of its type, more were passed than there are such parameters before it.
  | explicit {value : Stored} (h : explicit.argumentFor earlier param = some value)
  | registered (h : f.registry.contains param.key = true)
  | factory (h : f.hasFactory param.key.unnamed = true)
  -- A capability has its doubles, and a concrete dependency its default.
  | ofKind (h : param.kind ≠ .value)
  | defaultValue (h : f.options.defaultValues = true)

/-- All of the parameters could be filled, one after the other. -/
def AllFillable (f : Fixture) (explicit : Arguments) (params : List Param) : Prop :=
  ∀ earlier param later, params = earlier ++ param :: later → f.Fillable explicit earlier param

/-- The first of the parameters that could not be filled. -/
def Blocks (f : Fixture) (explicit : Arguments) (params : List Param) (param : Param) : Prop :=
  ∃ earlier later, params = earlier ++ param :: later ∧ f.AllFillable explicit earlier ∧
    ¬f.Fillable explicit earlier param

section Judging

variable {f : Fixture} {explicit : Arguments}

theorem fillable_iff {earlier : List Param} {param : Param} :
    f.Fillable explicit earlier param ↔
      (explicit.argumentFor earlier param = none → f.canFill param = true) := by
  constructor
  · rintro (⟨hargument⟩ | hregistered | hfactory | hkind | hdefault) hnone
    · rw [hnone] at hargument
      cases hargument
    · simp [canFill, hregistered]
    · simp [canFill, hfactory]
    · cases hparam : param.kind <;> simp_all [canFill]
    · cases hparam : param.kind <;> simp [canFill, hparam, hdefault]
  · intro hfill
    cases hargument : explicit.argumentFor earlier param with
    | some value => exact .explicit hargument
    | none =>
      have hcan := hfill hargument
      simp only [canFill, Bool.or_eq_true] at hcan
      rcases hcan with (hregistered | hfactory) | hkind
      · exact .registered hregistered
      · exact .factory hfactory
      · cases hparam : param.kind with
        | value =>
          rw [hparam] at hkind
          exact .defaultValue hkind
        | capability => exact .ofKind (by simp [hparam])
        | concrete => exact .ofKind (by simp [hparam])

theorem isResolvable_iff_allFillable {constructor : Declaration} :
    f.isResolvable explicit constructor = true ↔ f.AllFillable explicit constructor.params := by
  rw [isResolvable_iff]
  unfold AllFillable
  simp only [fillable_iff]

/-- A parameter that could be filled is passed over. -/
theorem firstUnfilled_cons {earlier : List Param} {used : List Bool}
    (h : explicit.Covers earlier used) (param : Param) (params : List Param) :
    f.Fillable explicit earlier param ∧ f.firstUnfilled explicit (param :: params) used =
        f.firstUnfilled explicit params (explicit.use used param) ∨
      ¬f.Fillable explicit earlier param ∧
        f.firstUnfilled explicit (param :: params) used = some param := by
  rw [fillable_iff, ← h.map_snd_find?]
  unfold Arguments.use
  rcases hfind : explicit.find? param.key.type used with _ | ⟨index, value⟩
  · by_cases hfill : f.canFill param = true
    · exact .inl (by simp [firstUnfilled, hfind, hfill])
    · exact .inr (by simp [firstUnfilled, hfind, hfill])
  · exact .inl (by simp [firstUnfilled, hfind])

/-- The search for a parameter that could not be filled stops at the first one; by induction on the
parameters, which are all passed over up to there. -/
theorem firstUnfilled_eq_some_iff {earlier params : List Param} {used : List Bool} {param : Param}
    (h : explicit.Covers earlier used) :
    f.firstUnfilled explicit params used = some param ↔
      ∃ before after, params = before ++ param :: after ∧
        f.firstUnfilled explicit before used = none ∧
        ¬f.Fillable explicit (earlier ++ before) param := by
  induction params generalizing earlier used with
  | nil => simp [firstUnfilled]
  | cons first params ih =>
    have hprefix (before : List Param) := firstUnfilled_cons (f := f) h first before
    rcases firstUnfilled_cons (f := f) h first params with ⟨hfill, hsearch⟩ | ⟨hfill, hsearch⟩
    · rw [hsearch, ih (h.use first)]
      constructor
      · rintro ⟨before, after, rfl, hpassed, hstop⟩
        refine ⟨first :: before, after, rfl, ?_, by simpa using hstop⟩
        rcases hprefix before with ⟨-, heq⟩ | ⟨hnot, -⟩
        · rw [heq, hpassed]
        · exact absurd hfill hnot
      · rintro ⟨before, after, hsplit, hpassed, hstop⟩
        rcases List.cons_eq_append_iff.mp hsplit with ⟨rfl, hcons⟩ | ⟨before, rfl, hparams⟩
        · obtain ⟨rfl, -⟩ := List.cons.inj hcons
          exact absurd (by simpa using hfill) hstop
        · refine ⟨before, after, hparams, ?_, by simpa using hstop⟩
          rcases hprefix before with ⟨-, heq⟩ | ⟨hnot, -⟩
          · rw [← heq, hpassed]
          · exact absurd hfill hnot
    · rw [hsearch, Option.some.injEq]
      constructor
      · rintro rfl
        exact ⟨[], params, rfl, rfl, by simpa using hfill⟩
      · rintro ⟨before, after, hsplit, hpassed, -⟩
        rcases List.cons_eq_append_iff.mp hsplit with ⟨rfl, hcons⟩ | ⟨before, rfl, -⟩
        · exact (List.cons.inj hcons).1.symm
        · rcases hprefix before with ⟨hfill', -⟩ | ⟨-, heq⟩
          · exact absurd hfill' hfill
          · rw [heq] at hpassed
            cases hpassed

/-- **What is found in the way of a constructor is its first parameter that could not be filled.** -/
theorem obstacle?_eq_some_iff {constructor : Declaration} {param : Param} :
    f.obstacle? explicit constructor = some param ↔ f.Blocks explicit constructor.params param := by
  have hpassed (params : List Param) : f.firstUnfilled explicit params explicit.noneUsed = none ↔
      f.AllFillable explicit params := by
    rw [firstUnfilled_eq_none_iff (Arguments.covers_nil explicit)]
    unfold AllFillable
    simp only [fillable_iff, List.nil_append]
  rw [obstacle?, firstUnfilled_eq_some_iff (Arguments.covers_nil explicit)]
  simp only [hpassed, List.nil_append]
  rfl

end Judging

/-! ## The two outcomes -/

/-- The candidate at this position could be filled; no candidate that could is longer, and those in
front of it that could are shorter. -/
structure Best (f : Fixture) (explicit : Arguments) (candidates : List (Constructor E))
    (constructor : Constructor E) (position : Nat) : Prop where
  candidate : candidates[position]? = some constructor
  fillable : f.AllFillable explicit constructor.params
  longest {j : Nat} {other : Constructor E} : candidates[j]? = some other →
    f.AllFillable explicit other.params → other.params.length ≤ constructor.params.length
  first {j : Nat} {other : Constructor E} : j < position → candidates[j]? = some other →
    f.AllFillable explicit other.params → other.params.length < constructor.params.length

/-- The obstacle is the first parameter of the candidate that could not be filled, and names it. -/
def Names (f : Fixture) (explicit : Arguments) (candidate : Constructor E) (obstacle : Obstacle) :
    Prop :=
  ∃ param, f.Blocks explicit candidate.params param ∧
    obstacle = .unfilled candidate.toDeclaration param ∧
    obstacle.text = candidate.toDeclaration.text ++ " needs '" ++ param.name ++ "' ("
      ++ param.key.text ++ ")"

/-- The report of a selection that has failed. -/
structure Reported (f : Fixture) (explicit : Arguments) (candidates : List (Constructor E))
    (blocked : List Obstacle) : Prop where
  unfillable : ∀ candidate ∈ candidates, ¬f.AllFillable explicit candidate.params
  none : candidates = [] →
    blocked = [.noConstructors] ∧ blocked.map Obstacle.text = ["no constructors declared"]
  each : candidates ≠ [] → List.Forall₂ (f.Names explicit) candidates blocked

section Outcomes

variable {f : Fixture} {explicit : Arguments} {candidates : List (Constructor E)}

theorem names_iff {candidate : Constructor E} {obstacle : Obstacle} :
    f.Names explicit candidate obstacle ↔
      (f.obstacle? explicit candidate.toDeclaration).map (.unfilled candidate.toDeclaration) =
        some obstacle := by
  simp only [Option.map_eq_some_iff, obstacle?_eq_some_iff]
  constructor
  · rintro ⟨param, hblocks, rfl, -⟩
    exact ⟨param, hblocks, rfl⟩
  · rintro ⟨param, hblocks, rfl⟩
    exact ⟨param, hblocks, rfl, rfl⟩

/-- One obstacle for each candidate is the report of them; by induction on the candidates. -/
theorem forall₂_names_iff {blocked : List Obstacle}
    (hunfillable : ∀ candidate ∈ candidates, f.isResolvable explicit candidate.toDeclaration = false) :
    List.Forall₂ (f.Names explicit) candidates blocked ↔
      blocked = candidates.filterMap fun c =>
        (f.obstacle? explicit c.toDeclaration).map (.unfilled c.toDeclaration) := by
  induction candidates generalizing blocked with
  | nil => rw [List.forall₂_nil_left_iff, List.filterMap_nil]
  | cons candidate rest ih =>
    obtain ⟨hfirst, hrest⟩ := List.forall_mem_cons.mp hunfillable
    obtain ⟨param, hparam⟩ := Option.isSome_iff_exists.mp
      (Option.isNone_eq_false_iff.mp (show (f.obstacle? explicit _).isNone = false from hfirst))
    rw [List.filterMap_cons, hparam, Option.map_some]
    constructor
    · rintro (_ | ⟨hnames, hlater⟩)
      rw [names_iff, hparam, Option.map_some, Option.some.injEq] at hnames
      rw [← hnames, (ih hrest).mp hlater]
    · rintro rfl
      exact .cons (names_iff.mpr (by rw [hparam, Option.map_some])) ((ih hrest).mpr rfl)

theorem best_iff {target : TypeId} {constructor : Constructor E} {position : Nat} :
    f.selectGreedy target candidates explicit = .ok (constructor, position) ↔
      f.Best explicit candidates constructor position := by
  rw [selectGreedy_eq_ok_iff]
  simp only [isResolvable_iff_allFillable, Outranks]
  constructor
  · rintro ⟨hcandidate, hfillable, hothers⟩
    refine ⟨hcandidate, hfillable, fun {j other} hother hfill => ?_,
      fun {j other} hj hother hfill => ?_⟩
    · have hbelow := hothers j other hother hfill
      omega
    · have hbelow := hothers j other hother hfill
      omega
  · rintro ⟨hcandidate, hfillable, hlongest, hfirst⟩
    refine ⟨hcandidate, hfillable, fun j other hother hfill houtranks => ?_⟩
    have hle := hlongest hother hfill
    rcases houtranks with hlt | ⟨heq, hj⟩
    · omega
    · have hlt := hfirst hj hother hfill
      omega

/-- Selection fails only if no candidate could be filled, and then for all obstacles together. -/
theorem selectGreedy_eq_error_iff {target : TypeId} {e : Error} :
    f.selectGreedy target candidates explicit = .error e ↔
      (∀ candidate ∈ candidates, f.isResolvable explicit candidate.toDeclaration = false) ∧
        e = .noResolvableConstructor target (f.blocked explicit candidates) := by
  have hnone : longest (candidates.zipIdx.filter fun c =>
      f.isResolvable explicit c.1.toDeclaration) = none ↔
      ∀ candidate ∈ candidates, f.isResolvable explicit candidate.toDeclaration = false := by
    have hlongest (some : List (Constructor E × Nat)) : longest some = none ↔ some = [] := by
      constructor
      · intro h
        exact Decidable.byContradiction fun hne => longest_ne_none hne h
      · rintro rfl
        rfl
    rw [hlongest, List.filter_eq_nil_iff]
    constructor
    · intro h candidate hcandidate
      obtain ⟨i, hi⟩ := List.mem_iff_getElem?.mp hcandidate
      simpa using h (candidate, i) (List.mem_zipIdx_iff_getElem?.mpr hi)
    · rintro h ⟨candidate, i⟩ hmem
      have hcandidate := List.mem_of_getElem? (List.mem_zipIdx_iff_getElem?.mp hmem)
      simpa using h candidate hcandidate
  rw [← hnone]
  unfold selectGreedy
  split
  next choice hlongest => simp [hlongest]
  next hlongest => simp [hlongest, eq_comm]

theorem reported_iff {blocked : List Obstacle} :
    f.Reported explicit candidates blocked ↔
      (∀ candidate ∈ candidates, f.isResolvable explicit candidate.toDeclaration = false) ∧
        blocked = f.blocked explicit candidates := by
  have hunfillable : (∀ candidate ∈ candidates, ¬f.AllFillable explicit candidate.params) ↔
      ∀ candidate ∈ candidates, f.isResolvable explicit candidate.toDeclaration = false := by
    simp only [← isResolvable_iff_allFillable, Bool.not_eq_true]
  unfold Fixture.blocked
  constructor
  · rintro ⟨hnot, hnone, heach⟩
    rw [hunfillable] at hnot
    refine ⟨hnot, ?_⟩
    cases candidates with
    | nil => exact (hnone rfl).1
    | cons candidate rest => exact (forall₂_names_iff hnot).mp (heach (List.cons_ne_nil _ _))
  · rintro ⟨hnot, rfl⟩
    refine ⟨hunfillable.mpr hnot, ?_, ?_⟩
    · rintro rfl
      exact ⟨rfl, rfl⟩
    · intro hne
      rw [if_neg (by simpa using hne)]
      exact (forall₂_names_iff hnot).mpr rfl

end Outcomes

/-- **Greedy selection** answers with the best candidate, in every fixture, for all candidates and
explicit arguments; and if there is none, it fails with one obstacle for each candidate, in order, or
because there are no candidates. -/
theorem greedy_selection (f : Fixture) (target : TypeId) (candidates : List (Constructor E))
    (explicit : Arguments) :
    (∀ constructor position,
      f.selectGreedy target candidates explicit = .ok (constructor, position) ↔
        f.Best explicit candidates constructor position) ∧
    (∀ e, f.selectGreedy target candidates explicit = .error e ↔
      ∃ blocked, e = .noResolvableConstructor target blocked ∧
        f.Reported explicit candidates blocked) := by
  refine ⟨fun constructor position => best_iff, fun e => ?_⟩
  simp only [selectGreedy_eq_error_iff, reported_iff]
  constructor
  · rintro ⟨hnot, rfl⟩
    exact ⟨_, rfl, hnot, rfl⟩
  · rintro ⟨_, rfl, hnot, rfl⟩
    exact ⟨hnot, rfl⟩

/-- One argument is passed: it counts for one of the two numbers that the longest constructor wants, and
of the shorter ones the first wins. Without it all three are in the report. -/
theorem greedy_selection_tie :
    let number (name : String) : Param := .value name ⟨"u32"⟩
    let make (name : String) (params : List Param) : Constructor Unit :=
      .ofFunction { name := name, params := params } fun _ => .ok .null
    let two := make "two" [number "a", number "b"]
    let one := make "one" [number "n"]
    let other := make "other" [number "m"]
    let clocked := make "clocked" [.capability "clock" ⟨"Clock"⟩, number "k"]
    let f : Fixture := {}
    let passed : Arguments := ⟨[.value ⟨"u32"⟩ (.int 3)]⟩
    f.Best passed [two, one, other] one 1 ∧
      ∃ blocked, f.Reported {} [two, clocked] blocked ∧ blocked.map Obstacle.text =
        ["two(a: u32, b: u32) needs 'a' (u32)", "clocked(clock: Clock, k: u32) needs 'k' (u32)"] := by
  intro number make two one other clocked f passed
  obtain ⟨hbest, -⟩ := greedy_selection f ⟨"Pair"⟩ [two, one, other] passed
  obtain ⟨-, hreport⟩ := greedy_selection f ⟨"Pair"⟩ [two, clocked] {}
  have hselected : f.selectGreedy ⟨"Pair"⟩ [two, one, other] passed = .ok (one, 1) := rfl
  have hfailed : f.selectGreedy ⟨"Pair"⟩ [two, clocked] {} =
      .error (.noResolvableConstructor ⟨"Pair"⟩
        [.unfilled two.toDeclaration (number "a"), .unfilled clocked.toDeclaration (number "k")]) := rfl
  obtain ⟨blocked, heq, hreported⟩ := (hreport _).mp hfailed
  refine ⟨(hbest one 1).mp hselected, blocked, hreported, ?_⟩
  rw [← (Error.noResolvableConstructor.inj heq).2]
  decide +kernel

end Fixture

end TestDoubles
