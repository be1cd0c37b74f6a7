import Mathlib.Logic.Relation
import TestDoubles.Proofs.Run.Retained
import TestDoubles.Proofs.Selection.Candidates

/-!
# Providing more

A test that passes more explicit arguments, switches default values on or registers something helps the
selection of a constructor and never hinders it, unless a combined capability is dropped on the way. With
more arguments each of them may be marked for another parameter than before, so the two masks are not
compared; what matters is how many arguments there are of each type.

- `World.ProvidesMore` lists the ways in which more is provided.
- `World.Supports` is what they come to: whatever could be filled before can be filled after.
  `World.ProvidesMore.supports` shows it for one step, `World.supports_of_providesMore` for any number.
- `Fixture.AllFillable.mono` and `Fixture.selectGreedy_mono` say what this means for a candidate and for
  the selection; `World.selection_monotone` puts everything together.
-/

namespace TestDoubles

/-! ## More arguments -/

/-- Of each type there are at least as many arguments among the others. -/
def Arguments.NoMoreThan (args other : Arguments) : Prop :=
  ∀ type, args.values.countP (fun v => v.type = type) ≤ other.values.countP fun v => v.type = type

namespace Arguments.NoMoreThan

variable {args other another : Arguments}

theorem refl (args : Arguments) : args.NoMoreThan args :=
  fun _ => Nat.le_refl _

theorem trans (h : args.NoMoreThan other) (h' : other.NoMoreThan another) :
    args.NoMoreThan another :=
  fun type => Nat.le_trans (h type) (h' type)

/-- A parameter for which no argument is left among many had none among few. -/
theorem argumentFor_eq_none (h : args.NoMoreThan other) {earlier : List Param} {param : Param}
    (hnone : other.argumentFor earlier param = none) : args.argumentFor earlier param = none := by
  unfold argumentFor at hnone ⊢
  rw [List.getElem?_eq_none_iff, ← List.countP_eq_length_filter] at hnone ⊢
  exact Nat.le_trans (h param.key.type) hnone

end Arguments.NoMoreThan

/-! ## More that could be filled -/

namespace Fixture

variable {E : Type} {f f' : Fixture} {explicit explicit' : Arguments}

/-- **What could be filled can be filled when more is provided.** -/
theorem AllFillable.mono {params : List Param} (h : f.AllFillable explicit params)
    (hfill : ∀ param, f.canFill param → f'.canFill param)
    (hargs : explicit.NoMoreThan explicit') : f'.AllFillable explicit' params := by
  intro earlier param later hsplit
  have hfillable := fillable_iff.mp (h earlier param later hsplit)
  rw [fillable_iff]
  intro hnone
  exact hfill param (hfillable (hargs.argumentFor_eq_none hnone))

/-- Where a candidate could be filled, one is selected. -/
theorem exists_selectGreedy (target : TypeId) {candidates : List (Constructor E)}
    {candidate : Constructor E} (hcandidate : candidate ∈ candidates)
    (hfillable : f.AllFillable explicit candidate.params) :
    ∃ constructor position,
      f.selectGreedy target candidates explicit = .ok (constructor, position) := by
  rcases hselect : f.selectGreedy target candidates explicit with e | ⟨constructor, position⟩
  · obtain ⟨hnone, -⟩ := selectGreedy_eq_error_iff.mp hselect
    have hresolvable := isResolvable_iff_allFillable.mpr hfillable
    rw [hnone candidate hcandidate] at hresolvable
    cases hresolvable
  · exact ⟨constructor, position, rfl⟩

/-- **What is selected when more is provided** is longer, or as long and declared no later. -/
theorem selectGreedy_mono {target : TypeId} {candidates : List (Constructor E)}
    {constructor : Constructor E} {position : Nat}
    (h : f.selectGreedy target candidates explicit = .ok (constructor, position))
    (hfill : ∀ param, f.canFill param → f'.canFill param)
    (hargs : explicit.NoMoreThan explicit') :
    ∃ other position',
      f'.selectGreedy target candidates explicit' = .ok (other, position') ∧
        (constructor.params.length < other.params.length ∨
          constructor.params.length = other.params.length ∧ position' ≤ position) := by
  have hbefore := best_iff.mp h
  -- What was selected before still competes.
  have hfillable := hbefore.fillable.mono hfill hargs
  obtain ⟨other, position', hselect⟩ :=
    exists_selectGreedy target (List.mem_of_getElem? hbefore.candidate) hfillable
  have hafter := best_iff.mp hselect
  refine ⟨other, position', hselect, ?_⟩
  rcases Nat.lt_or_eq_of_le (hafter.longest hbefore.candidate hfillable) with hlonger | hsame
  · exact .inl hlonger
  · refine .inr ⟨hsame, Nat.le_of_not_lt fun hlater => ?_⟩
    exact Nat.ne_of_lt (hafter.first hlater hbefore.candidate hfillable) hsame

/-! ## Default values -/

/-- The candidate at this position is the first of the longest ones. -/
structure FirstLongest (candidates : List (Constructor E)) (constructor : Constructor E)
    (position : Nat) : Prop where
  candidate : candidates[position]? = some constructor
  longest {j : Nat} {other : Constructor E} : candidates[j]? = some other →
    other.params.length ≤ constructor.params.length
  first {j : Nat} {other : Constructor E} : j < position → candidates[j]? = some other →
    other.params.length < constructor.params.length

/-- With default values, every parameter could be filled. -/
theorem allFillable_of_defaultValues (h : f.options.defaultValues = true) (explicit : Arguments)
    (params : List Param) : f.AllFillable explicit params :=
  fun _ _ _ _ => .defaultValue h

/-- With default values, candidates compete by their lengths alone. -/
theorem best_iff_firstLongest (h : f.options.defaultValues = true) {candidates : List (Constructor E)}
    {constructor : Constructor E} {position : Nat} :
    f.Best explicit candidates constructor position ↔
      FirstLongest candidates constructor position := by
  have hall := allFillable_of_defaultValues h explicit
  constructor
  · intro hbest
    exact ⟨hbest.candidate, fun hother => hbest.longest hother (hall _),
      fun hj hother => hbest.first hj hother (hall _)⟩
  · intro hlongest
    exact ⟨hlongest.candidate, hall _, fun hother _ => hlongest.longest hother,
      fun hj hother _ => hlongest.first hj hother⟩

/-- The same fixture with default values. -/
def withDefaultValues (f : Fixture) : Fixture :=
  { f with options := { f.options with defaultValues := true } }

theorem canFill_withDefaultValues {param : Param} (h : f.canFill param) :
    f.withDefaultValues.canFill param := by
  simp only [canFill, Bool.or_eq_true] at h ⊢
  rcases h with hprovided | hkind
  · exact .inl hprovided
  · refine .inr ?_
    cases hparam : param.kind with
    | capability => rfl
    | concrete => rfl
    | value => rfl

end Fixture

/-! ## More in the registry -/

namespace Registry

/-- No combined capability has been dropped: what was an alias of an entry is one still. -/
def KeepsAliases (r r' : Registry) : Prop :=
  ∀ entry ∈ r.entries, ∀ a ∈ entry.aliases, ∃ other ∈ r'.entries, other.hasAlias a.key

instance (r r' : Registry) : Decidable (r.KeepsAliases r') :=
  inferInstanceAs (Decidable (∀ entry ∈ r.entries, ∀ a ∈ entry.aliases,
    ∃ other ∈ r'.entries, other.hasAlias a.key))

/-- No operation takes an own key away, so what is answered can only be lost with an alias. -/
theorem Extends.keeps {r r' : Registry} (hextends : r.Extends r') (h : r.Indexed)
    (haliases : r.KeepsAliases r') : r.Keeps r' := by
  intro key hkey
  rw [h.contains_eq_answers, answers, List.any_eq_true] at hkey
  rw [hextends.indexed.contains_eq_answers, answers, List.any_eq_true]
  obtain ⟨entry, hentry, hprovides⟩ := hkey
  rcases (provides?_isSome_iff entry key).mp hprovides with hown | halias
  · have hmem : entry.key ∈ r'.keys := hextends.keys_prefix.subset (List.mem_map_of_mem hentry)
    obtain ⟨other, hother, hsame⟩ := List.mem_map.mp hmem
    exact ⟨other, hother, (provides?_isSome_iff other key).mpr (.inl (hsame.trans hown))⟩
  · obtain ⟨a, hmem, hsame⟩ := List.any_eq_true.mp halias
    obtain ⟨other, hother, hserves⟩ := haliases entry hentry a hmem
    rw [of_decide_eq_true hsame] at hserves
    exact ⟨other, hother, (provides?_isSome_iff other key).mpr (.inr hserves)⟩

end Registry

namespace World

variable {E : Type} {catalog : Catalog E} {w : World E}

/-- A command that registers something takes nothing away but aliases. -/
theorem retains_perform (run : Runner E) {command : Command} (hdirect : command.isDirect)
    (hreset : command ≠ .reset) (hindexed : w.fixture.registry.Indexed)
    (haliases :
      w.fixture.registry.KeepsAliases (w.perform catalog run command).2.fixture.registry) :
    w.fixture.Retains (w.perform catalog run command).2.fixture := by
  have hregistered := registered catalog run hdirect hreset w
  generalize w.perform catalog run command = result at hregistered haliases ⊢
  cases hregistered with
  | found _ => exact .of_eq rfl rfl rfl
  | @operated allocated change reply _ hoperates =>
    rw [registry_configured] at haliases
    have hextends := hoperates.step.extends hindexed
    have hretains :
        w.fixture.Retains ({ w with allocated := allocated }.setRegistry change).fixture :=
      ⟨hextends.keeps hindexed haliases, fun _ hfactory => hfactory, rfl⟩
    exact hretains.trans (.configured _)
  | refused _ hsame => exact .of_eq hsame rfl rfl
  | rewritten _ hrewrites => exact hrewrites.retains.trans (.configured _)
  | frozen => exact .of_eq rfl rfl rfl

theorem indexed_perform (run : Runner E) {command : Command} (hdirect : command.isDirect)
    (hreset : command ≠ .reset) (hindexed : w.fixture.registry.Indexed) :
    (w.perform catalog run command).2.fixture.registry.Indexed := by
  rcases registry_perform catalog run hdirect hreset w with heq | ⟨_, _, hoperates, heq⟩
  · exact heq ▸ hindexed
  · exact heq ▸ (hoperates.step.extends hindexed).indexed

/-! ## More in any of these ways -/

/-- The ways in which more is provided for a selection, which takes place in a world and with some
explicit arguments. -/
inductive ProvidesMore (catalog : Catalog E) : World E × Arguments → World E × Arguments → Prop where
  -- At least as many arguments of each type are passed.
  | passed (w : World E) {explicit explicit' : Arguments} (h : explicit.NoMoreThan explicit') :
      ProvidesMore catalog (w, explicit) (w, explicit')
  -- Default values are switched on.
  | defaults (w : World E) (explicit : Arguments) :
      ProvidesMore catalog (w, explicit) (w.mapFixture Fixture.withDefaultValues, explicit)
  -- A double is asked for, or something is registered, and no combined capability is dropped.
  | performed {w : World E} (explicit : Arguments) (run : Runner E) {command : Command}
      (hdirect : command.isDirect) (hreset : command ≠ .reset)
      (haliases :
        w.fixture.registry.KeepsAliases (w.perform catalog run command).2.fixture.registry) :
      ProvidesMore catalog (w, explicit) ((w.perform catalog run command).2, explicit)

/-- Whatever could be filled in one world and with some arguments can be filled in another and with
others, and the same constructors are candidates. -/
structure Supports (before after : World E × Arguments) : Prop where
  indexed : after.1.fixture.registry.Indexed
  arguments : before.2.NoMoreThan after.2
  canFill : ∀ param, before.1.fixture.canFill param → after.1.fixture.canFill param
  visible (constructors : List (Constructor E)) :
    after.1.fixture.visible constructors = before.1.fixture.visible constructors

variable {before after : World E × Arguments}

theorem Supports.trans {later : World E × Arguments} (h : Supports before after)
    (h' : Supports after later) : Supports before later where
  indexed := h'.indexed
  arguments := h.arguments.trans h'.arguments
  canFill param hfill := h'.canFill param (h.canFill param hfill)
  visible constructors := (h'.visible constructors).trans (h.visible constructors)

/-- One step. -/
theorem ProvidesMore.supports (hindexed : before.1.fixture.registry.Indexed)
    (h : ProvidesMore catalog before after) : Supports before after := by
  cases h with
  | passed w hargs => exact ⟨hindexed, hargs, fun _ hfill => hfill, fun _ => rfl⟩
  | defaults w explicit =>
    exact ⟨hindexed, .refl explicit, fun _ => Fixture.canFill_withDefaultValues, fun _ => rfl⟩
  | performed explicit run hdirect hreset haliases =>
    have hretains := retains_perform run hdirect hreset hindexed haliases
    refine ⟨indexed_perform run hdirect hreset hindexed, .refl explicit,
      fun _ => hretains.canFill, fun constructors => ?_⟩
    unfold Fixture.visible
    rw [hretains.options]

/-- Any number of steps, by induction on them. -/
theorem supports_of_providesMore (hindexed : before.1.fixture.registry.Indexed)
    (h : Relation.ReflTransGen (ProvidesMore catalog) before after) : Supports before after := by
  induction h with
  | refl => exact ⟨hindexed, .refl _, fun _ hfill => hfill, fun _ => rfl⟩
  | tail _ hstep ih => exact ih.trans (hstep.supports ih.indexed)

/-- **Selection is monotone.** In every reachable world, also while a factory runs, and with all explicit
arguments: when more is provided, in any of the ways and any number of times, every candidate that was
resolvable still is. So a selection that succeeded still succeeds, and with no shorter candidate, nor with
a later one that is as long. With default values the first of the longest visible constructors is
selected, whatever is registered and whatever is passed. -/
theorem selection_monotone (catalog : Catalog E) (conduct : Conduct E) :
    (∀ w explicit w' explicit', Reachable catalog conduct w →
      Relation.ReflTransGen (ProvidesMore catalog) (w, explicit) (w', explicit') →
      (∀ constructor : Declaration, w.fixture.isResolvable explicit constructor = true →
        w'.fixture.isResolvable explicit' constructor = true) ∧
      (∀ constructors : List (Constructor E),
        w'.fixture.visible constructors = w.fixture.visible constructors) ∧
      ∀ (target : TypeId) (candidates : List (Constructor E)) (constructor : Constructor E)
        (position : Nat),
        w.fixture.selectGreedy target candidates explicit = .ok (constructor, position) →
        ∃ other position',
          w'.fixture.selectGreedy target candidates explicit' = .ok (other, position') ∧
            (constructor.params.length < other.params.length ∨
              constructor.params.length = other.params.length ∧ position' ≤ position)) ∧
    (∀ f : Fixture, f.options.defaultValues = true →
      ∀ (target : TypeId) (constructors : List (Constructor E)) (explicit : Arguments),
        (∀ constructor position,
          f.selectGreedy target (f.visible constructors) explicit = .ok (constructor, position) ↔
            Fixture.FirstLongest (f.visible constructors) constructor position) ∧
        (f.visible constructors ≠ [] → ∃ constructor position,
          f.selectGreedy target (f.visible constructors) explicit =
            .ok (constructor, position))) := by
  constructor
  · intro w explicit w' explicit' hw hmore
    have hsupports := supports_of_providesMore hw.registry.indexed hmore
    refine ⟨fun constructor hresolvable => ?_, hsupports.visible, ?_⟩
    · rw [Fixture.isResolvable_iff_allFillable] at hresolvable ⊢
      exact hresolvable.mono hsupports.canFill hsupports.arguments
    · intro target candidates constructor position hselect
      exact Fixture.selectGreedy_mono hselect hsupports.canFill hsupports.arguments
  · intro f hdefaults target constructors explicit
    refine ⟨fun constructor position => ?_, fun hne => ?_⟩
    · rw [Fixture.best_iff, Fixture.best_iff_firstLongest hdefaults]
    · obtain ⟨candidate, hcandidate⟩ := List.exists_mem_of_ne_nil _ hne
      exact Fixture.exists_selectGreedy target hcandidate
        (Fixture.allFillable_of_defaultValues hdefaults explicit _)

/-- A gadget is served by the double of a widget, and one number is passed: that is enough for the second
constructor. When the double is replaced, which carries the alias over, and two other numbers are passed
around a widget, the first constructor is as good; and so it is with default values. -/
theorem selection_monotone_carried :
    let widget : TypeId := ⟨"Widget"⟩
    let gadget : TypeId := ⟨"Gadget"⟩
    let number (name : String) : Param := .value name ⟨"u32"⟩
    let make (name : String) (params : List Param) : Constructor Unit :=
      .ofFunction { name := name, params := params } fun _ => .ok .null
    let pair := make "pair" [number "a", number "b"]
    let fitted := make "fitted" [.value "g" gadget, number "n"]
    let candidates := [pair, fitted]
    let catalog : Catalog Unit := ⟨fun _ => gadget, fun _ => .null, fun _ => candidates⟩
    let run : Runner Unit := idle
    let start : World Unit := { surroundings := () }
    let before := start.performAll catalog run [.combine widget gadget]
    let after := (before.perform catalog run (.addCustomMock widget none)).2
    let one : Arguments := ⟨[.value ⟨"u32"⟩ (.int 3)]⟩
    let two : Arguments :=
      ⟨[.value ⟨"u32"⟩ (.int 1), .object widget ⟨7⟩, .value ⟨"u32"⟩ (.int 2)]⟩
    before.fixture.isResolvable one pair.toDeclaration = false ∧
      before.fixture.selectGreedy ⟨"Kit"⟩ candidates one = .ok (fitted, 1) ∧
      after.fixture.isResolvable two fitted.toDeclaration = true ∧
      (∃ other position, after.fixture.selectGreedy ⟨"Kit"⟩ candidates two = .ok (other, position) ∧
        (2 < other.params.length ∨ 2 = other.params.length ∧ position ≤ 1)) ∧
      Fixture.FirstLongest candidates pair 0 := by
  intro widget gadget number make pair fitted candidates catalog run start before after one two
  obtain ⟨hmonotone, hdefaults⟩ := selection_monotone catalog {}
  have hbefore : Reachable catalog {} before :=
    (Fresh.reachable ⟨⟨{}, rfl⟩, trivial⟩).performAll
      (scripted_idle catalog fun _ _ => trivial)
      (fun _ _ _ => trivial) fun _ _ _ => trivial
  have hnumbers : one.NoMoreThan two := by
    intro type
    by_cases htype : type = ⟨"u32"⟩
    · subst htype
      decide
    · simp [one, Ne.symm htype]
  have hmore : Relation.ReflTransGen (ProvidesMore catalog) (before, one) (after, two) :=
    (Relation.ReflTransGen.single (.performed one run rfl (by simp) (by decide))).tail
      (.passed after hnumbers)
  have hselected : before.fixture.selectGreedy ⟨"Kit"⟩ candidates one = .ok (fitted, 1) := rfl
  obtain ⟨hresolvable, -, hselection⟩ := hmonotone before one after two hbefore hmore
  obtain ⟨hlongest, -⟩ := hdefaults (.new { defaultValues := true }) rfl ⟨"Kit"⟩ candidates one
  exact ⟨rfl, hselected, hresolvable fitted.toDeclaration rfl,
    hselection ⟨"Kit"⟩ candidates fitted 1 hselected, (hlongest pair 0).mp rfl⟩

end World

end TestDoubles
