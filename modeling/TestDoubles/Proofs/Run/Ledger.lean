import TestDoubles.Proofs.Run.Watched

/-!
# Commands of watched runs

A command of a watched run comes to its answer by steps that are seen in the log, in the recipes, in the
history or in the stage, or not at all. A relation that takes notice of these only is followed here from
the steps to the command.

- `World.Watched.Ledger` is what the steps have to keep to, and `World.Watched.Answered` what a command
  comes to then, before it is written down itself; `World.Watched.Ledger.answered` shows this.
- `World.Watched.delegates_perform` says whose deeds are written down while a command is answered.
-/

namespace TestDoubles

variable {E : Type}

namespace World

namespace Watched

/-! ## Single steps -/

/-- The log and the fixture are the same, except for the registry and what is in progress. -/
structure Alike (w w' : World (E × List Deed)) : Prop where
  deeds : w'.deeds = w.deeds
  recipes : w'.fixture.recipes = w.fixture.recipes
  history : w'.fixture.history = w.fixture.history
  stage : w'.fixture.stage = w.fixture.stage

/-- A relation that the steps keep to by which an instance is created or a constructor resolved. It
takes notice of nothing but the log, recipes, the history and the stage. Of the factories that run
meanwhile `ran` is known. -/
structure Ledger (ran : FactoryId → World (E × List Deed) →
      Except Error Datum × World (E × List Deed) → Prop)
    (R : World (E × List Deed) → World (E × List Deed) → Prop) : Prop where
  trans {w₁ w₂ w₃ : World (E × List Deed)} : R w₁ w₂ → R w₂ w₃ → R w₁ w₃
  alike {w w' : World (E × List Deed)} : Alike w w' → R w w'
  -- The factory of the type that is created has come to its end.
  created {w started ended : World (E × List Deed)} {key : Key} {id : FactoryId}
      {answer : Except Error Datum} : w.fixture.hasFactory key → Alike w started →
    started.supplies? = none → ran id started (answer, ended) → R w ended
  -- A factory that ran for a parameter has failed.
  failed {w started ended : World (E × List Deed)} {key : Key} {id : FactoryId} {e : Error} :
    w.fixture.hasFactory key → Alike w started → started.supplies? = some key →
    ran id started (.error e, ended) → R w ended
  -- A factory that ran for a parameter has made a value, and its recipe is fixed.
  supplied {w started ended w' : World (E × List Deed)} {key : Key} {id : FactoryId}
      {datum : Datum} : w.fixture.hasFactory key → Alike w started →
    started.supplies? = some key → ran id started (.ok datum, ended) → Alike ended w' →
    R w (w'.mapFixture (Fixture.freeze · key))

namespace Alike

variable {w w' : World (E × List Deed)}

theorem refl (w : World (E × List Deed)) : Alike w w :=
  ⟨rfl, rfl, rfl, rfl⟩

theorem passes (h : w.Passes w') (hdeeds : w'.deeds = w.deeds) : Alike w w' := by
  obtain ⟨hfixture, -⟩ := h
  exact ⟨hdeeds, by rw [hfixture], by rw [hfixture], by rw [hfixture]⟩

theorem enter {key : Key} (h : w.enter key = .ok w') : Alike w w' := by
  obtain ⟨-, rfl⟩ := enter_eq_ok_iff.mp h
  exact ⟨rfl, rfl, rfl, rfl⟩

end Alike

namespace Ledger

variable {catalog : Catalog E} {ran : FactoryId → World (E × List Deed) →
    Except Error Datum × World (E × List Deed) → Prop}
  {R : World (E × List Deed) → World (E × List Deed) → Prop} {run : Runner (E × List Deed)}
  {target : TypeId} {signature : Option Signature} {w w' : World (E × List Deed)}

theorem refl (hledger : Ledger ran R) (w : World (E × List Deed)) : R w w :=
  hledger.alike (.refl w)

/-- For a parameter a factory runs in a world whose stack ends in its key. -/
theorem within (hledger : Ledger ran R) : Within catalog.watched
    (fun id started result => started.supplies? = started.fixture.inProgress.getLast? ∧
      ran id started result) R := by
  have hcalled {key : Key} {recipe : Recipe} {factory : Factory}
      {w started : World (E × List Deed)}
      (hcalled : Called catalog.watched key recipe factory w started)
      (hsupplies : started.supplies? = started.fixture.inProgress.getLast?) :
      w.fixture.hasFactory key ∧ Alike w started ∧ started.supplies? = some key := by
    obtain ⟨hrecipe, hfactory, henter, -⟩ := hcalled
    refine ⟨hasFactory_of_recipe hrecipe hfactory, .enter henter, ?_⟩
    obtain ⟨-, rfl⟩ := enter_eq_ok_iff.mp henter
    rw [hsupplies]
    exact List.getLast?_concat
  exact
    { refl := hledger.refl
      trans := hledger.trans
      reports := fun hpasses hsame => hledger.alike (.passes hpasses (congrArg Prod.snd hsame))
      failed := by
        rintro w started ended key recipe factory e hcall ⟨hsupplies, hran⟩
        obtain ⟨hfactory, halike, hkey⟩ := hcalled hcall hsupplies
        exact hledger.trans (hledger.failed hfactory halike hkey hran)
          (hledger.alike ⟨rfl, rfl, rfl, rfl⟩)
      transient := by
        rintro w started ended key recipe factory datum hcall - ⟨hsupplies, hran⟩
        obtain ⟨hfactory, halike, hkey⟩ := hcalled hcall hsupplies
        exact hledger.supplied hfactory halike hkey hran ⟨rfl, rfl, rfl, rfl⟩
      singleton := by
        rintro w started ended key recipe factory datum hcall - ⟨hsupplies, hran⟩
        obtain ⟨hfactory, halike, hkey⟩ := hcalled hcall hsupplies
        exact hledger.supplied hfactory halike hkey hran ⟨rfl, rfl, rfl, rfl⟩
      mocked := fun _ => hledger.alike ⟨rfl, rfl, rfl, rfl⟩
      unbuilt := by
        intro w target constructor intake e s hconstructor hbuild
        have hdeeds := Catalog.watched_build hconstructor intake w.surroundings
        rw [hbuild] at hdeeds
        exact hledger.alike ⟨hdeeds, rfl, rfl, rfl⟩ }

section Resolving

variable {explicit : Arguments}
  (hran : ∀ id started, ResolveStarts catalog.watched run target signature explicit w id started →
    ran id started (run id started))

include hran

/-- **A constructor that is not resolved keeps to the relation.** -/
theorem unresolved (hledger : Ledger ran R) {e : Error}
    (h : Built catalog.watched run target signature explicit w (.error e, w')) : R w w' :=
  hledger.within.unresolved (fun id started h => ⟨h.supplies?, hran id started h⟩) h

/-- **A constructor that is resolved keeps to the relation** until the construction is recorded. -/
theorem resolved (hledger : Ledger ran R) {construction : Construction} {datum : Datum}
    (h : Built catalog.watched run target signature explicit w (.ok (construction, datum), w')) :
    ∃ filled, R w filled ∧ w'.deeds = filled.deeds ∧
      w'.fixture = { filled.fixture with
        history := filled.fixture.history.record (.of target) construction } := by
  obtain ⟨constructor, hconstructor, filled, s, -, -, hfilled, hbuild, rfl⟩ :=
    hledger.within.resolved (fun id started h => ⟨h.supplies?, hran id started h⟩) h
  have hdeeds := Catalog.watched_build (Fixture.mem_of_visible hconstructor)
    ⟨target, construction.injections⟩ filled.surroundings
  rw [hbuild] at hdeeds
  exact ⟨filled, hfilled, hdeeds, rfl⟩

end Resolving

section Creating

variable {arguments : Option Arguments}
  (hran : ∀ id started, CreateStarts catalog.watched run target signature arguments w id started →
    ran id started (run id started))

include hran

/-- What comes of a type that has been entered keeps to the relation, except that a construction may
be recorded in the end. -/
private theorem obtained (hledger : Ledger ran R) {entered : World (E × List Deed)}
    {answer : Except Error Datum} (henter : w.enter (.of target) = .ok entered)
    (h : Obtained catalog.watched run target (.of target) signature arguments entered (answer, w')) :
    ∃ w₁, R w w₁ ∧ w'.deeds = w₁.deeds ∧ w'.fixture.recipes = w₁.fixture.recipes ∧
      w'.fixture.stage = w₁.fixture.stage ∧
      ∀ e, answer = .error e → w'.fixture.history = w₁.fixture.history := by
  have hentered := Alike.enter henter
  have hown {recipe : Recipe} {factory : Factory} {answer : Except Error Datum}
      {ended : World (E × List Deed)}
      (hrecipe : entered.fixture.recipes.find? (.of target) = some recipe)
      (hfactory : recipe.factory = some factory)
      (hcached : entered.cached? (.of target) recipe.sharedAs = none)
      (hrun : run factory.id (entered.emit [.fromFactory (.of target)]) = (answer, ended)) :
      R w ended := by
    rw [hentered.recipes] at hrecipe
    have hcached' : w.cached? (.of target) recipe.sharedAs = none := by
      obtain ⟨-, rfl⟩ := enter_eq_ok_iff.mp henter
      exact hcached
    have hended := hran _ _ (.factory henter hrecipe hfactory hcached')
    rw [hrun] at hended
    have halike : Alike w (entered.emit [.fromFactory (.of target)]) :=
      ⟨hentered.deeds, hentered.recipes, hentered.history, hentered.stage⟩
    exact hledger.created (hasFactory_of_recipe hrecipe hfactory) halike
      (supplies?_fromFactory entered (.of target)) hended
  cases h with
  | cached _ _ _ =>
    exact ⟨entered, hledger.alike hentered, rfl, rfl, rfl, fun _ _ => rfl⟩
  | failed hrecipe hfactory hcached hrun =>
    exact ⟨_, hown hrecipe hfactory hcached hrun, rfl, rfl, rfl, fun _ _ => rfl⟩
  | unshared hrecipe hfactory hshare hrun =>
    exact ⟨_, hown hrecipe hfactory (by rw [hshare]; rfl) hrun, rfl, rfl, rfl, fun _ _ => rfl⟩
  | shared hrecipe hfactory hshare hcached hrun =>
    exact ⟨_, hown hrecipe hfactory (hshare ▸ hcached) hrun, rfl, rfl, rfl, fun _ _ => rfl⟩
  | @resolved answer _ hfactory h =>
    have hfactory' : w.fixture.hasFactory (.of target) = false := by
      unfold Fixture.hasFactory at hfactory ⊢
      rwa [hentered.recipes] at hfactory
    have hparams : ∀ id started, ResolveStarts catalog.watched run target signature
        ((arguments.or ((entered.fixture.recipes.find? (.of target)).bind Recipe.arguments)).getD {})
        entered id started → ran id started (run id started) := by
      intro id started hstarts
      rw [hentered.recipes] at hstarts
      exact hran id started (.resolved henter hfactory' hstarts)
    rcases answer with e | ⟨construction, datum⟩
    · exact ⟨w', hledger.trans (hledger.alike hentered) (hledger.unresolved hparams h), rfl, rfl, rfl,
        fun _ _ => rfl⟩
    · obtain ⟨filled, hfilled, hdeeds, hfixture⟩ := hledger.resolved hparams h
      refine ⟨filled, hledger.trans (hledger.alike hentered) hfilled, hdeeds, ?_, ?_, ?_⟩
      · rw [hfixture]
      · rw [hfixture]
      · rintro e ⟨⟩

/-- **A type that is not created keeps to the relation.** -/
theorem uncreated (hledger : Ledger ran R) {e : Error}
    (h : Created catalog.watched run target signature arguments w (.error e, w')) : R w w' := by
  cases h with
  | cyclic _ => exact hledger.refl w
  | failed henter h =>
    obtain ⟨w₁, hobtained, hdeeds, hrecipes, hstage, hhistory⟩ := hledger.obtained hran henter h
    exact hledger.trans hobtained (hledger.alike ⟨hdeeds, hrecipes, hhistory e rfl, hstage⟩)

/-- **A type that is created keeps to the relation** until a construction is recorded, its recipe is
fixed and the fixture moves on to the last stage. -/
theorem creation (hledger : Ledger ran R) {datum : Datum}
    (h : Created catalog.watched run target signature arguments w (.ok datum, w')) :
    ∃ w₁, R w w₁ ∧ w'.deeds = w₁.deeds ∧
      w'.fixture.recipes = (w₁.fixture.freeze (.of target)).recipes ∧
      w'.fixture.stage = .constructed := by
  cases h with
  | @built _ done _ henter h =>
    obtain ⟨w₁, hobtained, hdeeds, hrecipes, -⟩ := hledger.obtained hran henter h
    refine ⟨w₁, hobtained, hdeeds, ?_, rfl⟩
    show (done.leave.fixture.freeze (.of target)).recipes = _
    have hleft : done.leave.fixture.recipes = w₁.fixture.recipes := hrecipes
    unfold Fixture.freeze
    rw [hleft]
    cases w₁.fixture.recipes.find? (.of target) with
    | none => exact hleft
    | some recipe => rfl

theorem createStarts (hledger : Ledger ran R) {started : World (E × List Deed)} {id : FactoryId}
    (h : CreateStarts catalog.watched run target signature arguments w id started) :
    R w started :=
  hledger.within.createStarts (fun henter => hledger.alike (.enter henter))
    (fun _ hentered hfactory id started h =>
      ⟨h.supplies?, hran id started (.resolved hentered hfactory h)⟩) h

end Creating

/-- **The relation leads to the worlds in which a command starts factories.** -/
theorem starts (hledger : Ledger ran R) {command : Command} {started : World (E × List Deed)}
    {id : FactoryId}
    (hran : ∀ id started, Starts catalog.watched run command w id started →
      ran id started (run id started))
    (h : Starts catalog.watched run command w id started) : R w started := by
  cases h with
  | create h => exact hledger.createStarts (fun id started h => hran id started (.create h)) h
  | createBySignature h =>
    exact hledger.createStarts (fun id started h => hran id started (.createBySignature h)) h
  | resolve h =>
    exact hledger.within.resolveStarts (fun henter => hledger.alike (.enter henter))
      (fun id started h => ⟨h.supplies?, hran id started (.resolve h)⟩) h

/-- What a command comes to, as far as is noticed. -/
inductive Answered (catalog : Catalog E) (R : World (E × List Deed) → World (E × List Deed) → Prop)
    (command : Command) (w : World (E × List Deed)) :
    Except Error Reply → World (E × List Deed) → Prop where
  -- It registers something, or it is refused.
  | registered {answer : Except Error Reply} {w' : World (E × List Deed)}
      (hdirect : command.isDirect) (hreset : command ≠ .reset)
      (h : Registered catalog.watched command w (answer, w')) : Answered catalog R command w answer w'
  -- The fixture is torn down.
  | reset (h : command = .reset) : Answered catalog R command w (.ok .nothing) w.reset
  -- An instance is not created, or a constructor not resolved.
  | failed {e : Error} {w' : World (E × List Deed)} (hdirect : command.isDirect = false)
      (h : R w w') : Answered catalog R command w (.error e) w'
  -- An instance is created.
  | created {target : TypeId} {datum : Datum} {w₁ w' : World (E × List Deed)}
      (htarget : command.creates? = some target) (h : R w w₁) (hdeeds : w'.deeds = w₁.deeds)
      (hrecipes : w'.fixture.recipes = (w₁.fixture.freeze (.of target)).recipes)
      (hstage : w'.fixture.stage = .constructed) :
      Answered catalog R command w (.ok (.instanceOf datum)) w'
  -- A constructor is resolved, and the construction recorded.
  | resolved {target : TypeId} {signature : Option Signature} {explicit : Arguments}
      {construction : Construction} {datum : Datum} {w₁ w' : World (E × List Deed)}
      (hcommand : command = .resolve target signature explicit) (h : R w w₁)
      (hdeeds : w'.deeds = w₁.deeds)
      (hfixture : w'.fixture = { w₁.fixture with
        history := w₁.fixture.history.record (.of target) construction }) :
      Answered catalog R command w (.ok (.construction construction datum)) w'

/-- **What commands come to**, if enough is known of the factories that they start. -/
theorem answered (hledger : Ledger ran R) {command : Command}
    (hran : ∀ id started, Starts catalog.watched run command w id started →
      ran id started (run id started)) :
    Answered catalog R command w (w.perform catalog.watched run command).1
      (w.perform catalog.watched run command).2 := by
  have hcreate {target : TypeId} {signature : Option Signature} {arguments : Option Arguments}
      (htarget : command.creates? = some target) (hdirect : command.isDirect = false)
      (hstarts : ∀ id started,
        CreateStarts catalog.watched run target signature arguments w id started →
          ran id started (run id started)) :
      Answered catalog R command w
        ((w.create catalog.watched run target signature arguments).1.map .instanceOf)
        (w.create catalog.watched run target signature arguments).2 := by
    have hcreated := World.created catalog.watched run target signature arguments w
    rcases hresult : w.create catalog.watched run target signature arguments with ⟨e | datum, w'⟩
    · rw [hresult] at hcreated
      exact .failed hdirect (hledger.uncreated hstarts hcreated)
    · rw [hresult] at hcreated
      obtain ⟨w₁, h, hdeeds, hrecipes, hstage⟩ := hledger.creation hstarts hcreated
      exact .created htarget h hdeeds hrecipes hstage
  by_cases hdirect : command.isDirect
  · by_cases hreset : command = .reset
    · subst hreset
      exact .reset rfl
    · exact .registered hdirect hreset (World.registered catalog.watched run hdirect hreset w)
  · cases command with
    | create type arguments => exact hcreate rfl rfl fun id started h => hran id started (.create h)
    | createBySignature type signature =>
      exact hcreate rfl rfl fun id started h => hran id started (.createBySignature h)
    | resolve type signature explicit =>
      have hbuilt := World.built catalog.watched run type signature explicit w
      have hstarts := fun id started h => hran id started (.resolve h)
      simp only [World.perform]
      rcases hresult : w.resolve catalog.watched run type signature explicit with
        ⟨e | ⟨construction, datum⟩, w'⟩
      · rw [hresult] at hbuilt
        exact .failed rfl (hledger.unresolved hstarts hbuilt)
      · rw [hresult] at hbuilt
        obtain ⟨w₁, h, hdeeds, hfixture⟩ := hledger.resolved hstarts hbuilt
        exact .resolved rfl h hdeeds hfixture
    | _ => exact absurd rfl hdirect

end Ledger

/-! ## Whose deeds are written down -/

/-- The log goes on. -/
def Extends (w w' : World (E × List Deed)) : Prop :=
  ∃ new, w'.deeds = w.deeds ++ new

/-- The deed was written down while a factory ran that the command had started. -/
def Nested (catalog : Catalog E) (run : Runner (E × List Deed)) (command : Command)
    (w : World (E × List Deed)) (deed : Deed) : Prop :=
  ∃ id started during, Starts catalog.watched run command w id started ∧
    (run id started).2.deeds = started.deeds ++ during ∧ deed ∈ during

/-- What is new in the log, has been written down by factories. -/
def Delegates (catalog : Catalog E) (run : Runner (E × List Deed)) (command : Command)
    (start w w' : World (E × List Deed)) : Prop :=
  ∃ new, w'.deeds = w.deeds ++ new ∧ ∀ deed ∈ new, Nested catalog run command start deed

section Nesting

variable {catalog : Catalog E} {run : Runner (E × List Deed)} {command : Command}
  {start w w' w'' : World (E × List Deed)}

theorem Delegates.of_deeds (h : w'.deeds = w.deeds) : Delegates catalog run command start w w' :=
  ⟨[], by rw [h, List.append_nil], by simp⟩

theorem Delegates.trans (h : Delegates catalog run command start w w')
    (h' : Delegates catalog run command start w' w'') :
    Delegates catalog run command start w w'' := by
  obtain ⟨new, hdeeds, hnew⟩ := h
  obtain ⟨new', hdeeds', hnew'⟩ := h'
  refine ⟨new ++ new', by rw [hdeeds', hdeeds, List.append_assoc], ?_⟩
  exact fun deed hdeed => (List.mem_append.mp hdeed).elim (hnew deed) (hnew' deed)

theorem Registered.deeds_eq {answer : Except Error Reply}
    (h : Registered catalog.watched command w (answer, w')) : w'.deeds = w.deeds := by
  cases h <;> rfl

theorem ledger_delegates (hruns : ∀ id started, Extends started (run id started).2) :
    Ledger (fun id started result => Starts catalog.watched run command start id started ∧
      result = run id started) (Delegates catalog run command start) := by
  have hended {w started : World (E × List Deed)} {id : FactoryId} (halike : Alike w started)
      (hstarts : Starts catalog.watched run command start id started) :
      Delegates catalog run command start w (run id started).2 := by
    obtain ⟨during, hduring⟩ := hruns id started
    exact ⟨during, by rw [hduring, halike.deeds], fun deed hdeed =>
      ⟨id, started, during, hstarts, hduring, hdeed⟩⟩
  constructor
  · exact Delegates.trans
  · exact fun halike => .of_deeds halike.deeds
  · rintro w started ended key id answer - halike - ⟨hstarts, hresult⟩
    obtain rfl : ended = _ := congrArg Prod.snd hresult
    exact hended halike hstarts
  · rintro w started ended key id e - halike - ⟨hstarts, hresult⟩
    obtain rfl : ended = _ := congrArg Prod.snd hresult
    exact hended halike hstarts
  · rintro w started ended w' key id datum - halike - ⟨hstarts, hresult⟩ hsame
    obtain rfl : ended = _ := congrArg Prod.snd hresult
    exact (hended halike hstarts).trans (.of_deeds hsame.deeds)

private theorem delegates_perform_of_extends
    (hruns : ∀ id started, Extends started (run id started).2) (command : Command)
    (w : World (E × List Deed)) :
    Delegates catalog run command w w (w.perform catalog.watched run command).2 := by
  have hledger : Ledger _ (Delegates catalog run command w) := ledger_delegates hruns
  have hanswered := hledger.answered fun id started hstarts => ⟨hstarts, rfl⟩
  generalize (w.perform catalog.watched run command).1 = answer,
    (w.perform catalog.watched run command).2 = w' at hanswered ⊢
  cases hanswered with
  | registered _ _ h => exact .of_deeds (Registered.deeds_eq h)
  | reset _ => exact .of_deeds rfl
  | failed _ h => exact h
  | created _ h hdeeds _ _ => exact h.trans (.of_deeds hdeeds)
  | resolved _ h hdeeds _ => exact h.trans (.of_deeds hdeeds)

theorem Extends.trans (h : Extends w w') (h' : Extends w' w'') : Extends w w'' := by
  obtain ⟨new, h⟩ := h
  obtain ⟨new', h'⟩ := h'
  exact ⟨new ++ new', by rw [h', h, List.append_assoc]⟩

theorem Extends.note (h : Extends w w') (deed : Deed) : Extends w (w'.note deed) :=
  h.trans ⟨[deed], rfl⟩

private theorem extends_of_ends (hends : Ends Extends run) (id : FactoryId)
    (started : World (E × List Deed)) : Extends started (run id started).2 := by
  obtain ⟨done, hdone, heq⟩ := hends id started
  exact heq ▸ hdone.note _

/-- The log only ever goes on. -/
theorem observed_extends (catalog : Catalog E) : Observed catalog (Extends (E := E)) where
  trans := Extends.trans
  outside h := ⟨[], by rw [h.2, List.append_nil]⟩
  answered {run w w' command answer} hends hperform := by
    obtain ⟨nested, hnested, -⟩ :=
      delegates_perform_of_extends (extends_of_ends hends) command w
    rw [hperform] at hnested
    exact Extends.note ⟨nested, hnested⟩ _
  starts {run w started command id} hends hstarts := by
    have hledger : Ledger _ (Delegates catalog run command w) :=
      ledger_delegates (extends_of_ends hends)
    obtain ⟨nested, hnested, -⟩ := hledger.starts (fun id started h => ⟨h, rfl⟩) hstarts
    exact ⟨nested, hnested⟩

/-- **While a command is answered, only the factories that it starts have deeds written down.** -/
theorem delegates_perform (hrun : Scripted catalog run) (command : Command)
    (w : World (E × List Deed)) :
    Delegates catalog run command w w (w.perform catalog.watched run command).2 :=
  delegates_perform_of_extends (extends_of_ends ((observed_extends catalog).ends hrun)) command w

end Nesting

end Watched

end World

end TestDoubles
