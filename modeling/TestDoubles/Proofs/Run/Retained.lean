import TestDoubles.Proofs.Registry.Answers
import TestDoubles.Proofs.Registry.Requests

/-!
# What runs do not take away

Much may be registered between two looks at a fixture, over what is there already or beside it, and
recipes may be written anew. Yet whatever could be answered before can be answered after, unless the
fixture was torn down or an alias was dropped, and both are reported. So a look at the events tells
whether what could be filled once can be filled still.

- `Event.isLoss` are the reports of a loss, `World.Lossless` holds when there are none.
- `Fixture.Retains` says that one fixture can fill what another one could, and
  `World.Retained.kept` that runs without a loss lead from one to the other.
-/

namespace TestDoubles

/-- Whether the event reports that something can no longer be answered. -/
def Event.isLoss : Event → Bool
  | .resetting _ _ | .droppedAlias _ _ => true
  | _ => false

/-! ## Registries -/

namespace Registry

/-- Whatever is answered before is answered after. -/
def Keeps (r r' : Registry) : Prop :=
  ∀ key, r.contains key → r'.contains key

theorem Keeps.refl (r : Registry) : r.Keeps r :=
  fun _ h => h

theorem Keeps.trans {r₁ r₂ r₃ : Registry} (h : r₁.Keeps r₂) (h' : r₂.Keeps r₃) : r₁.Keeps r₃ :=
  fun key hkey => h' key (h key hkey)

variable {mockOf : TypeId → TypeId} {r r' : Registry}

/-- It is enough that every entry leaves one behind that provides as much. -/
theorem Indexed.keeps (h : r.Indexed) (h' : r'.Indexed)
    (hentries : ∀ entry ∈ r.entries, ∃ other ∈ r'.entries, ∀ key,
      (entry.provides? key).isSome → (other.provides? key).isSome) : r.Keeps r' := by
  intro key hkey
  rw [h.contains_eq_answers, answers, List.any_eq_true] at hkey
  rw [h'.contains_eq_answers, answers, List.any_eq_true]
  obtain ⟨entry, hentry, hprovides⟩ := hkey
  obtain ⟨other, hother, hkeeps⟩ := hentries entry hentry
  exact ⟨other, hother, hkeeps key hprovides⟩

/-- One entry is replaced by another one that provides as much. -/
theorem Indexed.keeps_set (h : r.Indexed) (h' : r'.Indexed) {i : Nat} {previous entry : Entry}
    (hget : r.entries[i]? = some previous) (hset : r'.entries = r.entries.set i entry)
    (hprovides : ∀ key, (previous.provides? key).isSome → (entry.provides? key).isSome) :
    r.Keeps r' := by
  refine h.keeps h' fun other hother => ?_
  obtain ⟨j, hj⟩ := List.mem_iff_getElem?.mp hother
  obtain ⟨hlt, -⟩ := List.getElem?_eq_some_iff.mp hget
  rw [hset]
  by_cases hij : i = j
  · subst hij
    obtain rfl : previous = other := Option.some.inj (hget.symm.trans hj)
    exact ⟨entry, List.mem_of_getElem? (List.getElem?_set_self hlt), hprovides⟩
  · refine ⟨other, List.mem_of_getElem? (i := j) ?_, fun _ hkey => hkey⟩
    rw [List.getElem?_set_ne hij, hj]

/-- If no alias is dropped, the replacement of an entry provides as much. -/
theorem provides?_carriedAliases {previous entry : Entry} (hkey : previous.key = entry.key)
    (hlossless : ∀ event ∈ droppedAliases mockOf previous entry, event.isLoss = false) {key : Key}
    (h : (previous.provides? key).isSome) :
    (Entry.provides? { entry with aliases := carriedAliases mockOf previous entry } key).isSome := by
  rcases (provides?_isSome_iff previous key).mp h with hown | halias
  · exact (provides?_isSome_iff _ key).mpr (.inl (hkey ▸ hown))
  · obtain ⟨old, hold, hsame⟩ := List.any_eq_true.mp halias
    obtain rfl : old.key = key := of_decide_eq_true hsame
    refine (provides?_isSome_iff _ old.key).mpr (.inr ?_)
    cases hrebind : rebind? mockOf entry old with
    | none =>
      have hdropped : .droppedAlias entry.key old.key ∈ droppedAliases mockOf previous entry :=
        List.mem_filterMap.mpr ⟨old, hold, by rw [hrebind]⟩
      cases hlossless _ hdropped
    | some carried => exact hasAlias_carriedAliases hold hrebind

theorem keeps_insert (h : r.Indexed) (entry : Entry)
    (hlossless : ∀ event ∈ (r.insert mockOf entry).2, event.isLoss = false) :
    r.Keeps (r.insert mockOf entry).1 := by
  have h' : (r.insert mockOf entry).1.Indexed := indexed_insert h entry
  rcases insert_cases mockOf h entry with
    ⟨i, previous, hfind, hget, hkey, heq⟩ | ⟨-, heq⟩
  · have hevents : (r.insert mockOf entry).2 =
        droppedAliases mockOf previous entry ++ replacementWarning previous entry := by
      simp [insert, hfind, hget]
    rw [hevents] at hlossless
    refine h.keeps_set h' hget (by rw [heq]) fun key => provides?_carriedAliases hkey ?_
    exact fun event hevent => hlossless event (List.mem_append_left _ hevent)
  · refine h.keeps h' fun other hother => ⟨other, ?_, fun _ hkey => hkey⟩
    rw [heq]
    exact List.mem_append_left _ hother

theorem Requested.keeps (h : r.Indexed) {fresh : Ref} {capability : TypeId} {name : Option String}
    {outcome : Outcome Mock} (hrequested : Requested mockOf r fresh capability name outcome)
    (hlossless : ∀ event ∈ outcome.events, event.isLoss = false) : r.Keeps outcome.registry := by
  cases hrequested with
  | nameless _ => exact .refl r
  | found _ _ => exact .refl r
  | created _ _ =>
    exact keeps_insert h _ fun event hevent => hlossless event (List.mem_cons_of_mem _ hevent)

theorem Combined.keeps (h : r.Indexed) {fresh : Ref} {capability other : TypeId}
    {outcome : Outcome Mock} (hcombined : Combined mockOf r fresh capability other outcome)
    (hlossless : ∀ event ∈ outcome.events, event.isLoss = false) : r.Keeps outcome.registry := by
  cases hcombined with
  | itself _ => exact .refl r
  | refused hcreated _ => exact hcreated.keeps h hlossless
  | served hcreated _ _ => exact hcreated.keeps h hlossless
  | @added created mock i entry hcreated _ _ hget _ _ =>
    have hindexed := hcreated.indexed h
    refine (hcreated.keeps h fun event hevent =>
      hlossless event (List.mem_append_left _ hevent)).trans ?_
    refine hindexed.keeps_set (extends_addAlias hindexed hget _).indexed hget rfl fun key hkey => ?_
    rw [provides?_addAliases _ hkey]
    exact hkey

theorem keeps_addCustomMock (h : r.Indexed) (fresh : Ref) (capability : TypeId)
    (name : Option String)
    (hlossless : ∀ event ∈ (r.addCustomMock mockOf fresh capability name).events,
      event.isLoss = false) : r.Keeps (r.addCustomMock mockOf fresh capability name).registry := by
  unfold addCustomMock at hlossless ⊢
  split
  · exact .refl r
  next key hkey =>
    rw [hkey] at hlossless
    exact keeps_insert h _ hlossless

end Registry

theorem Command.Operates.keeps {mockOf : TypeId → TypeId} {command : Command} {r : Registry}
    {next allocated : Nat} {change : Registry × List Event}
    (h : command.Operates mockOf r next allocated change) (hr : r.Indexed)
    (hlossless : ∀ event ∈ change.2, event.isLoss = false) : r.Keeps change.1 := by
  cases h with
  | getMock capability name =>
    exact (Registry.requested mockOf hr ⟨next⟩ capability name).keeps hr hlossless
  | getObject capability =>
    exact (Registry.requested mockOf hr ⟨next⟩ capability none).keeps hr hlossless
  | addCustomMock capability name =>
    exact Registry.keeps_addCustomMock hr ⟨next⟩ capability name hlossless
  | useInstance capability ref => exact Registry.keeps_insert hr _ hlossless
  | useValue type datum => exact Registry.keeps_insert hr _ hlossless
  | combine capability other =>
    exact (Registry.combined mockOf hr ⟨next⟩ capability other).keeps hr hlossless

/-! ## Fixtures -/

namespace Fixture

/-- What the one fixture could fill the other one can fill. -/
structure Retains (f f' : Fixture) : Prop where
  registry : f.registry.Keeps f'.registry
  factories : ∀ key, f.hasFactory key → f'.hasFactory key
  options : f'.options = f.options

namespace Retains

variable {f f' f'' : Fixture}

theorem of_eq (hregistry : f'.registry = f.registry) (hrecipes : f'.recipes = f.recipes)
    (hoptions : f'.options = f.options) : f.Retains f' where
  registry := hregistry ▸ .refl f.registry
  factories key hfactory := by rwa [hasFactory, hrecipes]
  options := hoptions

theorem trans (h : f.Retains f') (h' : f'.Retains f'') : f.Retains f'' where
  registry := h.registry.trans h'.registry
  factories key hfactory := h'.factories key (h.factories key hfactory)
  options := h'.options.trans h.options

/-- A recipe is written that has a factory if the one before it had. -/
theorem insertRecipe (f : Fixture) {key : Key} {recipe : Recipe}
    (hfactory : f.hasFactory key → recipe.hasFactory) :
    f.Retains { f with recipes := f.recipes.insert key recipe } where
  registry := .refl f.registry
  factories other hother := by
    unfold hasFactory
    rw [Table.find?_insert]
    by_cases hkey : key = other
    · subst hkey
      rw [if_pos rfl]
      exact hfactory hother
    · rw [if_neg hkey]
      exact hother
  options := rfl

theorem freeze (f : Fixture) (key : Key) : f.Retains (f.freeze key) := by
  rcases f.freeze_cases key with heq | ⟨recipe, hrecipe, heq⟩
  · rw [heq]
    exact of_eq rfl rfl rfl
  · rw [heq]
    refine insertRecipe f fun hfactory => ?_
    rw [hasFactory, hrecipe] at hfactory
    exact hfactory

theorem configured (f : Fixture) : f.Retains f.configured := by
  refine of_eq f.registry_configured f.recipes_configured ?_
  unfold Fixture.configured
  split
  · rfl
  · rfl

theorem canFill (h : f.Retains f') {param : Param} (hfill : f.canFill param) :
    f'.canFill param := by
  simp only [Fixture.canFill, Bool.or_eq_true] at hfill ⊢
  rw [h.options]
  rcases hfill with (hregistry | hfactory) | hkind
  · exact .inl (.inl (h.registry param.key hregistry))
  · exact .inl (.inr (h.factories param.key.unnamed hfactory))
  · exact .inr hkind

end Retains

end Fixture

/-- A command that writes a recipe takes no factory away. -/
theorem Command.Rewrites.hasFactory {command : Command} {key : Key} {recipe changed : Recipe}
    (h : command.Rewrites key recipe changed) (hfactory : recipe.hasFactory) :
    changed.hasFactory := by
  cases h with
  | addType type lifetime id _ => rfl
  | setArguments type arguments _ => exact hfactory

/-- The recipe that a command writes has a factory if there was one for its key. -/
theorem Command.Rewrites.retains {command : Command} {f : Fixture} {key : Key} {recipe : Recipe}
    (h : command.Rewrites key ((f.recipes.find? key).getD { target := key }) recipe) :
    f.Retains { f with recipes := f.recipes.insert key recipe } := by
  refine .insertRecipe f fun hfactory => h.hasFactory ?_
  unfold Fixture.hasFactory at hfactory
  cases hrecipe : f.recipes.find? key with
  | none =>
    rw [hrecipe] at hfactory
    cases hfactory
  | some recipe =>
    rw [hrecipe] at hfactory
    exact hfactory

/-! ## Runs -/

namespace World

variable {E : Type} {catalog : Catalog E} {w w' w'' : World E}

/-- No loss has been reported since. -/
def Lossless (w w' : World E) : Prop :=
  ∀ event ∈ w'.events.drop w.events.length, event.isLoss = false

/-- Whatever happened since has been reported, and nothing that could be filled was lost without that
being reported too. -/
def Retained (w w' : World E) : Prop :=
  w.fixture.registry.Indexed → w'.fixture.registry.Indexed ∧
    ∃ new, w'.events = w.events ++ new ∧
      ((∀ event ∈ new, event.isLoss = false) → w.fixture.Retains w'.fixture)

namespace Retained

/-- Neither the registry nor the recipes change. -/
theorem of_eq {new : List Event} (hevents : w'.events = w.events ++ new)
    (hregistry : w'.fixture.registry = w.fixture.registry)
    (hrecipes : w'.fixture.recipes = w.fixture.recipes)
    (hoptions : w'.fixture.options = w.fixture.options) : Retained w w' :=
  fun h => ⟨hregistry ▸ h, new, hevents, fun _ => .of_eq hregistry hrecipes hoptions⟩

theorem of_fixture {f : Fixture → Fixture} (w : World E)
    (hregistry : (f w.fixture).registry = w.fixture.registry)
    (hretains : w.fixture.Retains (f w.fixture)) : Retained w (w.mapFixture f) :=
  fun h => ⟨(hregistry ▸ h : (f w.fixture).registry.Indexed), [], (List.append_nil _).symm,
    fun _ => hretains⟩

theorem trans (h : Retained w w') (h' : Retained w' w'') : Retained w w'' := by
  intro hw
  obtain ⟨hw', new, hevents, hretains⟩ := h hw
  obtain ⟨hw'', new', hevents', hretains'⟩ := h' hw'
  refine ⟨hw'', new ++ new', by rw [hevents', hevents, List.append_assoc], fun hlossless => ?_⟩
  obtain ⟨hfirst, hsecond⟩ := List.forall_mem_append.mp hlossless
  exact (hretains hfirst).trans (hretains' hsecond)

/-- If nothing is lost in the end, nothing is lost on the way. -/
theorem retains (h : Retained w w') (h' : Retained w' w'') (hw : w.fixture.registry.Indexed)
    (hlossless : Lossless w w'') : w.fixture.Retains w'.fixture := by
  obtain ⟨hw', new, hevents, hretains⟩ := h hw
  obtain ⟨-, new', hevents', -⟩ := h' hw'
  refine hretains fun event hevent => hlossless event ?_
  rw [hevents', hevents, List.append_assoc, List.drop_left]
  exact List.mem_append_left _ hevent

theorem enter {key : Key} (henter : w.enter key = .ok w') : Retained w w' := by
  obtain ⟨-, rfl⟩ := enter_eq_ok_iff.mp henter
  exact of_eq (List.append_nil _).symm rfl rfl rfl

theorem leave (w : World E) : Retained w w.leave :=
  of_eq (List.append_nil _).symm rfl rfl rfl

theorem mapSurroundings (w : World E) (s : E) : Retained w (w.mapSurroundings fun _ => s) :=
  of_eq (List.append_nil _).symm rfl rfl rfl

theorem passes (hpasses : w.Passes w') : Retained w w' := by
  obtain ⟨hfixture, -, new, hevents, -⟩ := hpasses
  exact of_eq hevents (by rw [hfixture]) (by rw [hfixture]) (by rw [hfixture])

/-- An operation on the registry that drops nothing without reporting it. -/
theorem operated (allocated : Nat) {change : Registry × List Event}
    (hindexed : w.fixture.registry.Indexed → change.1.Indexed)
    (hkeeps : w.fixture.registry.Indexed → (∀ event ∈ change.2, event.isLoss = false) →
      w.fixture.registry.Keeps change.1) :
    Retained w ({ w with allocated := allocated }.setRegistry change) :=
  fun h => ⟨hindexed h, change.2, rfl, fun hlossless =>
    ⟨hkeeps h hlossless, fun _ hfactory => hfactory, rfl⟩⟩

theorem insertValue (w : World E) (key : Key) (value : Stored) :
    Retained w (w.insertValue catalog.mockOf key value) :=
  operated w.allocated (fun h => Registry.indexed_insert h _) fun h => Registry.keeps_insert h _

theorem frozen (w : World E) (key : Key) : Retained w (w.mapFixture (Fixture.freeze · key)) :=
  of_fixture w (Fixture.registry_freeze w.fixture key) (.freeze w.fixture key)

/-- **Runs take nothing away without reporting it.** -/
theorem kept (catalog : Catalog E) (conduct : Conduct E) :
    Kept catalog conduct (Retained (E := E)) where
  refl w := of_eq (List.append_nil _).symm rfl rfl rfl
  trans := trans
  reports hpasses _ := passes hpasses
  outside hpasses _ := passes hpasses
  answered _ _ _ hperformed _ := hperformed.trans (mapSurroundings _ _)
  operated _ hoperates :=
    operated _ (fun h => (hoperates.step.extends h).indexed) fun h => hoperates.keeps h
  rewritten {w _ _ _} _ hrewrites := of_fixture w rfl hrewrites.retains
  configured {w} _ := of_fixture w rfl (.of_eq rfl rfl rfl)
  reset {w} _ := by
    refine fun _ => ⟨Registry.indexed_empty, _, rfl, fun hlossless => ?_⟩
    cases hlossless _ (List.mem_singleton_self _)
  bracket henter hdone := (enter henter).trans (hdone.trans (leave _))
  failed hcalled hdone _ :=
    (enter hcalled.enters).trans (hdone.trans ((mapSurroundings _ _).trans (leave _)))
  unshared hcalled _ hdone _ :=
    (enter hcalled.enters).trans (hdone.trans ((mapSurroundings _ _).trans (leave _)))
  shared hcalled _ hdone _ := (enter hcalled.enters).trans
    (hdone.trans ((mapSurroundings _ _).trans ((insertValue _ _ _).trans (leave _))))
  mocked {w key} _ := by
    have hoperates : (Command.getMock key.type key.name).Operates catalog.mockOf w.fixture.registry
        w.allocated (w.allocated + 1) _ := .getMock key.type key.name
    exact operated (w.allocated + 1) (fun h => (hoperates.step.extends h).indexed) fun h =>
      hoperates.keeps h
  unbuilt _ _ := mapSurroundings _ _
  recorded _ _ hfilled _ :=
    hfilled.trans ((mapSurroundings _ _).trans (of_eq rfl rfl rfl rfl))
  frozen := frozen
  built w := of_fixture w rfl (.of_eq rfl rfl rfl)

end Retained

end World

end TestDoubles
