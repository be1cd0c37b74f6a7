import TestDoubles.Proofs.Run.Plain

/-!
# Looking up by key

All questions that are asked of a registry by key are answered from the position of one entry. Here
that position is shown to be the one that a plain scan of the entries finds, in the registries that
operations on a registry produce and in those of fixtures, whatever has been done to them; and as long
as nothing is torn down, no entry moves.
-/

namespace TestDoubles

/-! ## The registry of a fixture -/

namespace World

variable {E : Type} {catalog : Catalog E} {conduct : Conduct E}

/-- Runs do to the registry of a fixture what operations on a registry do. -/
theorem Reachable.registry {w : World E} (hw : Reachable catalog conduct w) :
    Registry.Reachable catalog.mockOf w.fixture.registry := by
  have hplain : Plain catalog conduct fun w w' =>
      Registry.Reachable catalog.mockOf w.fixture.registry →
        Registry.Reachable catalog.mockOf w'.fixture.registry :=
    { refl := fun _ h => h
      trans := fun h₁ h₂ h => h₂ (h₁ h)
      passes := fun hpasses h => by rwa [hpasses.fixture]
      bracket := fun henter h hw => by
        obtain ⟨-, rfl⟩ := enter_eq_ok_iff.mp henter
        exact h hw
      registry := fun hstep h => h.step hstep
      recipe := fun _ _ _ h => h
      history := fun _ _ _ h => h
      stage := fun _ _ h => h
      reset := fun _ h => h.clear }
  refine hplain.kept.reachable ?_ ?_ hw
  · intro w w' key henter h
    obtain ⟨-, rfl⟩ := enter_eq_ok_iff.mp henter
    exact h
  · intro w hfresh
    obtain ⟨⟨options, hoptions⟩, -⟩ := hfresh
    rw [hoptions]
    exact .empty

/-- Runs that tear nothing down do to the registry of a fixture what operations short of `clear`
do. -/
theorem Leads.registry {w w' : World E} (h : Leads catalog conduct.withoutReset w w') :
    Registry.Run catalog.mockOf w.fixture.registry w'.fixture.registry := by
  have hplain : Plain catalog conduct.withoutReset fun w w' =>
      Registry.Run catalog.mockOf w.fixture.registry w'.fixture.registry :=
    { refl := fun _ => .refl
      trans := fun h₁ h₂ => h₁.trans h₂
      passes := fun hpasses => by
        rw [hpasses.fixture]
      bracket := fun henter h => by
        obtain ⟨-, rfl⟩ := enter_eq_ok_iff.mp henter
        exact h
      registry := fun hstep => .single hstep
      recipe := fun _ _ _ => .refl
      history := fun _ _ _ => .refl
      stage := fun _ _ => .refl
      reset := fun hadmits => absurd rfl hadmits.2 }
  refine hplain.kept.leads ?_ h
  intro w w' key henter
  obtain ⟨-, rfl⟩ := enter_eq_ok_iff.mp henter
  exact .refl

end World

namespace Registry

/-! ## Answers by key -/

/-- Every question by key is answered from the position that a scan finds. -/
structure AgreesWithScan (r : Registry) : Prop where
  keys_nodup : r.keys.Nodup
  position?_eq (key : Key) : r.position? key = r.scan key
  position?_lt {key : Key} {i : Nat} : r.position? key = some i → i < r.size
  contains_eq (key : Key) : r.contains key = (r.scan key).isSome
  indexOf_eq (key : Key) (required : Bool) : r.indexOf key required =
    if required ∧ r.scan key = none then .error (.notFound key) else .ok (r.scan key)
  -- What is looked up is there whenever the key is, and the entry at that position provides it.
  lookup_isSome (key : Key) : (r.lookup key).isSome = r.contains key
  lookup_of_scan {key : Key} {i : Nat} : r.scan key = some i → ∃ entry object,
    r.entries[i]? = some entry ∧ entry.provides? key = some object ∧
      r.lookup key = some (object, entry.origin)

theorem Indexed.agreesWithScan {r : Registry} (h : r.Indexed) : r.AgreesWithScan := by
  have hfound {key : Key} {i : Nat} (hscan : r.scan key = some i) : ∃ entry object,
      r.entries[i]? = some entry ∧ entry.provides? key = some object ∧
        r.lookup key = some (object, entry.origin) := by
    obtain ⟨entry, hentry, hprovides⟩ := provides?_of_scan hscan
    obtain ⟨object, hobject⟩ := Option.isSome_iff_exists.mp hprovides
    refine ⟨entry, object, hentry, hobject, ?_⟩
    simp [lookup, entry?, h.position?_eq_scan, hscan, hentry, hobject]
  constructor
  · exact h.keys_nodup
  · exact h.position?_eq_scan
  · intro key i hi
    rw [h.position?_eq_scan] at hi
    obtain ⟨entry, -, hentry, -⟩ := hfound hi
    exact (List.getElem?_eq_some_iff.mp hentry).1
  · intro key
    rw [contains, h.position?_eq_scan]
  · intro key required
    rw [indexOf, h.position?_eq_scan]
    cases r.scan key <;> simp
  · intro key
    rw [contains, h.position?_eq_scan]
    cases hscan : r.scan key with
    | none => simp [lookup, entry?, h.position?_eq_scan, hscan]
    | some i =>
      obtain ⟨_, _, -, -, hlookup⟩ := hfound hscan
      rw [hlookup]
      rfl
  · exact hfound

/-- No entry moves from one registry to the other. -/
def Stays (r r' : Registry) : Prop :=
  ∀ (i : Nat) (key : Key), r.keys[i]? = some key → r'.keys[i]? = some key

theorem Extends.stays {r r' : Registry} (h : r.Extends r') : r.Stays r' := by
  intro i key hi
  obtain ⟨rest, hrest⟩ := h.keys_prefix
  have hlt : i < r.keys.length := (List.getElem?_eq_some_iff.mp hi).1
  rw [← hrest, List.getElem?_append_left hlt]
  exact hi

/-- **The index answers as a plain scan does**, in every registry that comes of operations on
registries and in every registry of a fixture; and no entry moves until everything is forgotten. -/
theorem index_agrees_with_scan {E : Type} (catalog : Catalog E) (conduct : Conduct E) :
    (∀ r, Reachable catalog.mockOf r → r.AgreesWithScan ∧
      ∀ r', Run catalog.mockOf r r' → r.Stays r') ∧
    (∀ w, World.Reachable catalog conduct w → w.fixture.registry.AgreesWithScan ∧
      ∀ w', World.Leads catalog conduct.withoutReset w w' →
        w.fixture.registry.Stays w'.fixture.registry) := by
  constructor
  · intro r hr
    exact ⟨hr.indexed.agreesWithScan, fun r' hrun => (hrun.extends hr.indexed).stays⟩
  · intro w hw
    have hindexed := hw.registry.indexed
    refine ⟨hindexed.agreesWithScan, ?_⟩
    intro w' hleads
    exact (hleads.registry.extends hindexed).stays

/-- A logger that also serves as an audit trail, found by its alias; and a fixture that is given a
value. -/
theorem index_agrees_with_scan_combined :
    let catalog : Catalog Unit := ⟨fun _ => ⟨"MockLogger"⟩, fun _ => .null, fun _ => []⟩
    let combined := (empty.combine catalog.mockOf ⟨0⟩ ⟨"Logger"⟩ ⟨"AuditTrail"⟩).registry
    let start : World Unit := { surroundings := () }
    combined.scan (.of ⟨"AuditTrail"⟩) = some 0 ∧ combined.AgreesWithScan ∧
      combined.Stays (combined.useInstance catalog.mockOf ⟨"AuditTrail"⟩ ⟨1⟩).1 ∧
      start.fixture.registry.AgreesWithScan ∧
      start.fixture.registry.Stays
        (start.useValue catalog.mockOf ⟨"u32"⟩ (.int 3)).fixture.registry := by
  intro catalog combined start
  have hcombined : Reachable catalog.mockOf combined :=
    .step .empty (.combine empty ⟨0⟩ ⟨"Logger"⟩ ⟨"AuditTrail"⟩)
  have hstart : World.Reachable catalog {} start :=
    World.Fresh.reachable ⟨⟨{}, rfl⟩, trivial⟩
  have hleads : World.Leads catalog (Conduct.withoutReset {}) start
      (start.useValue catalog.mockOf ⟨"u32"⟩ (.int 3)) := by
    refine .single (.step (World.scripted_idle catalog ?_)
      (World.Step.command (.useValue ⟨"u32"⟩ (.int 3)) ?_ ?_))
    · exact fun _ _ => trivial
    · exact ⟨trivial, by simp⟩
    · exact fun _ _ => trivial
  obtain ⟨hbare, hfixture⟩ := index_agrees_with_scan catalog {}
  refine ⟨by decide, (hbare combined hcombined).1, ?_, (hfixture start hstart).1, ?_⟩
  · exact (hbare combined hcombined).2 _ (.single (.useInstance combined ⟨"AuditTrail"⟩ ⟨1⟩))
  · exact (hfixture start hstart).2 _ hleads

end Registry

end TestDoubles
