import Mathlib.Data.List.Basic
import TestDoubles.Proofs.Text.Dumps
import TestDoubles.Scenario.Answer

/-!
# Whatever is dumped is legible

Every dump that can be asked for is legible, so it is on one line and shows everything that it stands for.
For errors this means that comparing dumps is comparing errors, up to reasons that are worded alike.

- `Scenario.Session.legible_dump` is about whatever a scenario can ask to be dumped.
- `Error.sameAs_iff` and `Error.message_eq_of_sameAs` are about errors.
-/

namespace TestDoubles

namespace Dump

/-! ## Parts of dumps -/

/-- The fields of a legible record. -/
def LegibleFields (fields : List (String × Dump)) : Prop :=
  ∀ field ∈ fields, isName field.1 ∧ field.2.Legible

theorem LegibleFields.nil : LegibleFields [] :=
  List.forall_mem_nil _

theorem LegibleFields.cons {name : String} {value : Dump} {fields : List (String × Dump)}
    (hname : isName name) (hvalue : value.Legible) (hfields : LegibleFields fields) :
    LegibleFields ((name, value) :: fields) :=
  List.forall_mem_cons.mpr ⟨⟨hname, hvalue⟩, hfields⟩

namespace Legible

/-- A record with at least one field shows that it is a record. -/
theorem fields {name : String} {field : String × Dump} {fields : List (String × Dump)} {cut : Bool}
    (hname : isName name) (hfields : LegibleFields (field :: fields)) :
    (Dump.record name (field :: fields) cut).Legible :=
  .record hname (fun field hfield => (hfields field hfield).1)
    (fun field hfield => (hfields field hfield).2) (.inl (List.cons_ne_nil _ _))

theorem map {α : Type} {f : α → Dump} (h : ∀ a, (f a).Legible) (items : List α) :
    (Dump.list (items.map f)).Legible :=
  .list (List.forall_mem_map.mpr fun item _ => h item)

theorem bool (b : Bool) : (Dump.bool b).Legible := by
  cases b with
  | false => exact .word (by decide)
  | true => exact .word (by decide)

theorem nat (n : Nat) : (Dump.nat n).Legible := by
  refine .word (isName_iff.mpr ?_)
  rw [Nat.toString_eq_repr, Nat.toList_repr]
  refine ⟨Nat.toDigits_ne_nil, fun c hc => ?_⟩
  have hdigit := Nat.isDigit_of_mem_toDigits (by decide) (by decide) hc
  simp [isNameChar, Char.isAlphanum, hdigit]

theorem option {α : Type} {f : α → Dump} (h : ∀ a, (f a).Legible) (shown : Option α) :
    (Dump.option (shown.map f)).Legible := by
  cases shown with
  | none => exact .word (by decide)
  | some a => exact .applied (.inr (by decide)) (List.forall_mem_singleton.mpr (h a))

theorem entries {α : Type} {f : α → Dump × Dump} (hkey : ∀ a, (f a).1.Legible)
    (hvalue : ∀ a, (f a).2.Legible) (items : List α) : (Dump.table (items.map f)).Legible :=
  .table (List.forall_mem_map.mpr fun item _ => hkey item)
    (List.forall_mem_map.mpr fun item _ => hvalue item)

theorem stored : Dump.stored.Legible :=
  .record (by decide) (List.forall_mem_nil _) (List.forall_mem_nil _) (.inr rfl)

end Legible

/-! ## What a dump shows -/

theorem applied_quoted_inj {name name' text text' : String}
    (h : applied name [.quoted text] = applied name' [.quoted text']) : text = text' := by
  simp only [applied.injEq, List.cons.injEq, quoted.injEq] at h
  exact h.2.1

theorem record_pair_inj {name name' first first' second second' : String} {a a' b b' : Dump}
    {cut cut' : Bool} (h : record name [(first, a), (second, b)] cut =
      record name' [(first', a'), (second', b')] cut') : a = a' ∧ b = b' := by
  simp only [record.injEq, List.cons.injEq, Prod.mk.injEq] at h
  exact ⟨h.2.1.1.2, h.2.1.2.1.2⟩

theorem quoted_map_inj {α : Type} {f : α → String} {items items' : List α}
    (h : (items.map fun item => quoted (f item)) = items'.map fun item => quoted (f item)) :
    items.map f = items'.map f := by
  have hquoted : (items.map f).map quoted = (items'.map f).map quoted := by
    rw [List.map_map, List.map_map]
    exact h
  exact List.map_injective_iff.mpr (fun _ _ => quoted.inj) hquoted

end Dump

open Dump (Legible LegibleFields isName)

variable {E : Type}

/-! ## Declarations -/

theorem Key.legible_dump (key : Key) : key.dump.Legible := by
  have htype : (Dump.applied "TypeId" [.word "_"]).Legible :=
    .applied (.inr (by decide)) (List.forall_mem_singleton.mpr (.word (by decide)))
  exact .fields (by decide) (.cons (by decide) htype <| .cons (by decide) (.quoted _) <|
    .cons (by decide) (.option .quoted _) .nil)

theorem Param.legible_dump (param : Param) : param.dump.Legible := by
  have hkind : isName param.kind.text := by cases param.kind <;> decide
  exact .fields (by decide) (.cons (by decide) (.quoted _) <|
    .cons (by decide) param.key.legible_dump <| .cons (by decide) (.word hkind) .nil)

theorem Declaration.legible_dump (d : Declaration) : d.dump.Legible := by
  have hvisibility : isName d.visibility.text := by cases d.visibility <;> decide
  exact .fields (by decide) (.cons (by decide) (.quoted _) <|
    .cons (by decide) (.word hvisibility) <| .cons (by decide) (.map Param.legible_dump _) .nil)

theorem Constructor.legible_dump (constructor : Constructor E) : constructor.dump.Legible :=
  .fields (by decide) (.cons (by decide) constructor.toDeclaration.legible_dump .nil)

theorem Signature.legible_dump (signature : Signature) : signature.dump.Legible :=
  .applied (.inr (by decide)) (List.forall_mem_singleton.mpr (.map Key.legible_dump _))

theorem Arguments.legible_dump (args : Arguments) : args.dump.Legible := by
  have hvalue (value : Stored) : (Dump.applied "" [(Key.of value.type).dump, .stored]).Legible :=
    .applied (.inl rfl) (List.forall_mem_cons.mpr ⟨Key.legible_dump _,
      List.forall_mem_singleton.mpr .stored⟩)
  exact .fields (by decide) (.cons (by decide) (.map hvalue _) .nil)

/-! ## The state of a fixture -/

theorem Mock.legible_dump (mock : Mock) (mockType : TypeId) : (mock.dump mockType).Legible :=
  .fields (by decide) (.cons (by decide) mock.key.legible_dump <| .cons (by decide) (.quoted _) .nil)

theorem Alias.legible_dump (a : Alias) : a.dump.Legible :=
  .fields (by decide) (.cons (by decide) a.key.legible_dump .nil)

theorem Entry.legible_dump (entry : Entry) : entry.dump.Legible := by
  have horigin : isName entry.origin.text := by cases entry.origin <;> decide
  exact .fields (by decide) (.cons (by decide) entry.key.legible_dump <|
    .cons (by decide) (.word horigin) <| .cons (by decide) .stored <|
    .cons (by decide) (.option (fun _ => .stored) _) <|
    .cons (by decide) (.map Alias.legible_dump _) .nil)

theorem Registry.legible_dump (r : Registry) : r.dump.Legible :=
  .fields (by decide) (.cons (by decide) (.map Entry.legible_dump _) <|
    .cons (by decide) (.entries (fun entry => entry.1.legible_dump) (fun entry => .nat entry.2) _) .nil)

theorem Injection.legible_dump (injection : Injection) : injection.dump.Legible := by
  have hsource : isName injection.source.text := by cases injection.source <;> decide
  exact .fields (by decide) (.cons (by decide) (.quoted _) <|
    .cons (by decide) injection.key.legible_dump <| .cons (by decide) (.word hsource) <|
    .cons (by decide) .stored .nil)

theorem Construction.legible_dump (construction : Construction) : construction.dump.Legible :=
  .fields (by decide) (.cons (by decide) construction.constructor.legible_dump <|
    .cons (by decide) (.map Injection.legible_dump _) .nil)

theorem History.legible_dump (h : History) : h.dump.Legible :=
  .fields (by decide) (.cons (by decide) (.entries (fun entry => entry.1.legible_dump)
    (fun entry => .map Construction.legible_dump entry.2) _) .nil)

theorem Recipe.legible_dump (recipe : Recipe) : recipe.dump.Legible := by
  have hlifetime : isName recipe.lifetime.text := by cases recipe.lifetime <;> decide
  exact .fields (by decide) (.cons (by decide) recipe.target.legible_dump <|
    .cons (by decide) (.bool _) <| .cons (by decide) (.option (fun _ => .nat _) _) <|
    .cons (by decide) (.word hlifetime) <| .cons (by decide) (.bool _) .nil)

theorem Options.legible_dump (o : Options) : o.dump.Legible :=
  .fields (by decide) (.cons (by decide) (.bool _) <| .cons (by decide) (.bool _) .nil)

theorem Fixture.legible_dump (f : Fixture) : f.dump.Legible := by
  have hstage : isName f.stage.text := by cases f.stage <;> decide
  exact .fields (by decide) (.cons (by decide) f.options.legible_dump <|
    .cons (by decide) f.registry.legible_dump <|
    .cons (by decide) (.entries (fun entry => entry.1.legible_dump)
      (fun entry => entry.2.legible_dump) _) <|
    .cons (by decide) f.history.legible_dump <| .cons (by decide) (.word hstage) <|
    .cons (by decide) (.map Key.legible_dump _) .nil)

/-- **Whatever a scenario asks to be dumped is legible.** -/
theorem Scenario.Session.legible_dump (catalog : Catalog Bench) (s : Session) (subject : Subject) :
    ∀ d ∈ s.dump catalog subject, d.Legible := by
  intro d hd
  cases subject with
  | recipe type =>
    obtain ⟨recipe, -, rfl⟩ := Option.map_eq_some_iff.mp hd
    exact recipe.legible_dump
  | constructors type =>
    obtain rfl := Option.some.inj hd
    exact .map Constructor.legible_dump _
  | mock slot =>
    unfold Session.dump at hd
    dsimp only at hd
    split at hd
    next mock _ =>
      obtain rfl := Option.some.inj hd
      exact mock.legible_dump _
    next => cases hd
  | history =>
    obtain rfl := Option.some.inj hd
    exact s.fixture.history.legible_dump
  | fixture =>
    obtain rfl := Option.some.inj hd
    exact s.fixture.legible_dump
  | registry shelf =>
    obtain rfl := Option.some.inj hd
    exact (s.registryOn shelf).legible_dump
  | signature signature =>
    obtain rfl := Option.some.inj hd
    exact signature.legible_dump

/-! ## Errors -/

namespace Error

theorem isName_kind (e : Error) : isName e.kind := by
  cases e <;> (rw [kind]; decide)

theorem legible_dump (e : Error) : e.dump.Legible := by
  have hkind := e.isName_kind
  have hreason (reason : String) : (Dump.applied e.kind [.quoted reason]).Legible :=
    .applied (.inr hkind) (List.forall_mem_singleton.mpr (.quoted reason))
  have hconstruction (target reason : String) :
      (Dump.record e.kind [("type_name", .quoted target), ("reason", .quoted reason)] false).Legible :=
    .fields hkind (.cons (by decide) (.quoted target) <| .cons (by decide) (.quoted reason) .nil)
  cases e with
  | invalidArgument reason => exact hreason reason.text
  | ambiguousConstructor target reason => exact hconstruction target.path reason.text
  | noResolvableConstructor target blocked =>
    exact .fields hkind (.cons (by decide) (.quoted _) <|
      .cons (by decide) (.map (fun obstacle => .quoted obstacle.text) blocked) .nil)
  | unresolvableParameter target parameter key =>
    exact .fields hkind (.cons (by decide) (.quoted _) <| .cons (by decide) (.quoted _) <|
      .cons (by decide) (.quoted _) .nil)
  | notFound key => exact hreason key.text
  | circularDependency chain => exact hreason chain.text
  | constructionFailed target reason => exact hconstruction target.path reason.text

/-- **Errors are the same for a test if their dumps are**: nothing of a dump is lost in its text. -/
theorem sameAs_iff {e other : Error} : e.sameAs other = true ↔ e.dump = other.dump := by
  unfold sameAs
  rw [decide_eq_true_eq]
  exact ⟨e.legible_dump.text_inj other.legible_dump, congrArg Dump.text⟩

theorem lead_dump (e : Error) : e.dump.lead = e.kind := by
  cases e <;> rfl

/-- **Errors that are the same for a test** have the same kind and the same message. -/
theorem message_eq_of_sameAs {e other : Error} (h : e.sameAs other = true) :
    e.kind = other.kind ∧ e.message = other.message := by
  have hdump := sameAs_iff.mp h
  have hkind : e.kind = other.kind := by rw [← lead_dump, hdump, lead_dump]
  refine ⟨hkind, ?_⟩
  -- Each message is put together from what the dump quotes.
  cases e with
  | invalidArgument reason =>
    cases other with
    | invalidArgument reason' => exact congrArg (_ ++ ·) (Dump.applied_quoted_inj hdump)
    | _ => simp [kind] at hkind
  | ambiguousConstructor target reason =>
    cases other with
    | ambiguousConstructor target' reason' =>
      obtain ⟨htarget, hreason⟩ := Dump.record_pair_inj hdump
      exact congrArg₂ (_ ++ · ++ _ ++ ·) (Dump.quoted.inj htarget) (Dump.quoted.inj hreason)
    | _ => simp [kind] at hkind
  | noResolvableConstructor target blocked =>
    cases other with
    | noResolvableConstructor target' blocked' =>
      obtain ⟨htarget, hblocked⟩ := Dump.record_pair_inj hdump
      have htexts := Dump.quoted_map_inj (Dump.list.inj hblocked)
      exact congrArg₂ (_ ++ · ++ _ ++ "; ".intercalate ·) (Dump.quoted.inj htarget) htexts
    | _ => simp [kind] at hkind
  | unresolvableParameter target parameter key =>
    cases other with
    | unresolvableParameter target' parameter' key' =>
      simp only [dump, Dump.record.injEq, List.cons.injEq, Prod.mk.injEq, Dump.quoted.injEq] at hdump
      obtain ⟨-, ⟨⟨-, htarget⟩, ⟨-, hparameter⟩, ⟨-, hkey⟩, -⟩, -⟩ := hdump
      have hleft := congrArg₂ ("Unresolvable parameter '" ++ · ++ "' of type " ++ ·) hparameter hkey
      exact congrArg₂ (· ++ " in " ++ ·) hleft htarget
    | _ => simp [kind] at hkind
  | notFound key =>
    cases other with
    | notFound key' => exact congrArg (_ ++ ·) (Dump.applied_quoted_inj hdump)
    | _ => simp [kind] at hkind
  | circularDependency chain =>
    cases other with
    | circularDependency chain' => exact congrArg (_ ++ ·) (Dump.applied_quoted_inj hdump)
    | _ => simp [kind] at hkind
  | constructionFailed target reason =>
    cases other with
    | constructionFailed target' reason' =>
      obtain ⟨htarget, hreason⟩ := Dump.record_pair_inj hdump
      exact congrArg₂ (_ ++ · ++ _ ++ ·) (Dump.quoted.inj htarget) (Dump.quoted.inj hreason)
    | _ => simp [kind] at hkind

end Error

end TestDoubles
