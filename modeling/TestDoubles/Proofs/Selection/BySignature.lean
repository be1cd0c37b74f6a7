import Mathlib.Data.List.Nodup
import TestDoubles.Proofs.Run.Reachable

/-!
# The only constructor with the given parameter types

A signature is compared with the types of the parameters, and with nothing else: neither the names of
doubles nor the kinds of the parameters, what is registered or what was passed have a say. Either exactly
one candidate has these types, and then it is selected, or the type cannot be built with this signature,
and nothing has happened.

- `Signature.Fits` compares lists of types, and `Signature.accepts_iff` says that this is what is checked.
- `Fixture.OnlyFit` and `Fixture.Undecided` describe the two outcomes.
- `World.exact_selection`: there are no others, and a declared constructor is found by its own signature
  unless another one looks the same.
-/

namespace TestDoubles

/-- The types of the parameters, in order. -/
def Declaration.paramTypes (d : Declaration) : List TypeId :=
  d.params.map fun param => param.key.type

/-- The constructor has exactly the types of the signature, in order and count. -/
def Signature.Fits (s : Signature) (d : Declaration) : Prop :=
  s.types.map Key.type = d.paramTypes

instance (s : Signature) (d : Declaration) : Decidable (s.Fits d) :=
  inferInstanceAs (Decidable (s.types.map Key.type = d.paramTypes))

namespace Signature

/-- Comparing pairwise up to the shorter length, and then the lengths, is comparing the lists; by
induction on the expected types. -/
theorem accepts_iff {s : Signature} {d : Declaration} : s.accepts d.params = true ↔ s.Fits d := by
  obtain ⟨types⟩ := s
  unfold accepts Fits Declaration.paramTypes
  generalize d.params = params
  induction types generalizing params with
  | nil => cases params <;> simp
  | cons expected types ih =>
    cases params with
    | nil => simp
    | cons param params =>
      rw [List.map_cons, List.map_cons, List.cons_eq_cons, ← ih params]
      simp only [List.length_cons, List.zip_cons_cons, List.all_cons, Nat.add_right_cancel_iff,
        Bool.and_eq_true, decide_eq_true_eq]
      exact and_left_comm

/-- A constructor has the types of its own signature; another one has them if the types are the same. -/
theorem fits_signature_iff {d other : Declaration} :
    d.signature.Fits other ↔ other.paramTypes = d.paramTypes := by
  simp [Fits, Declaration.signature, Declaration.paramTypes, eq_comm, Function.comp_def]

end Signature

namespace Fixture

variable {E : Type}

/-- The candidate at this position fits the signature, and it is the only one that does. -/
structure OnlyFit (signature : Signature) (candidates : List (Constructor E))
    (constructor : Constructor E) (position : Nat) : Prop where
  candidate : candidates[position]? = some constructor
  fits : signature.Fits constructor.toDeclaration
  unique {j : Nat} {other : Constructor E} : candidates[j]? = some other →
    signature.Fits other.toDeclaration → j = position

/-- How many candidates fit the signature. -/
def fitting (signature : Signature) (candidates : List (Constructor E)) : Nat :=
  candidates.countP fun c => signature.Fits c.toDeclaration

/-- Why a signature pins no candidate down, and how that is put into words. -/
inductive Undecided (signature : Signature) (candidates : List (Constructor E)) :
    Ambiguity → String → Prop where
  | none (h : ∀ candidate ∈ candidates, ¬signature.Fits candidate.toDeclaration) :
    Undecided signature candidates (.noneMatches signature)
      ("no constructor matches " ++ signature.text)
  | several {count : Nat} (hcount : fitting signature candidates = count) (h : 2 ≤ count) :
    Undecided signature candidates (.severalMatch count signature)
      (toString count ++ " constructors match " ++ signature.text)

section

variable {signature : Signature} {candidates : List (Constructor E)}

/-- The candidates that fit, each with its position. -/
private def fits (signature : Signature) (candidates : List (Constructor E)) :
    List (Constructor E × Nat) :=
  candidates.zipIdx.filter fun c => signature.accepts c.1.params

private theorem mem_fits_iff {constructor : Constructor E} {position : Nat} :
    (constructor, position) ∈ fits signature candidates ↔
      candidates[position]? = some constructor ∧ signature.Fits constructor.toDeclaration := by
  rw [fits, List.mem_filter, List.mem_zipIdx_iff_getElem?, Signature.accepts_iff]

private theorem nodup_fits : (fits signature candidates).Nodup := by
  apply List.Nodup.filter
  apply List.Nodup.of_map Prod.snd
  rw [List.zipIdx_map_snd]
  exact List.nodup_range'

private theorem length_fits : (fits signature candidates).length = fitting signature candidates := by
  have hfirst : fitting signature candidates =
      (candidates.zipIdx.map Prod.fst).countP fun c => signature.Fits c.toDeclaration := by
    rw [List.zipIdx_map_fst, fitting]
  rw [hfirst, List.countP_map, fits, ← List.countP_eq_length_filter]
  refine List.countP_congr fun c _ => ?_
  rw [Signature.accepts_iff, Function.comp_apply, decide_eq_true_eq]

/-- Only one candidate fits: it is listed, and nothing else is. -/
private theorem fits_eq_singleton_iff {constructor : Constructor E} {position : Nat} :
    fits signature candidates = [(constructor, position)] ↔
      OnlyFit signature candidates constructor position := by
  constructor
  · intro h
    obtain ⟨hcandidate, hfits⟩ := mem_fits_iff.mp (h ▸ List.mem_singleton_self _)
    refine ⟨hcandidate, hfits, fun {j other} hother hfit => ?_⟩
    have hmem : (other, j) ∈ fits signature candidates := mem_fits_iff.mpr ⟨hother, hfit⟩
    rw [h, List.mem_singleton, Prod.mk.injEq] at hmem
    exact hmem.2
  · rintro ⟨hcandidate, hfits, hunique⟩
    have hmem : (constructor, position) ∈ fits signature candidates :=
      mem_fits_iff.mpr ⟨hcandidate, hfits⟩
    have hall : ∀ c ∈ fits signature candidates, c = (constructor, position) := by
      rintro ⟨other, j⟩ hother
      obtain ⟨hother, hfit⟩ := mem_fits_iff.mp hother
      obtain rfl := hunique hother hfit
      rw [Option.some.inj (hother.symm.trans hcandidate)]
    have hone : (fits signature candidates).length ≤ 1 := by
      rw [← List.nodup_replicate (a := (constructor, position)), ← List.eq_replicate_of_mem hall]
      exact nodup_fits
    have hpos := List.length_pos_of_mem hmem
    rw [List.eq_replicate_of_mem hall,
      show (fits signature candidates).length = 1 by omega, List.replicate_one]

/-- **Selection by signature succeeds** exactly with the only candidate that fits. -/
theorem selectExact_eq_ok_iff {target : TypeId} {constructor : Constructor E} {position : Nat} :
    selectExact target candidates signature = .ok (constructor, position) ↔
      OnlyFit signature candidates constructor position := by
  rw [← fits_eq_singleton_iff]
  rcases hfits : fits signature candidates with _ | ⟨first, _ | ⟨second, rest⟩⟩ <;>
    simp [selectExact, ← fits.eq_def, hfits]

theorem fitting_eq_zero_iff :
    fitting signature candidates = 0 ↔
      ∀ candidate ∈ candidates, ¬signature.Fits candidate.toDeclaration := by
  simp [fitting]

/-- **Selection by signature fails** because no candidate fits, or because this many do. -/
theorem selectExact_eq_error_iff {target : TypeId} {e : Error} :
    selectExact target candidates signature = .error e ↔
      ∃ reason words, Undecided signature candidates reason words ∧
        e = .ambiguousConstructor target reason := by
  have hlength : (fits signature candidates).length = fitting signature candidates := length_fits
  constructor
  · intro herror
    rcases hfits : fits signature candidates with _ | ⟨first, _ | ⟨second, rest⟩⟩ <;>
      simp only [selectExact, ← fits.eq_def, hfits] at herror
    · rw [hfits] at hlength
      exact ⟨_, _, .none (fitting_eq_zero_iff.mp hlength.symm), (Except.error.inj herror).symm⟩
    · cases herror
    · rw [hfits] at hlength
      exact ⟨_, _, .several hlength.symm (by simp), (Except.error.inj herror).symm⟩
  · rintro ⟨_, _, hnone | ⟨rfl, hseveral⟩, rfl⟩
    · rw [fitting_eq_zero_iff.mpr hnone, List.length_eq_zero_iff] at hlength
      simp only [selectExact, ← fits.eq_def, hlength]
    · rw [← hlength] at hseveral ⊢
      rcases hfits : fits signature candidates with _ | ⟨first, _ | ⟨second, rest⟩⟩
      · simp [hfits] at hseveral
      · simp [hfits] at hseveral
      · simp only [selectExact, ← fits.eq_def, hfits]

/-- What only one candidate fits with its own signature: no other has the same parameter types. -/
theorem onlyFit_signature_iff {constructor : Constructor E} {position : Nat}
    (hcandidate : candidates[position]? = some constructor) :
    OnlyFit constructor.signature candidates constructor position ↔
      ∀ (j : Nat) (other : Constructor E), candidates[j]? = some other →
        other.paramTypes = constructor.paramTypes → j = position := by
  constructor
  · intro honly j other hother htypes
    exact honly.unique hother (Signature.fits_signature_iff.mpr htypes)
  · intro hunique
    exact ⟨hcandidate, Signature.fits_signature_iff.mpr rfl, fun hother hfits =>
      hunique _ _ hother (Signature.fits_signature_iff.mp hfits)⟩

end

end Fixture

namespace World

variable {E : Type}

section

variable {catalog : Catalog E} {run : Runner E} {w : World E} {target : TypeId}
  {signature : Signature} {explicit : Arguments}

/-- A signature that pins no constructor down is refused before anything has happened. -/
theorem resolve_of_undecided {reason : Ambiguity} {words : String}
    (h : Fixture.Undecided signature (w.fixture.visible (catalog.constructors target)) reason words) :
    w.resolve catalog run target (some signature) explicit =
      (.error (.ambiguousConstructor target reason), w) := by
  have hselect : Fixture.selectExact target (w.fixture.visible (catalog.constructors target))
      signature = .error (.ambiguousConstructor target reason) :=
    Fixture.selectExact_eq_error_iff.mpr ⟨reason, words, h, rfl⟩
  simp only [resolve, Fixture.select, hselect, emit, List.append_nil]

/-- What is built with a signature is built with the only constructor that fits it. -/
theorem onlyFit_of_resolve {construction : Construction} {datum : Datum} {after : World E}
    (h : w.resolve catalog run target (some signature) explicit = (.ok (construction, datum), after)) :
    ∃ constructor position,
      Fixture.OnlyFit signature (w.fixture.visible (catalog.constructors target)) constructor
        position ∧
      construction.constructor = constructor.toDeclaration := by
  have hbuilt := built catalog run target (some signature) explicit w
  rw [h] at hbuilt
  cases hbuilt with
  | built hselect _ _ =>
    exact ⟨_, _, Fixture.selectExact_eq_ok_iff.mp (Prod.mk.inj hselect).1, rfl⟩

end

/-- **Selection by signature is exact.** For all candidates and every signature, the only candidate that
fits is selected, at its position; without one the signature is refused, in words that count those that
fit, and the world stays as it is. A candidate fits its own signature, and is selected by it unless another
candidate has the same parameter types. -/
theorem exact_selection (target : TypeId) (candidates : List (Constructor E))
    (signature : Signature) :
    (∀ constructor position,
      Fixture.selectExact target candidates signature = .ok (constructor, position) ↔
        Fixture.OnlyFit signature candidates constructor position) ∧
    (∀ e, Fixture.selectExact target candidates signature = .error e ↔
      ∃ reason words, Fixture.Undecided signature candidates reason words ∧
        e = .ambiguousConstructor target reason ∧
        e.message = "Ambiguous constructor for " ++ target.path ++ ": " ++ words) ∧
    (∀ (catalog : Catalog E) (run : Runner E) (w : World E) (explicit : Arguments),
      w.fixture.visible (catalog.constructors target) = candidates →
        (∀ reason words, Fixture.Undecided signature candidates reason words →
          w.resolve catalog run target (some signature) explicit =
            (.error (.ambiguousConstructor target reason), w)) ∧
        ∀ construction datum after,
          w.resolve catalog run target (some signature) explicit =
              (.ok (construction, datum), after) →
            ∃ constructor position,
              Fixture.OnlyFit signature candidates constructor position ∧
                construction.constructor = constructor.toDeclaration) ∧
    (∀ (position : Nat) (constructor : Constructor E), candidates[position]? = some constructor →
      constructor.signature.accepts constructor.params = true ∧
      (Fixture.selectExact target candidates constructor.signature = .ok (constructor, position) ↔
        ∀ (j : Nat) (other : Constructor E), candidates[j]? = some other →
          other.paramTypes = constructor.paramTypes → j = position)) := by
  refine ⟨fun constructor position => Fixture.selectExact_eq_ok_iff, fun e => ?_,
    fun catalog run w explicit hvisible => ?_, fun position constructor hcandidate => ?_⟩
  · rw [Fixture.selectExact_eq_error_iff]
    constructor
    · rintro ⟨reason, words, hundecided, rfl⟩
      refine ⟨reason, words, hundecided, rfl, ?_⟩
      cases hundecided <;> rfl
    · rintro ⟨reason, words, hundecided, rfl, -⟩
      exact ⟨reason, words, hundecided, rfl⟩
  · subst hvisible
    exact ⟨fun reason words => resolve_of_undecided, fun construction datum after => onlyFit_of_resolve⟩
  · rw [Fixture.selectExact_eq_ok_iff]
    exact ⟨Signature.accepts_iff.mpr (Signature.fits_signature_iff.mpr rfl),
      Fixture.onlyFit_signature_iff hcandidate⟩

/-- Two constructors want a clock, one of them by name: the signature of either fits both. A hidden one in
front does not count, so the third that is declared is the second candidate. -/
theorem exact_selection_named :
    let make (name : String) (visibility : Visibility) (params : List Param) : Constructor Unit :=
      .ofFunction { name := name, visibility := visibility, params := params } fun _ => .ok .null
    let named := make "named" .isPublic [.capability "clock" ⟨"Clock"⟩ (some "main")]
    let hidden := make "hidden" .nonPublic [.value "n" ⟨"u32"⟩]
    let number := make "number" .isPublic [.value "n" ⟨"u32"⟩]
    let plain := make "plain" .isPublic [.capability "clock" ⟨"Clock"⟩]
    let catalog : Catalog Unit := ⟨id, fun _ => .null, fun _ => [named, hidden, number, plain]⟩
    let run : Runner Unit := idle
    let w : World Unit := { fixture := .new { nonPublicConstructors := false }, surroundings := () }
    let visible := w.fixture.visible (catalog.constructors ⟨"Timer"⟩)
    visible = [named, number, plain] ∧
      Fixture.OnlyFit number.signature visible number 1 ∧
      w.resolve catalog run ⟨"Timer"⟩ (some named.signature) {} =
        (.error (.ambiguousConstructor ⟨"Timer"⟩ (.severalMatch 2 named.signature)), w) ∧
      w.resolve catalog run ⟨"Timer"⟩ (some {}) {} =
        (.error (.ambiguousConstructor ⟨"Timer"⟩ (.noneMatches {})), w) := by
  intro make named hidden number plain catalog run w visible
  have hvisible : visible = [named, number, plain] := rfl
  obtain ⟨hchosen, -, -, -⟩ := exact_selection ⟨"Timer"⟩ visible number.signature
  obtain ⟨-, -, hclock, -⟩ := exact_selection ⟨"Timer"⟩ visible named.signature
  obtain ⟨-, -, hempty, -⟩ := exact_selection ⟨"Timer"⟩ visible {}
  refine ⟨hvisible, (hchosen number 1).mp rfl, ?_, ?_⟩
  · exact (hclock catalog run w {} rfl).1 _ _ (.several rfl (by decide))
  · refine (hempty catalog run w {} rfl).1 _ _ (.none ?_)
    rw [hvisible]
    decide

end World

end TestDoubles
