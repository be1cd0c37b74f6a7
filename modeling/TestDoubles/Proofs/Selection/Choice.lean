import Mathlib.Data.List.Induction
import TestDoubles.Selection

/-!
# The constructor that is selected

Whichever way a constructor is selected, it is one of the candidates, and it stands at the position
that is reported with it. Without a signature, what is selected depends on the fixture only through the
parameters that it could fill: of the candidates all of whose parameters could be filled, it is the one
before which no other goes.

- `Fixture.getElem?_of_select`: a selected constructor is a candidate.
- `Fixture.Outranks` is the order among candidates, `Fixture.selectGreedy_eq_ok_iff` says which of them
  is selected.
-/

namespace TestDoubles

namespace Fixture

variable {E : Type}

/-- Of two candidates, one is kept. -/
theorem longer_cases (best : Option (Constructor E × Nat)) (candidate : Constructor E × Nat) :
    longer best candidate = best ∨ longer best candidate = some candidate := by
  unfold longer
  split
  · exact .inr rfl
  · split
    · exact .inr rfl
    · exact .inl rfl

private theorem mem_of_foldl_longer {candidates : List (Constructor E × Nat)}
    {best : Option (Constructor E × Nat)} {choice : Constructor E × Nat}
    (h : candidates.foldl longer best = some choice) : best = some choice ∨ choice ∈ candidates := by
  induction candidates generalizing best with
  | nil => exact .inl h
  | cons candidate rest ih =>
    rcases ih h with hlonger | hmem
    · rcases longer_cases best candidate with hbest | hcandidate
      · exact .inl (hbest ▸ hlonger)
      · have : candidate = choice := Option.some.inj (hcandidate ▸ hlonger)
        exact .inr (this ▸ List.mem_cons_self)
    · exact .inr (List.mem_cons_of_mem _ hmem)

/-- The longest of some candidates is one of them. -/
theorem mem_of_longest {candidates : List (Constructor E × Nat)} {choice : Constructor E × Nat}
    (h : longest candidates = some choice) : choice ∈ candidates := by
  rcases mem_of_foldl_longer h with hnone | hmem
  · cases hnone
  · exact hmem

/-- **A selected constructor is a candidate**, at the position that is reported. -/
theorem getElem?_of_select {f : Fixture} {target : TypeId} {candidates : List (Constructor E)}
    {signature : Option Signature} {explicit : Arguments} {constructor : Constructor E}
    {position : Nat} {events : List Event}
    (h : f.select target candidates signature explicit = (.ok (constructor, position), events)) :
    candidates[position]? = some constructor := by
  have hmem : (constructor, position) ∈ candidates.zipIdx := by
    cases signature with
    | some signature =>
      rw [select, Prod.mk.injEq] at h
      obtain ⟨hexact, -⟩ := h
      unfold selectExact at hexact
      split at hexact
      next choice hfilter =>
        rw [← Except.ok.inj hexact]
        have hmem : choice ∈ candidates.zipIdx.filter fun c => signature.accepts c.1.params := by
          rw [hfilter]
          exact List.mem_singleton_self choice
        exact (List.mem_filter.mp hmem).1
      all_goals exact absurd hexact (by simp)
    | none =>
      rw [select, Prod.mk.injEq] at h
      obtain ⟨hgreedy, -⟩ := h
      unfold selectGreedy at hgreedy
      split at hgreedy
      next choice hlongest =>
        rw [← Except.ok.inj hgreedy]
        exact (List.mem_filter.mp (mem_of_longest hlongest)).1
      · exact absurd hgreedy (by simp)
  simpa [List.mem_zipIdx_iff_getElem?] using hmem

/-- A selected constructor is one that the options admit. -/
theorem mem_visible_of_select {f : Fixture} {target : TypeId} {constructors : List (Constructor E)}
    {signature : Option Signature} {explicit : Arguments} {constructor : Constructor E}
    {position : Nat} {events : List Event}
    (h : f.select target (f.visible constructors) signature explicit =
      (.ok (constructor, position), events)) :
    constructor ∈ f.visible constructors :=
  List.mem_of_getElem? (getElem?_of_select h)

theorem mem_of_visible {f : Fixture} {constructors : List (Constructor E)}
    {constructor : Constructor E} (h : constructor ∈ f.visible constructors) :
    constructor ∈ constructors :=
  (List.mem_filter.mp h).1

/-- A selected constructor is one that its type declares. -/
theorem mem_of_select {f : Fixture} {target : TypeId} {constructors : List (Constructor E)}
    {signature : Option Signature} {explicit : Arguments} {constructor : Constructor E}
    {position : Nat} {events : List Event}
    (h : f.select target (f.visible constructors) signature explicit =
      (.ok (constructor, position), events)) :
    constructor ∈ constructors :=
  mem_of_visible (mem_visible_of_select h)

/-- Of a constructor that is selected without a signature, all parameters could be filled. -/
theorem firstUnfilled_of_select {f : Fixture} {target : TypeId} {candidates : List (Constructor E)}
    {explicit : Arguments} {constructor : Constructor E} {position : Nat} {events : List Event}
    (h : f.select target candidates none explicit = (.ok (constructor, position), events)) :
    f.firstUnfilled explicit constructor.params explicit.noneUsed = none := by
  rw [select, Prod.mk.injEq] at h
  obtain ⟨hgreedy, -⟩ := h
  unfold selectGreedy at hgreedy
  split at hgreedy
  next choice hlongest =>
    have hresolvable := (List.mem_filter.mp (mem_of_longest hlongest)).2
    rw [Except.ok.inj hgreedy] at hresolvable
    exact Option.isNone_iff_eq_none.mp hresolvable
  next => exact absurd hgreedy (by simp)

/-! ## Judging again -/

/-- Constructors are judged by what could be filled, and by nothing else. -/
theorem firstUnfilled_congr {f f' : Fixture} (h : ∀ param, f'.canFill param = f.canFill param)
    (explicit : Arguments) (params : List Param) (used : List Bool) :
    f'.firstUnfilled explicit params used = f.firstUnfilled explicit params used := by
  induction params generalizing used with
  | nil => rfl
  | cons param params ih =>
    unfold firstUnfilled
    simp only [h, ih]

theorem obstacle?_congr {f f' : Fixture} (h : ∀ param, f'.canFill param = f.canFill param)
    (explicit : Arguments) (constructor : Declaration) :
    f'.obstacle? explicit constructor = f.obstacle? explicit constructor :=
  firstUnfilled_congr h explicit _ _

theorem selectGreedy_congr {f f' : Fixture} (h : ∀ param, f'.canFill param = f.canFill param)
    (target : TypeId) (candidates : List (Constructor E)) (explicit : Arguments) :
    f'.selectGreedy target candidates explicit = f.selectGreedy target candidates explicit := by
  simp only [selectGreedy, isResolvable, blocked, obstacle?_congr h]

theorem select_congr {f f' : Fixture} (h : ∀ param, f'.canFill param = f.canFill param)
    (target : TypeId) (candidates : List (Constructor E)) (signature : Option Signature)
    (explicit : Arguments) :
    f'.select target candidates signature explicit = f.select target candidates signature explicit := by
  simp only [select, passedOver, selectGreedy_congr h, obstacle?_congr h]

/-! ## The longest candidate -/

/-- One candidate goes before another: it is longer, or as long and in front. -/
def Outranks (other choice : Constructor E × Nat) : Prop :=
  choice.1.params.length < other.1.params.length ∨
    choice.1.params.length = other.1.params.length ∧ other.2 < choice.2

theorem longest_concat (candidates : List (Constructor E × Nat)) (candidate : Constructor E × Nat) :
    longest (candidates ++ [candidate]) = longer (longest candidates) candidate := by
  simp [longest]

theorem longest_ne_none {candidates : List (Constructor E × Nat)} (h : candidates ≠ []) :
    longest candidates ≠ none := by
  rcases List.eq_nil_or_concat candidates with rfl | ⟨rest, candidate, rfl⟩
  · exact absurd rfl h
  · rw [List.concat_eq_append, longest_concat]
    unfold longer
    split
    · simp
    · split <;> simp

/-- **The longest candidate is the one before which no other goes**; by induction on the candidates,
the last one first. -/
theorem longest_eq_some_iff {candidates : List (Constructor E × Nat)} {choice : Constructor E × Nat}
    (hsorted : candidates.Pairwise fun a b => a.2 < b.2) :
    longest candidates = some choice ↔
      choice ∈ candidates ∧ ∀ other ∈ candidates, ¬Outranks other choice := by
  induction candidates using List.reverseRecOn generalizing choice with
  | nil => simp [longest]
  | append_singleton rest last ih =>
    obtain ⟨hrest, -, hlast⟩ := List.pairwise_append.mp hsorted
    have hfront (other : Constructor E × Nat) (hother : other ∈ rest) : other.2 < last.2 :=
      hlast other hother last List.mem_cons_self
    rw [longest_concat, List.mem_append, List.mem_singleton, List.forall_mem_append]
    simp only [List.mem_singleton, forall_eq]
    cases hbest : longest rest with
    | none =>
      have hnil : rest = [] := Decidable.byContradiction fun hne => longest_ne_none hne hbest
      subst hnil
      simp only [longer, List.not_mem_nil, false_or, Option.some.injEq, IsEmpty.forall_iff,
        implies_true, true_and]
      constructor
      · rintro rfl
        refine ⟨rfl, ?_⟩
        unfold Outranks
        omega
      · rintro ⟨rfl, -⟩
        rfl
    | some best =>
      obtain ⟨hmem, hmax⟩ := (ih hrest).mp hbest
      have hfirst := hfront best hmem
      unfold longer
      by_cases hlonger : best.1.params.length < last.1.params.length
      · simp only [hlonger, if_true, Option.some.injEq]
        constructor
        · rintro rfl
          refine ⟨.inr rfl, fun other hother => ?_, ?_⟩
          · have hbelow := hmax other hother
            unfold Outranks at hbelow ⊢
            omega
          · unfold Outranks
            omega
        · rintro ⟨hchoice | rfl, -, houtranks⟩
          · have hbelow := hmax choice hchoice
            unfold Outranks at hbelow houtranks
            omega
          · rfl
      · simp only [hlonger, if_false, Option.some.injEq]
        constructor
        · rintro rfl
          refine ⟨.inl hmem, hmax, ?_⟩
          unfold Outranks
          omega
        · rintro ⟨hchoice | rfl, hothers, -⟩
          · exact Option.some.inj (hbest.symm.trans ((ih hrest).mpr ⟨hchoice, hothers⟩))
          · have hbelow := hothers best hmem
            unfold Outranks at hbelow
            omega

/-- **Greedy selection**: of the candidates that could be filled, the one before which no other goes. -/
theorem selectGreedy_eq_ok_iff {f : Fixture} {target : TypeId} {candidates : List (Constructor E)}
    {explicit : Arguments} {constructor : Constructor E} {position : Nat} :
    f.selectGreedy target candidates explicit = .ok (constructor, position) ↔
      candidates[position]? = some constructor ∧
        f.isResolvable explicit constructor.toDeclaration = true ∧
        ∀ (j : Nat) (other : Constructor E), candidates[j]? = some other →
          f.isResolvable explicit other.toDeclaration = true →
            ¬Outranks (other, j) (constructor, position) := by
  have hsorted : (candidates.zipIdx.filter fun c =>
      f.isResolvable explicit c.1.toDeclaration).Pairwise fun a b => a.2 < b.2 := by
    apply List.Pairwise.filter
    apply List.pairwise_map.mp
    rw [List.zipIdx_map_snd]
    exact List.pairwise_lt_range'
  have hchosen : f.selectGreedy target candidates explicit = .ok (constructor, position) ↔
      longest (candidates.zipIdx.filter fun c => f.isResolvable explicit c.1.toDeclaration) =
        some (constructor, position) := by
    unfold selectGreedy
    split
    next choice hlongest => rw [hlongest, Except.ok.injEq, Option.some.injEq]
    next hlongest => simp [hlongest]
  rw [hchosen, longest_eq_some_iff hsorted, List.mem_filter, List.mem_zipIdx_iff_getElem?, and_assoc]
  refine and_congr_right fun _ => and_congr_right fun _ => ?_
  constructor
  · intro h j other hother hresolvable
    exact h (other, j) (List.mem_filter.mpr ⟨List.mem_zipIdx_iff_getElem?.mpr hother, hresolvable⟩)
  · rintro h ⟨other, j⟩ hmem
    obtain ⟨hother, hresolvable⟩ := List.mem_filter.mp hmem
    exact h j other (List.mem_zipIdx_iff_getElem?.mp hother) hresolvable

end Fixture

end TestDoubles
