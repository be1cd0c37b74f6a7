import Mathlib.Data.List.Induction
import TestDoubles.History

/-!
# What a history holds

A history keeps its constructions by type. Here it is compared with the plain sequence of calls that
it was made of: which types it lists and in what order, what it holds of each of them, and what later
calls leave of it.

- `Call` is a construction together with the type constructed, `History.recordAll` records calls in
  order.
- `History.Extends` says that nothing recorded is lost or moved.
- `History.keys_recordAll` and `History.constructions_recordAll` give a history from its calls.
-/

namespace TestDoubles

/-- A call of a constructor that built an instance. -/
structure Call where
  /-- The type constructed. -/
  target : TypeId
  /-- What was called, and with what. -/
  construction : Construction
deriving Inhabited

namespace Call

/-- The key that the construction is recorded under. -/
def key (call : Call) : Key :=
  .of call.target

/-- The constructions among `calls` that are recorded under `key`, in order. -/
def under (key : Key) (calls : List Call) : List Construction :=
  (calls.filter fun call => call.key = key).map Call.construction

@[simp] theorem under_nil (key : Key) : under key [] = [] := rfl

theorem under_concat (key : Key) (calls : List Call) (call : Call) :
    under key (calls ++ [call]) =
      if call.key = key then under key calls ++ [call.construction] else under key calls := by
  by_cases h : call.key = key <;> simp [under, h]

theorem under_eq_nil_iff {key : Key} {calls : List Call} :
    under key calls = [] ↔ key ∉ calls.map Call.key := by
  simp [under, List.filter_eq_nil_iff]

end Call

/-! ## Tables in order -/

namespace Table

variable {α β : Type} [DecidableEq α]

private theorem map_put (key : α) (value : β) (entries : List (α × β)) :
    (put key value entries).map Prod.fst =
      if key ∈ entries.map Prod.fst then entries.map Prod.fst
      else entries.map Prod.fst ++ [key] := by
  induction entries with
  | nil => simp [put]
  | cons head rest ih =>
    obtain ⟨k, v⟩ := head
    unfold put
    by_cases hk : k = key
    · simp [hk]
    · rw [if_neg hk, List.map_cons, ih]
      have hne : key ≠ k := fun h => hk h.symm
      by_cases hrest : key ∈ rest.map Prod.fst <;> simp_all

/-- A write adds its key at the end, unless the key is there. -/
theorem keys_insert (t : Table α β) (key : α) (value : β) :
    (t.insert key value).keys = if key ∈ t.keys then t.keys else t.keys ++ [key] :=
  map_put key value t.entries

private theorem isSome_find (key : α) (entries : List (α × β)) :
    (find key entries).isSome ↔ key ∈ entries.map Prod.fst := by
  induction entries with
  | nil => simp [find]
  | cons head rest ih =>
    obtain ⟨k, v⟩ := head
    unfold find
    by_cases hk : k = key
    · simp [hk]
    · rw [if_neg hk, ih, List.map_cons, List.mem_cons]
      exact ⟨.inr, fun h => h.resolve_left fun h => hk h.symm⟩

/-- There is a value under every key, and under nothing else. -/
theorem isSome_find?_iff {t : Table α β} {key : α} : (t.find? key).isSome ↔ key ∈ t.keys :=
  isSome_find key t.entries

end Table

namespace History

/-! ## One construction -/

variable (h : History) (key : Key) (construction : Construction)

/-- The types in the order of their first construction. -/
def keys : List Key :=
  h.records.keys

/-- The constructions under a key; none if there is no such key. -/
def recorded : List Construction :=
  (h.find? key).getD []

@[simp] theorem keys_empty : empty.keys = [] := rfl

@[simp] theorem recorded_empty : empty.recorded key = [] := rfl

@[simp] theorem constructionCount_empty : empty.constructionCount = 0 := rfl

theorem keys_record :
    (h.record key construction).keys = if key ∈ h.keys then h.keys else h.keys ++ [key] :=
  Table.keys_insert h.records key _

theorem find?_record (other : Key) : (h.record key construction).find? other =
    if key = other then some (h.recorded key ++ [construction]) else h.find? other :=
  Table.find?_insert h.records key other _

theorem recorded_record (other : Key) : (h.record key construction).recorded other =
    if key = other then h.recorded key ++ [construction] else h.recorded other := by
  unfold recorded
  rw [find?_record]
  split <;> rfl

/-- A record tells which construction was recorded last. -/
theorem record_inj {key : Key} {construction construction' : Construction}
    (hrecord : h.record key construction = h.record key construction') :
    construction = construction' := by
  have hrecorded := congrArg (fun h : History => h.recorded key) hrecord
  simp only [recorded_record, if_true] at hrecorded
  exact List.singleton_inj.mp (List.append_cancel_left hrecorded)

private theorem length_flatMap_put (records : List (Key × List Construction)) :
    ((Table.put key ((Table.find key records).getD [] ++ [construction]) records).flatMap
      Prod.snd).length = (records.flatMap Prod.snd).length + 1 := by
  induction records with
  | nil => rfl
  | cons head rest ih =>
    obtain ⟨k, v⟩ := head
    unfold Table.put Table.find
    by_cases hk : k = key
    · simp [hk]
      omega
    · simp only [if_neg hk, List.flatMap_cons, List.length_append, ih]
      omega

/-- Recording a construction adds one, wherever it goes. -/
theorem constructionCount_record :
    (h.record key construction).constructionCount = h.constructionCount + 1 :=
  length_flatMap_put key construction h.records.entries

/-! ## What stays -/

/-- Everything in `h` is where it was in `h'`: types and constructions have been added at the end. -/
structure Extends (h h' : History) : Prop where
  keys : h.keys <+: h'.keys
  recorded : ∀ key, h.recorded key <+: h'.recorded key

namespace Extends

variable {h}

theorem refl (h : History) : h.Extends h :=
  ⟨List.prefix_rfl, fun _ => List.prefix_rfl⟩

theorem trans {h' h'' : History} (hfirst : h.Extends h') (hthen : h'.Extends h'') :
    h.Extends h'' :=
  ⟨hfirst.keys.trans hthen.keys, fun key => (hfirst.recorded key).trans (hthen.recorded key)⟩

/-- Recording a construction keeps all others where they are. -/
theorem record (h : History) (key : Key) (construction : Construction) :
    h.Extends (h.record key construction) := by
  constructor
  · rw [keys_record]
    split
    · exact List.prefix_rfl
    · exact List.prefix_append _ _
  · intro other
    rw [recorded_record]
    split
    next heq =>
      rw [heq]
      exact List.prefix_append _ _
    · exact List.prefix_rfl

end Extends

/-! ## All constructions of a run -/

/-- Record calls, one after the other. -/
def recordAll (h : History) (calls : List Call) : History :=
  calls.foldl (fun h call => h.record call.key call.construction) h

@[simp] theorem recordAll_nil : h.recordAll [] = h := rfl

theorem recordAll_append (calls later : List Call) :
    h.recordAll (calls ++ later) = (h.recordAll calls).recordAll later :=
  List.foldl_append

theorem recordAll_concat (calls : List Call) (call : Call) :
    h.recordAll (calls ++ [call]) = (h.recordAll calls).record call.key call.construction :=
  recordAll_append h calls [call]

theorem constructionCount_recordAll (calls : List Call) :
    (h.recordAll calls).constructionCount = h.constructionCount + calls.length := by
  induction calls generalizing h with
  | nil => rfl
  | cons call calls ih =>
    have hrest := ih (h.record call.key call.construction)
    rw [constructionCount_record] at hrest
    rw [List.length_cons, show h.recordAll (call :: calls) =
      (h.record call.key call.construction).recordAll calls from rfl, hrest]
    omega

theorem extends_recordAll (calls : List Call) : h.Extends (h.recordAll calls) := by
  induction calls generalizing h with
  | nil => exact .refl h
  | cons call calls ih => exact (Extends.record h call.key call.construction).trans (ih _)

section FromCalls

variable (calls : List Call)

/-- **The types in a history are those of its calls**, each listed where it first came up. -/
theorem keys_recordAll : (empty.recordAll calls).keys = (calls.map Call.key).eraseDups := by
  induction calls using List.reverseRecOn with
  | nil => rfl
  | append_singleton calls call ih =>
    rw [recordAll_concat, keys_record, ih, List.map_append, List.map_singleton, Key.eraseDups_concat]

/-- No type is listed twice. -/
theorem nodup_keys_recordAll : (empty.recordAll calls).keys.Nodup := by
  induction calls using List.reverseRecOn with
  | nil => exact List.nodup_nil
  | append_singleton calls call ih =>
    rw [recordAll_concat, keys_record]
    split
    · exact ih
    next hnew => exact List.nodup_append.mpr ⟨ih, List.pairwise_singleton _ _, by grind⟩

/-- **Under each type a history holds the calls for it**, in order. -/
theorem recorded_recordAll (key : Key) :
    (empty.recordAll calls).recorded key = Call.under key calls := by
  induction calls using List.reverseRecOn with
  | nil => rfl
  | append_singleton calls call ih =>
    rw [recordAll_concat, recorded_record, Call.under_concat]
    by_cases hkey : call.key = key
    · subst hkey
      rw [if_pos rfl, if_pos rfl, ih]
    · rw [if_neg hkey, if_neg hkey, ih]

/-- Every type that is listed has its calls, at least one; no other type has any. -/
theorem find?_recordAll (key : Key) : (empty.recordAll calls).find? key =
    if Call.under key calls = [] then none else some (Call.under key calls) := by
  have hsome : ((empty.recordAll calls).find? key).isSome ↔ key ∈ calls.map Call.key := by
    refine Table.isSome_find?_iff.trans ?_
    rw [show (empty.recordAll calls).records.keys = (empty.recordAll calls).keys from rfl,
      keys_recordAll, List.mem_eraseDups]
  have hrecorded := recorded_recordAll calls key
  unfold recorded at hrecorded
  split
  next hnil =>
    rw [Call.under_eq_nil_iff, ← hsome] at hnil
    exact Option.not_isSome_iff_eq_none.mp hnil
  next hsome' =>
    rw [Call.under_eq_nil_iff, Classical.not_not, ← hsome] at hsome'
    obtain ⟨records, hrecords⟩ := Option.isSome_iff_exists.mp hsome'
    rw [hrecords] at hrecorded ⊢
    exact congrArg some hrecorded

end FromCalls

end History

end TestDoubles
