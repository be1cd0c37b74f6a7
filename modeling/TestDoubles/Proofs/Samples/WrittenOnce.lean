import Mathlib.Algebra.Order.Floor.Div
import TestDoubles.Proofs.Run.Records
import TestDoubles.Samples.BatchWriter

/-!
# Each batch is written once

A writer of batches looks for each file in the same file system into which it writes, and counts what it
writes. That a batch is never taken for one that was written just before it rests on the paths: no two
positions have the same. So the files that were missing are written, each with its rows, and nothing else
happens; and there is nothing left to do when it is done again.

- `BatchWriter.path_inj`: batches at different positions have different paths.
- `BatchWriter.flatten_batches`: batches are consecutive and together all the rows.
- `BatchWriter.WritesMissing` is what has happened after some positions; `WritesMissing.writeBatch` is
  one step, `BatchWriter.writesMissing_foldl` all of them.
- `BatchWriter.written_once` puts everything together.
-/

namespace TestDoubles.Samples

/-! ## Files -/

namespace FileStore

variable {store : FileStore} {path other content : String}

theorem exists?_eq (store : FileStore) (path : String) :
    store.exists? path = (store.read? path).isSome :=
  rfl

theorem exists?_iff : store.exists? path = true ↔ ∃ content, store.read? path = some content :=
  Option.isSome_iff_exists

theorem read?_write (store : FileStore) (path other content : String) :
    (store.write path content).read? other = if path = other then some content else store.read? other :=
  store.files.find?_insert path other content

theorem exists?_write (store : FileStore) (path other content : String) :
    (store.write path content).exists? other = (path = other || store.exists? other) := by
  rw [exists?_eq, read?_write]
  by_cases hpath : path = other <;> simp [hpath, exists?_eq]

/-- A file that was missing is one file more. -/
theorem count_write (h : store.exists? path = false) :
    (store.write path content).count = store.count + 1 := by
  have hcount (store : FileStore) : store.count = store.files.keys.length := by
    simp [count, Table.size, Table.keys]
  have hmissing : path ∉ store.files.keys := by
    rw [← Table.isSome_find?_iff, Bool.not_eq_true]
    exact h
  rw [hcount, hcount, write, Table.keys_insert, if_neg hmissing, List.length_append]
  rfl

end FileStore

namespace BatchWriter

variable {size : Nat} {stem : String} {rows : List String}

/-- **Batches at different positions have different paths**: a position can be read back from its
digits. -/
theorem path_inj {i j : Nat} (h : path stem i = path stem j) : i = j := by
  unfold path at h
  rw [String.append_left_inj, String.append_right_inj] at h
  have hdigits : Nat.toDigits 10 i = Nat.toDigits 10 j := by
    simpa only [Nat.toString_eq_repr, Nat.toList_repr] using congrArg String.toList h
  calc i = Nat.ofDigitChars 10 (Nat.toDigits 10 i) 0 := Nat.ofDigitChars_ten_toDigits.symm
    _ = Nat.ofDigitChars 10 (Nat.toDigits 10 j) 0 := by rw [hdigits]
    _ = j := Nat.ofDigitChars_ten_toDigits

/-! ## Batches -/

/-- The number of batches: one for each `size` rows that are begun; a size of zero counts as one. -/
def batchCount (size : Nat) (rows : List String) : Nat :=
  rows.length ⌈/⌉ max size 1

/-- What belongs into the file at a position: the rows from there up to the next batch, or to the end,
each of them on a line. -/
def fileContent (size : Nat) (rows : List String) (index : Nat) : String :=
  let size := max size 1
  "\n".intercalate ((rows.take (min ((index + 1) * size) rows.length)).drop (index * size))

theorem size_pos (size : Nat) : 0 < max size 1 :=
  Nat.lt_of_lt_of_le Nat.one_pos (Nat.le_max_right size 1)

/-- There is a batch at a position if there are rows left for it. -/
theorem lt_batchCount_iff {index : Nat} :
    index < batchCount size rows ↔ index * max size 1 < rows.length := by
  rw [Nat.mul_comm]
  exact (gc_mul_ceilDiv (size_pos size)).lt_iff_lt

theorem batchCount_mono {again : List String} (h : again.length ≤ rows.length) :
    batchCount size again ≤ batchCount size rows :=
  (gc_mul_ceilDiv (size_pos size)).monotone_l h

/-- The rows of the batch at a position. -/
def batch (size : Nat) (rows : List String) (index : Nat) : List String :=
  (rows.drop (index * max size 1)).take (max size 1)

theorem batches_eq (size : Nat) (rows : List String) :
    batches size rows = (List.range (batchCount size rows)).map (batch size rows) :=
  rfl

theorem zipIdx_batches (size : Nat) (rows : List String) : (batches size rows).zipIdx =
    (List.range (batchCount size rows)).map fun index => (batch size rows index, index) := by
  rw [batches_eq]
  apply List.ext_getElem
  · simp
  · simp

theorem intercalate_batch (size : Nat) (rows : List String) (index : Nat) :
    "\n".intercalate (batch size rows index) = fileContent size rows index := by
  unfold batch fileContent
  dsimp only
  rw [List.drop_take]
  congr 1
  -- Both take everything where the rows end within the batch.
  rw [List.take_eq_take_iff, List.length_drop, Nat.succ_mul]
  omega

theorem batch_ne_nil {index : Nat} (h : index < batchCount size rows) :
    batch size rows index ≠ [] := by
  have hleft := lt_batchCount_iff.mp h
  have hpos := size_pos size
  rw [← List.length_pos_iff, batch, List.length_take, List.length_drop]
  omega

/-- The batches up to a position are the rows up to there. -/
theorem flatten_map_batch (size : Nat) (rows : List String) (n : Nat) :
    ((List.range n).map (batch size rows)).flatten = rows.take (n * max size 1) := by
  induction n with
  | zero => simp
  | succ n ih =>
    rw [List.range_succ, List.map_append, List.flatten_append, ih, Nat.succ_mul, List.take_add]
    simp [batch]

/-- **Together the batches are all the rows.** -/
theorem flatten_batches (size : Nat) (rows : List String) : (batches size rows).flatten = rows := by
  rw [batches_eq, flatten_map_batch]
  apply List.take_of_length_le
  rw [Nat.mul_comm]
  exact (ceilDiv_le_iff_le_mul (size_pos size)).mp (Nat.le_refl _)

/-- Texts that are joined in groups, and then the groups, are joined. -/
theorem intercalate_flatten {sep : String} {groups : List (List String)}
    (h : ∀ group ∈ groups, group ≠ []) :
    sep.intercalate (groups.map sep.intercalate) = sep.intercalate groups.flatten := by
  induction groups with
  | nil => rfl
  | cons group groups ih =>
    obtain ⟨hgroup, hgroups⟩ := List.forall_mem_cons.mp h
    cases groups with
    | nil => simp
    | cons next rest =>
      have hnext : (next :: rest).flatten ≠ [] := by
        have hne := hgroups next List.mem_cons_self
        simp [hne]
      calc sep.intercalate ((group :: next :: rest).map sep.intercalate)
          = sep.intercalate group ++ sep ++
              sep.intercalate ((next :: rest).map sep.intercalate) :=
            String.intercalate_cons_of_ne_nil (by simp)
        _ = sep.intercalate group ++ sep ++ sep.intercalate (next :: rest).flatten := by
            rw [ih hgroups]
        _ = sep.intercalate (group :: next :: rest).flatten :=
            (String.intercalate_append_of_ne_nil hgroup hnext).symm

/-- **Joining the files joins the rows.** -/
theorem intercalate_fileContent (size : Nat) (rows : List String) :
    "\n".intercalate ((List.range (batchCount size rows)).map (fileContent size rows)) =
      "\n".intercalate rows := by
  have hcontents : (List.range (batchCount size rows)).map (fileContent size rows) =
      (batches size rows).map "\n".intercalate := by
    rw [batches_eq, List.map_map]
    exact List.map_congr_left fun index _ => (intercalate_batch size rows index).symm
  rw [hcontents, intercalate_flatten, flatten_batches]
  intro group hgroup
  rw [batches_eq] at hgroup
  obtain ⟨index, hindex, rfl⟩ := List.mem_map.mp hgroup
  exact batch_ne_nil (List.mem_range.mp hindex)

/-! ## Writing -/

/-- Of the files at the positions below `n`, those that were missing have been written, each with its
content, and nothing else has happened. -/
structure WritesMissing (stem : String) (content : Nat → String) (n : Nat) (before : FileStore)
    (written : Nat) (after : FileStore) : Prop where
  written_eq : written = (List.range n).countP fun i => before.exists? (path stem i) = false
  missing {i : Nat} : i < n → before.exists? (path stem i) = false →
    after.read? (path stem i) = some (content i)
  kept {other text : String} : before.read? other = some text → after.read? other = some text
  only {other : String} : after.exists? other = true →
    before.exists? other = true ∨ ∃ i < n, other = path stem i
  count_eq : after.count = before.count + written

namespace WritesMissing

variable {content : Nat → String} {n written : Nat} {before after : FileStore}

theorem refl (stem : String) (content : Nat → String) (before : FileStore) :
    WritesMissing stem content 0 before 0 before where
  written_eq := rfl
  missing h := absurd h (Nat.not_lt_zero _)
  kept h := h
  only h := .inl h
  count_eq := rfl

/-- A file that was there is there still, and a file that was missing has been written. -/
theorem exists?_path (h : WritesMissing stem content n before written after) {i : Nat} (hi : i < n) :
    after.exists? (path stem i) = true := by
  rw [FileStore.exists?_iff]
  cases hbefore : before.exists? (path stem i) with
  | true =>
    obtain ⟨text, htext⟩ := FileStore.exists?_iff.mp hbefore
    exact ⟨text, h.kept htext⟩
  | false => exact ⟨content i, h.missing hi hbefore⟩

/-- A path that has not had its turn is there exactly if it was there: no path so far is the same. -/
theorem exists?_next (h : WritesMissing stem content n before written after) :
    after.exists? (path stem n) = before.exists? (path stem n) := by
  cases hbefore : before.exists? (path stem n) with
  | true =>
    obtain ⟨text, htext⟩ := FileStore.exists?_iff.mp hbefore
    exact FileStore.exists?_iff.mpr ⟨text, h.kept htext⟩
  | false =>
    rw [← Bool.not_eq_true]
    intro hafter
    rcases h.only hafter with hthere | ⟨i, hi, hsame⟩
    · rw [hbefore] at hthere
      cases hthere
    · exact Nat.ne_of_gt hi (path_inj hsame)

/-- The next file was there. -/
theorem skip (h : WritesMissing stem content n before written after)
    (hthere : before.exists? (path stem n) = true) :
    WritesMissing stem content (n + 1) before written after where
  written_eq := by
    rw [List.range_succ, List.countP_append, ← h.written_eq, List.countP_singleton, hthere]
    rfl
  missing {i} hi hmissing := by
    rcases Nat.lt_succ_iff_lt_or_eq.mp hi with hlt | rfl
    · exact h.missing hlt hmissing
    · rw [hthere] at hmissing
      cases hmissing
  kept := h.kept
  only {other} hafter := by
    rcases h.only hafter with hbefore | ⟨i, hi, hpath⟩
    · exact .inl hbefore
    · exact .inr ⟨i, Nat.lt_succ_of_lt hi, hpath⟩
  count_eq := h.count_eq

/-- The next file was missing, and is written. -/
theorem write (h : WritesMissing stem content n before written after)
    (hmissing : before.exists? (path stem n) = false) :
    WritesMissing stem content (n + 1) before (written + 1)
      (after.write (path stem n) (content n)) where
  written_eq := by
    rw [List.range_succ, List.countP_append, ← h.written_eq, List.countP_singleton, hmissing]
    rfl
  missing {i} hi hnone := by
    rw [FileStore.read?_write]
    split
    next hpath => rw [path_inj hpath]
    next hpath =>
      have hne : i ≠ n := fun heq => hpath (congrArg (path stem) heq.symm)
      exact h.missing (Nat.lt_of_le_of_ne (Nat.lt_succ_iff.mp hi) hne) hnone
  kept {other text} htext := by
    have hother : path stem n ≠ other := by
      rintro rfl
      rw [FileStore.exists?_iff.mpr ⟨text, htext⟩] at hmissing
      cases hmissing
    rw [FileStore.read?_write, if_neg hother, h.kept htext]
  only {other} hafter := by
    rw [FileStore.exists?_write, Bool.or_eq_true, decide_eq_true_eq] at hafter
    rcases hafter with rfl | hafter
    · exact .inr ⟨n, Nat.lt_succ_self n, rfl⟩
    · rcases h.only hafter with hbefore | ⟨i, hi, hpath⟩
      · exact .inl hbefore
      · exact .inr ⟨i, Nat.lt_succ_of_lt hi, hpath⟩
  count_eq := by
    -- The batches before have not written this file.
    rw [FileStore.count_write (h.exists?_next.trans hmissing), h.count_eq, Nat.add_assoc]

/-- One batch more. -/
theorem writeBatch (h : WritesMissing stem content n before written after) {rows : List String}
    (hcontent : "\n".intercalate rows = content n) :
    WritesMissing stem content (n + 1) before
      (BatchWriter.writeBatch stem (written, after) (rows, n)).1
      (BatchWriter.writeBatch stem (written, after) (rows, n)).2 := by
  unfold BatchWriter.writeBatch
  dsimp only
  rw [h.exists?_next, hcontent]
  cases hnext : before.exists? (path stem n) with
  | true => exact h.skip hnext
  | false => exact h.write hnext

end WritesMissing

/-- The batches up to a position are written one after the other; by induction on that position. -/
theorem writesMissing_foldl (stem : String) (size : Nat) (rows : List String) (store : FileStore)
    (n : Nat) :
    let progress := ((List.range n).map fun index => (batch size rows index, index)).foldl
      (writeBatch stem) (0, store)
    WritesMissing stem (fileContent size rows) n store progress.1 progress.2 := by
  induction n with
  | zero => exact .refl stem _ store
  | succ n ih =>
    rw [List.range_succ, List.map_append, List.foldl_append]
    exact ih.writeBatch (intercalate_batch size rows n)

/-- Where all files are there, nothing is written. -/
theorem foldl_writeBatch_of_exists {numbered : List (List String × Nat)} {written : Nat}
    {store : FileStore} (h : ∀ batch ∈ numbered, store.exists? (path stem batch.2) = true) :
    numbered.foldl (writeBatch stem) (written, store) = (written, store) := by
  induction numbered with
  | nil => rfl
  | cons first numbered ih =>
    obtain ⟨hfirst, hlater⟩ := List.forall_mem_cons.mp h
    rw [List.foldl_cons, writeBatch, if_pos hfirst, ih hlater]

/-- Writing again, at most as many rows to the same files, changes nothing. -/
theorem write_again (size : Nat) (stem : String) {rows again : List String} {store : FileStore}
    (hthere : ∀ i < batchCount size rows, store.exists? (path stem i) = true)
    (h : again.length ≤ rows.length) : write size stem again store = (0, store) := by
  rw [write, zipIdx_batches]
  apply foldl_writeBatch_of_exists
  intro numbered hnumbered
  obtain ⟨index, hindex, rfl⟩ := List.mem_map.mp hnumbered
  exact hthere index (Nat.lt_of_lt_of_le (List.mem_range.mp hindex) (batchCount_mono h))

/-- **Each missing batch is written once, and nothing else is touched.** For every size, stem and list of
rows, and every content of the file system: the files that were missing are written with their rows, and
counted; the others stay as they are. Writing at most as many rows again under the same stem changes
nothing, and where no file was there the files together are all the rows. -/
theorem written_once (size : Nat) (stem : String) (rows : List String) (store : FileStore) :
    let written := (write size stem rows store).1
    let after := (write size stem rows store).2
    WritesMissing stem (fileContent size rows) (batchCount size rows) store written after ∧
      (∀ again : List String, again.length ≤ rows.length →
        write size stem again after = (0, after)) ∧
      ((∀ i < batchCount size rows, store.exists? (path stem i) = false) →
        ∃ contents : List String,
          (List.range (batchCount size rows)).map (fun i => after.read? (path stem i)) =
            contents.map some ∧
          "\n".intercalate contents = "\n".intercalate rows) := by
  have hwritten := writesMissing_foldl stem size rows store (batchCount size rows)
  rw [← zipIdx_batches] at hwritten
  refine ⟨hwritten, fun again hagain => ?_, fun hnone => ?_⟩
  · exact write_again size stem (fun i hi => hwritten.exists?_path hi) hagain
  · refine ⟨_, ?_, intercalate_fileContent size rows⟩
    rw [List.map_map]
    exact List.map_congr_left fun i hi =>
      hwritten.missing (List.mem_range.mp hi) (hnone i (List.mem_range.mp hi))

/-- Three rows in files of two, of which the first is there: the second one is written. Writing two rows
again changes nothing, and without the old file both files together hold the rows. -/
theorem written_once_skipping :
    let rows := ["a", "b", "c"]
    let after := (write 2 "rows" rows (FileStore.empty.write "rows-0.txt" "old")).2
    let fresh := (write 2 "rows" rows .empty).2
    after.read? "rows-0.txt" = some "old" ∧ after.read? "rows-1.txt" = some "c" ∧
      after.count = 2 ∧ write 2 "rows" ["x", "y"] after = (0, after) ∧
      ∃ contents : List String,
        [fresh.read? "rows-0.txt", fresh.read? "rows-1.txt"] = contents.map some ∧
          "\n".intercalate contents = "a\nb\nc" := by
  intro rows after fresh
  obtain ⟨hwritten, hagain, -⟩ :=
    written_once 2 "rows" rows (FileStore.empty.write "rows-0.txt" "old")
  obtain ⟨-, -, hjoined⟩ := written_once 2 "rows" rows .empty
  have hsecond : after.read? (path "rows" 1) = some (fileContent 2 rows 1) :=
    hwritten.missing (by decide) (by decide)
  have hcount : after.count = 1 + 1 := by
    rw [hwritten.count_eq, hwritten.written_eq]
    decide
  have hpositions : List.range (batchCount 2 rows) = [0, 1] := by decide
  obtain ⟨contents, hcontents, hrows⟩ := hjoined fun _ _ => rfl
  rw [hpositions] at hcontents
  exact ⟨hwritten.kept rfl, hsecond, hcount, hagain ["x", "y"] (by decide), contents, hcontents, hrows⟩

end BatchWriter

end TestDoubles.Samples
