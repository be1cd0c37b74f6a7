import TestDoubles.Samples.FileStore

/-!
# Writing rows in batches

Rows go into numbered files of at most so many rows each. A file that is already there is left alone,
so that writing can be repeated.
-/

namespace TestDoubles.Samples.BatchWriter

/-- Cut rows into batches of at most `size` rows; a size of zero counts as one. -/
def batches (size : Nat) (rows : List String) : List (List String) :=
  let size := max size 1
  (List.range ((rows.length + size - 1) / size)).map fun index =>
    (rows.drop (index * size)).take size

/-- The path of the batch at a position. -/
def path (stem : String) (index : Nat) : String :=
  stem ++ "-" ++ toString index ++ ".txt"

/-- Write one batch, unless its file is there; the count is of files written. -/
def writeBatch (stem : String) (progress : Nat × FileStore) (batch : List String × Nat) :
    Nat × FileStore :=
  let (written, store) := progress
  if store.exists? (path stem batch.2) then
    (written, store)
  else
    (written + 1, store.write (path stem batch.2) ("\n".intercalate batch.1))

/-- Write all rows in batches; how many files were written, and the files afterwards. -/
def write (size : Nat) (stem : String) (rows : List String) (store : FileStore) :
    Nat × FileStore :=
  (batches size rows).zipIdx.foldl (writeBatch stem) (0, store)

end TestDoubles.Samples.BatchWriter
