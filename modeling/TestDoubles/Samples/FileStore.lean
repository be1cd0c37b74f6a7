import TestDoubles.Table

/-!
# An in-memory file system

The double for a file system: a table from paths to contents. Paths are plain texts and compared as
such.
-/

namespace TestDoubles.Samples

/-- Files by path. -/
structure FileStore where
  /-- The contents, by path. -/
  files : Table String String := {}
deriving Inhabited

namespace FileStore

/-- No files. -/
def empty : FileStore := {}

/-- Whether there is a file at the path. -/
def exists? (store : FileStore) (path : String) : Bool :=
  store.files.contains path

/-- The content of the file at the path. -/
def read? (store : FileStore) (path : String) : Option String :=
  store.files.find? path

/-- Write a file, whether or not there is one already. -/
def write (store : FileStore) (path content : String) : FileStore :=
  ⟨store.files.insert path content⟩

/-- The number of files. -/
def count (store : FileStore) : Nat :=
  store.files.size

/-- What reading a file that is not there comes to. -/
def notFoundText : String :=
  "File not found"

end FileStore

end TestDoubles.Samples
