import TestDoubles.Samples.FileStore
import TestDoubles.Samples.Types

/-!
# What the sample doubles hold and do

The state of a double, how a test seeds it, and the methods it has: those of the capabilities that it
stands in for, and those by which a test configures and inspects it.
-/

namespace TestDoubles.Samples

/-- The state of a double. -/
inductive Double where
  /-- An in-memory file system. -/
  | files (store : FileStore)
  /-- A clock that shows what it was set to, and counts how often it was read. -/
  | clock (now : UInt64) (reads : Nat)
  /-- A logger that keeps every message. -/
  | log (messages : List String)
  /-- A counter of 64 bits. -/
  | counter (count : UInt64)
  /-- A tag of 32 bits. -/
  | tagged (tag : UInt32)
deriving Inhabited

/-- A method of a double. -/
inductive Method where
  | fileContent (path : String)
  | writeFile (path content : String)
  | fileExists (path : String)
  | addFile (path content : String)
  | fileCount
  | now
  /-- Of a clock: what it shows from now on; anything but a 64-bit number counts as zero. -/
  | set (now : Datum)
  | reads
  | log (message : String)
  | entries
  | messages
  | alpha
  | beta
  | gamma
  | count
  | tag
  /-- Of a scheduler: read the clock and log it. -/
  | tick
  /-- Of a writer of batches: write rows to numbered files. -/
  | write (stem : String) (rows : List String)
deriving Inhabited

namespace Double

/-- The text that a datum is; the empty one for anything else. -/
private def textIn : Datum → String
  | .text s => s
  | _ => ""

/-- The text at a position of a list; the empty one if there is none. -/
private def textAt (index : Nat) : Datum → String
  | .list items => textIn (items[index]?.getD .null)
  | _ => ""

/-- The natural number below `bound` that a datum is; zero for anything else. -/
private def natIn (bound : Nat) : Datum → Nat
  | .int n => if 0 ≤ n ∧ n.toNat < bound then n.toNat else 0
  | _ => 0

/-- The 64-bit number that a datum is; zero for anything else. -/
private def wordIn (datum : Datum) : UInt64 :=
  .ofNat (natIn UInt64.size datum)

/-- The files that a seed lists as pairs of path and content. -/
private def filesIn (items : List Datum) : FileStore :=
  items.foldl (fun store item => store.write (textAt 0 item) (textAt 1 item)) .empty

/-- A new double of the type that stands in for `capability`, from a seed that may be missing. -/
def seeded (capability : TypeId) (seed : Datum) : Double :=
  let mock := mockOf capability
  if mock = mockFileSystem then
    match seed with
    | .list items => .files (filesIn items)
    | _ => .files .empty
  else if mock = mockClock then
    .clock (wordIn seed) 0
  else if mock = mockLogger then
    match seed with
    | .list items => .log (items.map textIn)
    | _ => .log []
  else if mock = probe then
    .counter (wordIn seed)
  else
    .tagged (.ofNat (natIn UInt32.size seed))

/-- Count on; the count starts over after the last 64-bit number. -/
def advance (count step : UInt64) : Datum × Double :=
  (.nat (count + step).toNat, .counter (count + step))

/-- What a method answers, and the double afterwards; nothing if the double has no such method. -/
def call : Double → Method → Option (Datum × Double)
  | .files store, .fileContent path =>
    match store.read? path with
    | some content => some (.text content, .files store)
    | none => some (.record [("ioError", .text FileStore.notFoundText)], .files store)
  | .files store, .writeFile path content => some (.null, .files (store.write path content))
  | .files store, .addFile path content => some (.null, .files (store.write path content))
  | .files store, .fileExists path => some (.bool (store.exists? path), .files store)
  | .files store, .fileCount => some (.nat store.count, .files store)
  | .clock now reads, .now => some (.nat now.toNat, .clock now (reads + 1))
  | .clock _ reads, .set now => some (.null, .clock (wordIn now) reads)
  | .clock now reads, .reads => some (.nat reads, .clock now reads)
  | .log messages, .log message => some (.null, .log (messages ++ [message]))
  | .log messages, .entries => some (.texts messages, .log messages)
  | .log messages, .messages => some (.texts messages, .log messages)
  | .counter count, .alpha => some (advance count 1)
  | .counter count, .beta => some (advance count 10)
  | .counter count, .gamma => some (advance count 100)
  | .counter count, .count => some (.nat count.toNat, .counter count)
  | .tagged tag, .tag => some (.nat tag.toNat, .tagged tag)
  | _, _ => none

end Double

end TestDoubles.Samples
