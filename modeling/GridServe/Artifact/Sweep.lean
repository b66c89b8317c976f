import GridServe.Startup.Files
import GridServe.Text.Utf8

/-!
Removing images left behind by an earlier run. The image directory is created if it is
missing; then every regular file whose name is valid UTF-8, starts with the image prefix and
ends with `.png` or `.png.partial` is removed. Directories and other names stay.

The entries are visited in the order the directory lists them. Reading an entry, asking its type
and removing it may each fail; the first failure ends the sweep with that error, and what was
removed before it stays removed.
-/

namespace GridServe

structure DirEntry where
  name : List UInt8
  isFile : Bool
  deriving Repr, DecidableEq

namespace Sweep

def isArtifact (name pfx : String) : Bool :=
  name.startsWith pfx && (name.endsWith ".png" || name.endsWith ".png.partial")

def removes (pfx : String) (e : DirEntry) : Bool :=
  e.isFile && match Utf8.decode? e.name with
    | some name => isArtifact name pfx
    | none => false

def entries (pfx : String) (es : List DirEntry) : Nat × List DirEntry :=
  ((es.filter (removes pfx)).length, es.filter fun e => !removes pfx e)

/-- How the file system answers the calls the sweep makes about one entry, `none` where the call
succeeds: reading the entry from the listing, asking its type, removing it. -/
structure Faults where
  read : Option IoError := none
  fileType : Option IoError := none
  remove : Option IoError := none
  deriving Repr, DecidableEq

structure Listed where
  entry : DirEntry
  faults : Faults := {}
  deriving Repr, DecidableEq

def Listed.quiet (e : DirEntry) : Listed := ⟨e, {}⟩

/-- Look at one listed entry: whether it is removed, or the error that ends the sweep. A name
that is not text is passed over; the type of any other entry is asked before its name is
matched. -/
def visit (pfx : String) (l : Listed) : Except IoError Bool :=
  match l.faults.read with
  | some e => .error e
  | none =>
    match Utf8.decode? l.entry.name with
    | none => .ok false
    | some name =>
      match l.faults.fileType with
      | some e => .error e
      | none =>
        if l.entry.isFile && isArtifact name pfx then
          match l.faults.remove with
          | some e => .error e
          | none => .ok true
        else .ok false

/-- Sweep a listing in order: the number of entries removed or the first error, and the entries
the directory holds afterwards. -/
def loop (pfx : String) : List Listed → Except IoError Nat × List DirEntry
  | [] => (.ok 0, [])
  | l :: rest =>
    match visit pfx l with
    | .error e => (.error e, l.entry :: rest.map (·.entry))
    | .ok removed =>
      let (result, left) := loop pfx rest
      (result.map (· + if removed then 1 else 0), if removed then left else l.entry :: left)

inductive Target where
  | missing
  | file
  | directory (entries : List DirEntry)
  deriving Repr

/-- Sweep a directory given by its entries: the number removed and the entries that stay. A
missing directory is created empty; a file in its place cannot become a directory. -/
def run (target : Target) (pfx : String) : Except IoError (Nat × List DirEntry) :=
  match target with
  | .missing => .ok (0, [])
  | .file => .error IoError.fileExists
  | .directory es =>
    let (result, left) := loop pfx (es.map Listed.quiet)
    result.map (·, left)

def entryOf (name : String) (n : Node) : DirEntry :=
  ⟨Utf8.encode name, match n with
    | .file _ => true
    | .directory => false⟩

/-- Sweep a directory of the tree: create it, sweep its listing as `run` does, and take out of
the tree every entry the sweep does not keep. -/
def tree (t : FileTree) (dir pfx : String) : Except IoError (Nat × FileTree) := do
  let t ← t.createDirAll dir
  let (place, found) ← t.readDir dir
  let (removed, kept) ← run (.directory (found.map fun (name, n) => entryOf name n)) pfx
  let gone := found.filter fun (name, n) => entryOf name n ∉ kept
  pure (removed, gone.foldl (fun t (name, _) => t.removeIn place name) t)

end Sweep

end GridServe
