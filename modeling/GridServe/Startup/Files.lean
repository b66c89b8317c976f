import GridServe.Error.Io

/-!
The files the server sees. The working directory holds a tree of files and directories, each
named by its parts below the working directory. Outside it little is known: the directories
above the working directory exist, an absolute path exists when it names one of the system's
standard directories or one made during the run, and nothing else exists.

A path is resolved one part at a time, as the operating system does: an absolute path starts
at the root and any other at the working directory, empty parts and `.` stay where they are,
`..` goes up, and each part is looked up inside the directory reached so far, so that a part
before it that is missing or is a file stops the walk. A path that ends in `/`, `.` or `..`
asks for a directory. The empty path names nothing.
-/

namespace GridServe

inductive Node where
  | file (content : String)
  | directory
  deriving Repr, DecidableEq

inductive Place where
  | work (parts : List String)
  | system (parts : List String)
  | above (up : Nat) (parts : List String)
  deriving Repr, DecidableEq

namespace Place

def parent : Place → Place
  | .work [] => .above 1 []
  | .work ps => .work ps.dropLast
  | .system ps => .system ps.dropLast
  | .above n [] => .above (n + 1) []
  | .above n ps => .above n ps.dropLast

def child (p : Place) (name : String) : Place :=
  match p with
  | .work ps => .work (ps ++ [name])
  | .system ps => .system (ps ++ [name])
  | .above n ps => .above n (ps ++ [name])

end Place

def standardDirectories : List (List String) :=
  [[], ["bin"], ["boot"], ["dev"], ["etc"], ["home"], ["lib"], ["media"], ["mnt"], ["opt"],
    ["proc"], ["root"], ["run"], ["sbin"], ["srv"], ["sys"], ["tmp"], ["usr"], ["var"],
    ["usr", "bin"], ["usr", "games"], ["usr", "include"], ["usr", "lib"], ["usr", "local"],
    ["usr", "sbin"], ["usr", "share"], ["usr", "src"], ["var", "backups"], ["var", "cache"],
    ["var", "lib"], ["var", "local"], ["var", "lock"], ["var", "log"], ["var", "mail"],
    ["var", "opt"], ["var", "run"], ["var", "spool"], ["var", "tmp"]]

/-- A tree of files and directories under the working directory, each under its parts, and
the directories made outside it. -/
structure FileTree where
  nodes : List (List String × Node) := []
  madeOutside : List (List String) := []
  deriving Repr

structure Resolved where
  place : Place
  node : Option Node
  asDirectory : Bool
  deriving Repr

namespace FileTree

/-- The parts of a path inside the working directory, read as written: empty and `.` parts
are dropped; `none` for a path that is empty, absolute or goes up. Only used to lay out a tree
from a listing of its paths. -/
def parts (path : String) : Option (List String) :=
  if path.isEmpty || path.startsWith "/" then none
  else
    let ps := (path.splitOn "/").filter fun p => p != "" && p != "."
    if ps.contains ".." then none else some ps

def lookupParts (t : FileTree) : List String → Option Node
  | [] => some .directory
  | ps => t.nodes.lookup ps

def nodeAt (t : FileTree) : Place → Option Node
  | .work ps => t.lookupParts ps
  | .system ps =>
    if standardDirectories.contains ps || t.madeOutside.contains ps then some .directory
    else none
  | .above _ [] => some .directory
  | .above _ (_ :: _) => none

def walk (t : FileTree) : Place → List String → Except IoError Place
  | p, [] => .ok p
  | p, c :: rest =>
    match t.nodeAt p with
    | some .directory =>
      walk t (if c = "." then p else if c = ".." then p.parent else p.child c) rest
    | some (.file _) => .error IoError.notADirectory
    | none => .error IoError.noSuchFile

def resolve (t : FileTree) (path : String) : Except IoError Resolved :=
  if path.isEmpty then .error IoError.noSuchFile
  else
    let ps := (path.splitOn "/").filter (· != "")
    let start : Place := if path.startsWith "/" then .system [] else .work []
    match t.walk start ps with
    | .error e => .error e
    | .ok place =>
      let asDirectory := path.endsWith "/" || ps.getLast? == some "." || ps.getLast? == some ".."
      .ok ⟨place, t.nodeAt place, asDirectory⟩

def stat (t : FileTree) (path : String) : Except IoError Node :=
  match t.resolve path with
  | .error e => .error e
  | .ok r =>
    match r.node with
    | none => .error IoError.noSuchFile
    | some (.file text) => if r.asDirectory then .error IoError.notADirectory else .ok (.file text)
    | some .directory => .ok .directory

def pathExists (t : FileTree) (path : String) : Bool := (t.stat path).isOk

def isDirectory (t : FileTree) (path : String) : Bool :=
  match t.stat path with
  | .ok .directory => true
  | _ => false

def setNode (t : FileTree) (ps : List String) (n : Node) : FileTree :=
  { t with nodes := (t.nodes.filter (·.1 != ps)) ++ [(ps, n)] }

def addDirectory (t : FileTree) : Place → FileTree
  | .work ps => t.setNode ps .directory
  | .system ps => { t with madeOutside := t.madeOutside ++ [ps] }
  | .above _ _ => t

def createDirectory (t : FileTree) (path : String) : Except IoError FileTree :=
  match t.resolve path with
  | .error e => .error e
  | .ok r =>
    match r.node with
    | some _ => .error IoError.fileExists
    | none => .ok (t.addDirectory r.place)

/-- The components of a path as its parent is taken: `/` for a leading root, then its parts
without empty ones and without `.` unless it leads a relative path. -/
def components (path : String) : List String :=
  let ps := (path.splitOn "/").filter (· != "")
  if path.startsWith "/" then "/" :: ps.filter (· != ".")
  else match ps with
    | "." :: rest => "." :: rest.filter (· != ".")
    | _ => ps.filter (· != ".")

def ofComponents : List String → String
  | "/" :: rest => "/" ++ "/".intercalate rest
  | cs => "/".intercalate cs

def parentPath (path : String) : Option String :=
  match components path with
  | [] | ["/"] => none
  | cs => some (ofComponents cs.dropLast)

/-- Create a directory and the missing ones above it, within `fuel` levels: make the directory;
if its parent is missing, create the parent first and make it again. A failure other than a
missing parent counts as success when a directory is then there. -/
def createDirAllWithin : Nat → FileTree → String → Except IoError FileTree
  | 0, t, _ => .ok t
  | fuel + 1, t, path =>
    if components path = [] then .ok t
    else match t.createDirectory path with
      | .ok t => .ok t
      | .error e =>
        if e = IoError.noSuchFile then
          match parentPath path with
          | none => .error (.custom .other "failed to create whole tree")
          | some p =>
            match createDirAllWithin fuel t p with
            | .error e => .error e
            | .ok t =>
              match t.createDirectory path with
              | .ok t => .ok t
              | .error e => if t.isDirectory path then .ok t else .error e
        else if t.isDirectory path then .ok t else .error e

/-- Create a directory and every missing one above it. Each parent has fewer components, so
one level per component suffices. -/
def createDirAll (t : FileTree) (path : String) : Except IoError FileTree :=
  createDirAllWithin ((components path).length + 1) t path

def children (t : FileTree) (ps : List String) : List (String × Node) :=
  t.nodes.filterMap fun (q, n) =>
    if q.length = ps.length + 1 && q.take ps.length == ps then q.getLast?.map (·, n) else none

/-- The place of a directory and its entries. Directories outside the working directory are
seen empty. -/
def readDir (t : FileTree) (path : String) : Except IoError (Place × List (String × Node)) :=
  match t.stat path with
  | .error e => .error e
  | .ok (.file _) => .error IoError.notADirectory
  | .ok .directory =>
    match t.resolve path with
    | .ok r =>
      match r.place with
      | .work ps => .ok (r.place, t.children ps)
      | _ => .ok (r.place, [])
    | .error e => .error e

/-- The text of a file. A directory opens but cannot be read as text, which gives `none`. -/
def readFile (t : FileTree) (path : String) : Except IoError (Option String) :=
  match t.stat path with
  | .error e => .error e
  | .ok (.file text) => .ok (some text)
  | .ok .directory => .ok none

def removeIn (t : FileTree) (dir : Place) (name : String) : FileTree :=
  match dir.child name with
  | .work ps => { t with nodes := t.nodes.filter (·.1 != ps) }
  | _ => t

def makeParents (t : FileTree) (ps : List String) : FileTree :=
  (List.range ps.length).foldl (fun t i =>
    let pre := ps.take i
    if pre.isEmpty || t.lookupParts pre != none then t else t.setNode pre .directory) t

def writeFile (t : FileTree) (path : String) (content : String) : FileTree :=
  match parts path with
  | some ps => (t.makeParents ps).setNode ps (.file content)
  | none => t

def makeDirectory (t : FileTree) (path : String) : FileTree :=
  match parts path with
  | some ps => ((t.makeParents ps).setNode ps .directory)
  | none => t

def listing (t : FileTree) : List String :=
  let names := t.nodes.map fun (ps, n) =>
    "/".intercalate ps ++ (match n with
      | .directory => "/"
      | .file _ => "")
  names.mergeSort (fun a b => decide (a ≤ b))

end FileTree

end GridServe
