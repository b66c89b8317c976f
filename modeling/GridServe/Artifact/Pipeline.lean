import GridServe.Error.Server

/-!
Producing an image of a slice. A request renders its grid to a file of its own, waits for the
file to be complete, reads it and deletes it. Waiting for a render permit, for the renderer to
report and for the file all share one deadline, `timeout` milliseconds after the request starts.

Time is in milliseconds from the start of the request. The renderer's report is seen when it
comes strictly before the deadline; after a successful report the file is checked repeatedly up
to and including the deadline, and counts once it exists and is not empty. A render task that
ends without reporting is a render that stopped before completing. A grid without rows or
columns is refused before any of this.
-/

namespace GridServe

inductive ArtifactBody where
  | image (heatmap : Heatmap)
  | bytes (data : List UInt8)
  deriving Repr

structure RenderRun where
  endsAt : Nat
  report : Option (Except RenderError Unit)
  file : Option (Nat × ArtifactBody)

inductive Renderer where
  | heatmap (cellSize : Nat)
  | neverWrites
  | writesEmpty
  | writesLate (delay : Nat)
  | slow (delay : Nat)
  | fails
  | panics
  deriving Repr

/-- Why a file cannot be created at the path of components `parts` inside a fresh, empty
directory, or `none` when it can. The operating system resolves the path one component at a
time: a component longer than 255 bytes is too long, and a directory component other than `.`,
`..` or an empty one does not exist, since the directory is empty. -/
def createErrorAt : List String → Option IoError
  | [] => none
  | [file] => if file.utf8ByteSize > 255 then some (.os 36) else none
  | c :: rest =>
    if c.utf8ByteSize > 255 then some (.os 36)
    else if c = "" || c = "." || c = ".." then createErrorAt rest
    else some .noSuchFile

/-- Why a file cannot be created at `name` inside a fresh, empty directory, or `none` when it
can. A name holding a NUL byte is refused before it reaches the operating system. -/
def createError (name : String) : Option IoError :=
  if name.contains (Char.ofNat 0) then
    some (.custom .invalidInput "file name contained an unexpected NUL byte")
  else createErrorAt (name.splitOn "/")

def partialName (dest : String) : String := dest ++ ".partial"

namespace Renderer

def asciiBytes (s : String) : List UInt8 := s.toList.map fun c => UInt8.ofNat c.toNat

/-- How a renderer runs on a grid when asked for the file `dest`. The heatmap renderer writes
`dest` with `.partial` appended and renames it once complete; the others write `dest` itself.
A stand-in that writes from another thread leaves no file when that write fails. -/
def run (r : Renderer) (g : Grid) (dest : String) : RenderRun :=
  match r with
  | .heatmap cell =>
    match Heatmap.render cell g with
    | .ok h =>
      match createError (partialName dest) with
      | some e => ⟨0, some (.error (.io e)), none⟩
      | none => ⟨0, some (.ok ()), some (0, .image h)⟩
    | .error e => ⟨0, some (.error e), none⟩
  | .neverWrites => ⟨0, some (.ok ()), none⟩
  | .writesEmpty =>
    match createError dest with
    | some e => ⟨0, some (.error (.io e)), none⟩
    | none => ⟨0, some (.ok ()), none⟩
  | .writesLate delay =>
    match createError dest with
    | some _ => ⟨0, some (.ok ()), none⟩
    | none => ⟨0, some (.ok ()), some (delay, .bytes (asciiBytes "late"))⟩
  | .slow delay =>
    match createError dest with
    | some e => ⟨delay, some (.error (.io e)), none⟩
    | none => ⟨delay, some (.ok ()), some (delay, .bytes (asciiBytes "slow"))⟩
  | .fails => ⟨0, some (.error (.tooLarge g.rows g.cols)), none⟩
  | .panics => ⟨0, none, none⟩

end Renderer

inductive ArtifactOutcome where
  | ready
  | timeout
  | renderFailed
  | unreadable
  deriving Repr, DecidableEq

namespace ArtifactOutcome

def label : ArtifactOutcome → String
  | .ready => "ready"
  | .timeout => "timeout"
  | .renderFailed => "render_failed"
  | .unreadable => "unreadable"

end ArtifactOutcome

structure Pipeline where
  timeout : Nat
  pollInterval : Nat
  /-- Whether a render permit is free when the request asks; with none free and none
  released before the deadline the request times out waiting. -/
  permitFree : Bool
  renderer : Renderer
  namePrefix : String

namespace Pipeline

def artifactName (pfx id : String) : String := pfx ++ id ++ ".png"

/-- The name of a request's image file, with a random 36-character identifier. Only its length
and its prefix matter to whether it can be written. -/
def fileName (p : Pipeline) : String :=
  artifactName p.namePrefix "00000000-0000-0000-0000-000000000000"

def timedOut (p : Pipeline) : ServerError := .renderTimeout (Duration.ofMillis p.timeout)

def renderBefore (p : Pipeline) (g : Grid) : Except ServerError ArtifactBody :=
  if !p.permitFree then .error p.timedOut
  else
    let run := p.renderer.run g p.fileName
    if run.endsAt < p.timeout then
      match run.report with
      | none => .error (.renderFailed .interrupted)
      | some (.error e) => .error (.renderFailed e)
      | some (.ok ()) =>
        match run.file with
        | some (readyAt, body) => if readyAt ≤ p.timeout then .ok body else .error p.timedOut
        | none => .error p.timedOut
    else .error p.timedOut

def outcomeOf : Except ServerError ArtifactBody → ArtifactOutcome
  | .ok _ => .ready
  | .error (.renderTimeout _) => .timeout
  | .error (.artifactUnreadable _) => .unreadable
  | .error _ => .renderFailed

/-- Produce the image of a grid: the result, and the outcome counted when the grid was not
empty. -/
def produce (p : Pipeline) (g : Grid) : Except ServerError ArtifactBody × Option ArtifactOutcome :=
  if g.rows = 0 ∨ g.cols = 0 then (.error .emptyGrid, none)
  else
    let result := p.renderBefore g
    (result, some (outcomeOf result))

end Pipeline

end GridServe
