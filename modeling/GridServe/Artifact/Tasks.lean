import GridServe.Artifact.Pipeline

/-!
Image requests as concurrent tasks. A request stops at each of its awaits: the render permit,
the render's report, each check of the file and the read. Once it holds a permit it names a fresh
file, sets a guard that deletes the file when the request ends, and spawns its render as a
detached blocking task that owns the permit and reports on a one-shot channel. The request drops
its receiver before its guard. A render whose report cannot be delivered deletes the file itself,
and the render task gives its permit back when it ends, however it ends.

Requests share the render permits and each has a file of its own. A run is any interleaving of
the tasks' steps. The deadline is an event a request may meet at an await where nothing is ready,
and a disconnect one it may meet at any await. What a render writes and how it ends is its script;
when each of its steps happens is up to the run. A check that finds no ready file changes nothing
and is left out of runs. Grids without rows or columns are refused before any of this.
-/

namespace GridServe

namespace ArtifactBody

def nonempty : ArtifactBody → Bool
  | .image _ => true
  | .bytes data => !data.isEmpty

end ArtifactBody

namespace Tasks

/-- What a render does to its destination, in order, and how it ends: the result it returns, or
`none` when it panics. -/
structure RenderScript where
  writes : List ArtifactBody
  ending : Option (Except RenderError Unit)
  deriving Repr

/-- A render writes its destination only on its way to returning: one that panics has written
nothing. The heatmap renderer writes a side file and renames it into place just before it
returns. -/
def RenderScript.Contract (script : RenderScript) : Prop :=
  script.ending = none → script.writes = []

inductive RequestStage where
  -- Waiting for a render permit; nothing else exists yet.
  | permitWait
  -- Its render is spawned and its file guard set; waiting for the report.
  | reportWait
  -- The render reported success; checking the file.
  | polling
  -- A check found the file ready; reading it.
  | reading
  -- Stopped with `result`, or dropped (`none`), and the receiver dropped; the guard has yet to
  -- run.
  | closing (result : Option (Except ServerError ArtifactBody))
  -- Over, the guard run if there was one.
  | finished (result : Option (Except ServerError ArtifactBody))
  deriving Repr

inductive RenderStage where
  -- Not spawned.
  | idle
  -- Spawned, not yet started by the pool.
  | queued
  -- Rendering, with `left` still to write.
  | running (left : List ArtifactBody)
  -- The renderer returned; the report is not sent yet.
  | returned (result : Except RenderError Unit)
  -- The report could not be delivered; the file is not deleted yet.
  | orphaned
  -- Ended after delivering its report.
  | delivered
  -- Ended without delivering a report.
  | stopped
  deriving Repr

namespace RenderStage

def sending : RenderStage → Bool
  | .queued | .running _ | .returned _ => true
  | _ => false

def live : RenderStage → Bool
  | .queued | .running _ | .returned _ | .orphaned => true
  | _ => false

def rendering : RenderStage → Bool
  | .running _ => true
  | _ => false

end RenderStage

structure Call where
  script : RenderScript
  request : RequestStage
  render : RenderStage
  -- The report waiting in the channel.
  slot : Option (Except RenderError Unit)
  -- The request's file.
  file : Option ArtifactBody
  -- The report the request took from the channel.
  heard : Option (Except RenderError Unit)
  -- What the check that found the file ready saw.
  found : Option ArtifactBody
  deriving Repr

namespace Call

def fresh (script : RenderScript) : Call := ⟨script, .permitWait, .idle, none, none, none, none⟩

def ready (c : Call) : Bool :=
  match c.file with
  | some body => body.nonempty
  | none => false

end Call

/-- Take a permit from the free ones: with no limit there is nothing to take, and with none free
the request waits. -/
def takePermit : Option Nat → Option (Option Nat)
  | none => some none
  | some 0 => none
  | some (k + 1) => some (some k)

inductive Action where
  -- The request gets a permit and spawns its render.
  | acquire
  -- The deadline passes while the request waits.
  | timeout
  -- The client goes away and the request is dropped.
  | disconnect
  -- The request takes the report, or finds the channel closed without one.
  | receive
  -- The request finds the file ready.
  | check
  -- The request reads the file.
  | read
  -- The request's guard deletes the file.
  | cleanUp
  -- The pool starts the render.
  | start
  -- The pool drops the render without running it.
  | discard
  -- The renderer writes the next contents of its script.
  | write
  -- The renderer returns or panics, as its script says.
  | finish
  -- The render sends its report.
  | send
  -- The render deletes the file its report could not announce.
  | remove
  deriving Repr, DecidableEq

namespace Call

/-- One step of a call's tasks, with the free permits: the permits after it and the call, or
`none` when the step cannot happen now. -/
def step (p : Pipeline) (free : Option Nat) (c : Call) : Action → Option (Option Nat × Call)
  | .acquire =>
    match c.request, takePermit free with
    | .permitWait, some rest => some (rest, { c with request := .reportWait, render := .queued })
    | _, _ => none
  | .timeout =>
    match c.request with
    | .permitWait =>
      if free.isSome then some (free, { c with request := .finished (some (.error p.timedOut)) })
      else none
    | .reportWait =>
      if c.slot.isNone && c.render.sending then
        some (free, { c with request := .closing (some (.error p.timedOut)) })
      else none
    | .polling =>
      if c.ready then none
      else some (free, { c with request := .closing (some (.error p.timedOut)) })
    | _ => none
  | .disconnect =>
    match c.request with
    | .permitWait => some (free, { c with request := .finished none })
    | .reportWait | .polling | .reading => some (free, { c with request := .closing none })
    | _ => none
  | .receive =>
    match c.request, c.slot with
    | .reportWait, some (.ok ()) =>
      some (free, { c with request := .polling, slot := none, heard := some (.ok ()) })
    | .reportWait, some (.error e) =>
      some (free, { c with
        request := .closing (some (.error (.renderFailed e)))
        slot := none
        heard := some (.error e) })
    | .reportWait, none =>
      if c.render.sending then none
      else some (free, { c with request := .closing (some (.error (.renderFailed .interrupted))) })
    | _, _ => none
  | .check =>
    match c.request, c.file with
    | .polling, some body =>
      if body.nonempty then some (free, { c with request := .reading, found := some body })
      else none
    | _, _ => none
  | .read =>
    match c.request, c.file with
    | .reading, some body => some (free, { c with request := .closing (some (.ok body)) })
    | .reading, none =>
      some (free, { c with request := .closing (some (.error (.artifactUnreadable .noSuchFile))) })
    | _, _ => none
  | .cleanUp =>
    match c.request with
    | .closing result => some (free, { c with request := .finished result, file := none })
    | _ => none
  | .start =>
    match c.render with
    | .queued => some (free, { c with render := .running c.script.writes })
    | _ => none
  | .discard =>
    match c.render with
    | .queued => some (free.map (· + 1), { c with render := .stopped })
    | _ => none
  | .write =>
    match c.render with
    | .running (body :: left) => some (free, { c with render := .running left, file := some body })
    | _ => none
  | .finish =>
    match c.render, c.script.ending with
    | .running [], some result => some (free, { c with render := .returned result })
    | .running [], none => some (free.map (· + 1), { c with render := .stopped })
    | _, _ => none
  | .send =>
    match c.render, c.request with
    | .returned result, .reportWait =>
      some (free.map (· + 1), { c with render := .delivered, slot := some result })
    | .returned _, _ => some (free, { c with render := .orphaned })
    | _, _ => none
  | .remove =>
    match c.render with
    | .orphaned => some (free.map (· + 1), { c with render := .stopped, file := none })
    | _ => none

end Call

/-- Concurrent image requests and the free render permits (`none`: renders are not limited). -/
structure State where
  free : Option Nat
  calls : List Call
  deriving Repr

def start (limit : Option Nat) (scripts : List RenderScript) : State :=
  ⟨limit, scripts.map Call.fresh⟩

structure Event where
  call : Nat
  action : Action
  deriving Repr, DecidableEq

def step (p : Pipeline) (s : State) (e : Event) : Option State :=
  match s.calls[e.call]? with
  | none => none
  | some c => (c.step p s.free e.action).map fun (free, c') => ⟨free, s.calls.set e.call c'⟩

def run (p : Pipeline) : State → List Event → Option State
  | s, [] => some s
  | s, e :: rest => (step p s e).bind fun t => run p t rest

namespace State

def liveRenders (s : State) : Nat := s.calls.countP (·.render.live)

def rendering (s : State) : Nat := s.calls.countP (·.render.rendering)

end State

end Tasks

end GridServe
