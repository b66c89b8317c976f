import GridServe.Metadata.Basic
import GridServe.Error.Server

/-!
The metadata cache shared by concurrent requests. A caller looks for the stored metadata under the
shared lock and returns it if it is there; if not, it takes the compute guard and looks again, and
only then runs the computation off the runtime, waits for it, stores its result under the
exclusive lock and returns it, letting the guard go. A caller may be cancelled at any of its
awaits: its guard is let go with it, but a computation it started runs on and its result is
dropped.

A caller stops at each await. What a computation gives, the dataset's metadata or an error, is
up to the run: the computation reads the dataset and may fail or panic. Stored metadata carries
the caller that made it, so callers that get the same allocation can be told apart from callers
that get equal contents.
-/

namespace GridServe

namespace MetadataCache

structure Shared where
  owner : Nat
  metadata : DatasetMetadata
  deriving Repr

inductive Stage where
  -- About to look for stored metadata under the shared lock.
  | checking
  -- Waiting for the compute guard.
  | locking
  -- Holding the guard; about to look again.
  | rechecking
  -- Holding the guard; waiting for its computation.
  | computing
  -- Holding the guard; waiting for the exclusive lock to store `metadata`.
  | storing (metadata : DatasetMetadata)
  | returned (result : Except ServerError Shared)
  | cancelled
  deriving Repr

/-- Where a caller's computation stands. It outlives a cancelled caller. -/
inductive Job where
  | idle
  | running
  | succeeded
  | failed
  deriving Repr, DecidableEq

structure Caller where
  stage : Stage
  job : Job
  deriving Repr

inductive Action where
  -- The first look, under the shared lock.
  | check
  -- The caller takes the free compute guard.
  | lock
  -- The second look, with the guard held.
  | recheck
  -- The caller's computation ends with the metadata, or with an error.
  | finish (outcome : Except ServerError Unit)
  -- The caller stores its metadata under the exclusive lock and returns it.
  | store
  -- The caller's future is dropped at the await it is waiting at.
  | cancel
  deriving Repr

namespace Caller

/-- One step of caller `i` against the stored value and the guard's holder: the value, the holder
and the caller after it, or `none` when the step cannot happen now. -/
def step (d : Dataset) (value : Option Shared) (guard : Option Nat) (i : Nat) (c : Caller) :
    Action → Option (Option Shared × Option Nat × Caller)
  | .check =>
    match c.stage, value with
    | .checking, some v => some (value, guard, { c with stage := .returned (.ok v) })
    | .checking, none => some (value, guard, { c with stage := .locking })
    | _, _ => none
  | .lock =>
    match c.stage, guard with
    | .locking, none => some (value, some i, { c with stage := .rechecking })
    | _, _ => none
  | .recheck =>
    match c.stage, value with
    | .rechecking, some v => some (value, none, { c with stage := .returned (.ok v) })
    | .rechecking, none => some (value, guard, ⟨.computing, .running⟩)
    | _, _ => none
  | .finish outcome =>
    match c.job, c.stage, outcome with
    | .running, .computing, .ok () =>
      some (value, guard, ⟨.storing (DatasetMetadata.compute d), .succeeded⟩)
    | .running, .computing, .error e => some (value, none, ⟨.returned (.error e), .failed⟩)
    | .running, _, .ok () => some (value, guard, { c with job := .succeeded })
    | .running, _, .error _ => some (value, guard, { c with job := .failed })
    | _, _, _ => none
  | .store =>
    match c.stage with
    | .storing m => some (some ⟨i, m⟩, none, { c with stage := .returned (.ok ⟨i, m⟩) })
    | _ => none
  | .cancel =>
    match c.stage with
    | .checking | .locking => some (value, guard, { c with stage := .cancelled })
    | .rechecking | .computing | .storing _ => some (value, none, { c with stage := .cancelled })
    | _ => none

end Caller

structure State where
  value : Option Shared
  guard : Option Nat
  callers : List Caller
  deriving Repr

def start (n : Nat) : State := ⟨none, none, List.replicate n ⟨.checking, .idle⟩⟩

structure Event where
  caller : Nat
  action : Action
  deriving Repr

def step (d : Dataset) (s : State) (e : Event) : Option State :=
  match s.callers[e.caller]? with
  | none => none
  | some c =>
    (c.step d s.value s.guard e.caller e.action).map fun (value, guard, c') =>
      ⟨value, guard, s.callers.set e.caller c'⟩

def run (d : Dataset) : State → List Event → Option State
  | s, [] => some s
  | s, e :: rest => (step d s e).bind fun t => run d t rest

end MetadataCache

end GridServe
