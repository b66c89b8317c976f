import GridServe.Artifact.Tasks

namespace GridServe

namespace Tasks

namespace Call

/-- The steps a call's tasks can take, one constructor per case of `Call.step`. -/
inductive Moves (p : Pipeline) : Option Nat → Call → Action → Option Nat → Call → Prop
  | acquire {free rest : Option Nat} {c : Call} (waiting : c.request = .permitWait)
      (taken : takePermit free = some rest) :
      Moves p free c .acquire rest { c with request := .reportWait, render := .queued }
  | timeoutPermit {free : Option Nat} {c : Call} (waiting : c.request = .permitWait)
      (limited : free.isSome) :
      Moves p free c .timeout free { c with request := .finished (some (.error p.timedOut)) }
  | timeoutReport {free : Option Nat} {c : Call} (waiting : c.request = .reportWait)
      (empty : c.slot = none) (sending : c.render.sending) :
      Moves p free c .timeout free { c with request := .closing (some (.error p.timedOut)) }
  | timeoutPolling {free : Option Nat} {c : Call} (polling : c.request = .polling)
      (unready : c.ready = false) :
      Moves p free c .timeout free { c with request := .closing (some (.error p.timedOut)) }
  | dropWaiting {free : Option Nat} {c : Call} (waiting : c.request = .permitWait) :
      Moves p free c .disconnect free { c with request := .finished none }
  | dropGuarded {free : Option Nat} {c : Call}
      (active : c.request = .reportWait ∨ c.request = .polling ∨ c.request = .reading) :
      Moves p free c .disconnect free { c with request := .closing none }
  | receiveOk {free : Option Nat} {c : Call} (waiting : c.request = .reportWait)
      (posted : c.slot = some (.ok ())) :
      Moves p free c .receive free
        { c with request := .polling, slot := none, heard := some (.ok ()) }
  | receiveError {free : Option Nat} {c : Call} {e : RenderError}
      (waiting : c.request = .reportWait) (posted : c.slot = some (.error e)) :
      Moves p free c .receive free { c with
        request := .closing (some (.error (.renderFailed e)))
        slot := none
        heard := some (.error e) }
  | receiveClosed {free : Option Nat} {c : Call} (waiting : c.request = .reportWait)
      (empty : c.slot = none) (closed : c.render.sending = false) :
      Moves p free c .receive free
        { c with request := .closing (some (.error (.renderFailed .interrupted))) }
  | check {free : Option Nat} {c : Call} {body : ArtifactBody} (polling : c.request = .polling)
      (present : c.file = some body) (nonempty : body.nonempty) :
      Moves p free c .check free { c with request := .reading, found := some body }
  | read {free : Option Nat} {c : Call} {body : ArtifactBody} (reading : c.request = .reading)
      (present : c.file = some body) :
      Moves p free c .read free { c with request := .closing (some (.ok body)) }
  | readMissing {free : Option Nat} {c : Call} (reading : c.request = .reading)
      (missing : c.file = none) :
      Moves p free c .read free
        { c with request := .closing (some (.error (.artifactUnreadable .noSuchFile))) }
  | cleanUp {free : Option Nat} {c : Call} {result : Option (Except ServerError ArtifactBody)}
      (closing : c.request = .closing result) :
      Moves p free c .cleanUp free { c with request := .finished result, file := none }
  | start {free : Option Nat} {c : Call} (queued : c.render = .queued) :
      Moves p free c .start free { c with render := .running c.script.writes }
  | discard {free : Option Nat} {c : Call} (queued : c.render = .queued) :
      Moves p free c .discard (free.map (· + 1)) { c with render := .stopped }
  | write {free : Option Nat} {c : Call} {body : ArtifactBody} {left : List ArtifactBody}
      (running : c.render = .running (body :: left)) :
      Moves p free c .write free { c with render := .running left, file := some body }
  | finishReturn {free : Option Nat} {c : Call} {result : Except RenderError Unit}
      (running : c.render = .running []) (ending : c.script.ending = some result) :
      Moves p free c .finish free { c with render := .returned result }
  | finishPanic {free : Option Nat} {c : Call} (running : c.render = .running [])
      (ending : c.script.ending = none) :
      Moves p free c .finish (free.map (· + 1)) { c with render := .stopped }
  | deliver {free : Option Nat} {c : Call} {result : Except RenderError Unit}
      (returned : c.render = .returned result) (waiting : c.request = .reportWait) :
      Moves p free c .send (free.map (· + 1)) { c with render := .delivered, slot := some result }
  | orphan {free : Option Nat} {c : Call} {result : Except RenderError Unit}
      (returned : c.render = .returned result) (gone : c.request ≠ .reportWait) :
      Moves p free c .send free { c with render := .orphaned }
  | remove {free : Option Nat} {c : Call} (orphaned : c.render = .orphaned) :
      Moves p free c .remove (free.map (· + 1)) { c with render := .stopped, file := none }

theorem moves_of_step {p : Pipeline} {free free' : Option Nat} {c c' : Call} {a : Action}
    (stepped : c.step p free a = some (free', c')) : Moves p free c a free' c' := by
  cases a with
  | acquire =>
    simp only [step] at stepped
    split at stepped
    · next waiting taken =>
      cases stepped
      exact .acquire waiting taken
    · cases stepped
  | timeout =>
    simp only [step] at stepped
    split at stepped
    · next waiting =>
      split at stepped
      · next limited =>
        cases stepped
        exact .timeoutPermit waiting limited
      · cases stepped
    · next waiting =>
      split at stepped
      · next idle =>
        simp only [Bool.and_eq_true, Option.isNone_iff_eq_none] at idle
        cases stepped
        exact .timeoutReport waiting idle.1 idle.2
      · cases stepped
    · next polling =>
      split at stepped
      · cases stepped
      · next unready =>
        cases stepped
        exact .timeoutPolling polling (by simpa using unready)
    · cases stepped
  | disconnect =>
    simp only [step] at stepped
    split at stepped
    · next waiting =>
      cases stepped
      exact .dropWaiting waiting
    · next active =>
      cases stepped
      exact .dropGuarded (.inl active)
    · next active =>
      cases stepped
      exact .dropGuarded (.inr (.inl active))
    · next active =>
      cases stepped
      exact .dropGuarded (.inr (.inr active))
    · cases stepped
  | receive =>
    simp only [step] at stepped
    split at stepped
    · next waiting posted =>
      cases stepped
      exact .receiveOk waiting posted
    · next e waiting posted =>
      cases stepped
      exact .receiveError waiting posted
    · next waiting empty =>
      split at stepped
      · cases stepped
      · next closed =>
        cases stepped
        exact .receiveClosed waiting empty (by simpa using closed)
    · cases stepped
  | check =>
    simp only [step] at stepped
    split at stepped
    · next body polling present =>
      split at stepped
      · next nonempty =>
        cases stepped
        exact .check polling present nonempty
      · cases stepped
    · cases stepped
  | read =>
    simp only [step] at stepped
    split at stepped
    · next body reading present =>
      cases stepped
      exact .read reading present
    · next reading missing =>
      cases stepped
      exact .readMissing reading missing
    · cases stepped
  | cleanUp =>
    simp only [step] at stepped
    split at stepped
    · next result closing =>
      cases stepped
      exact .cleanUp closing
    · cases stepped
  | start =>
    simp only [step] at stepped
    split at stepped
    · next queued =>
      cases stepped
      exact .start queued
    · cases stepped
  | discard =>
    simp only [step] at stepped
    split at stepped
    · next queued =>
      cases stepped
      exact .discard queued
    · cases stepped
  | write =>
    simp only [step] at stepped
    split at stepped
    · next body left running =>
      cases stepped
      exact .write running
    · cases stepped
  | finish =>
    simp only [step] at stepped
    split at stepped
    · next result running ending =>
      cases stepped
      exact .finishReturn running ending
    · next running ending =>
      cases stepped
      exact .finishPanic running ending
    · cases stepped
  | send =>
    simp only [step] at stepped
    split at stepped
    · next result returned waiting =>
      cases stepped
      exact .deliver returned waiting
    · next result returned gone =>
      cases stepped
      exact .orphan returned gone
    · cases stepped
  | remove =>
    simp only [step] at stepped
    split at stepped
    · next orphaned =>
      cases stepped
      exact .remove orphaned
    · cases stepped

theorem Moves.script_eq {p : Pipeline} {free free' : Option Nat} {c c' : Call} {a : Action}
    (moves : Moves p free c a free' c') : c'.script = c.script := by
  cases moves <;> rfl

end Call

variable {p : Pipeline}

theorem step_moves {s t : State} {e : Event} (stepped : step p s e = some t) :
    ∃ c c', s.calls[e.call]? = some c ∧ Call.Moves p s.free c e.action t.free c' ∧
      t.calls = s.calls.set e.call c' := by
  unfold step at stepped
  split at stepped
  · cases stepped
  · next c found =>
    obtain ⟨⟨free', c'⟩, moved, rfl⟩ := Option.map_eq_some_iff.mp stepped
    exact ⟨c, c', found, Call.moves_of_step moved, rfl⟩

theorem run_preserves (I : State → Prop) (keep : ∀ {s e t}, I s → step p s e = some t → I t)
    {s t : State} {events : List Event} (ran : run p s events = some t) (init : I s) : I t := by
  induction events generalizing s with
  | nil =>
    cases ran
    exact init
  | cons e rest ih =>
    obtain ⟨u, stepped, ran⟩ := Option.bind_eq_some_iff.mp ran
    exact ih ran (keep init stepped)

theorem step_forall_calls (P : Call → Prop)
    (keep : ∀ {free c a free' c'}, P c → Call.Moves p free c a free' c' → P c')
    {s t : State} {e : Event} (before : ∀ c ∈ s.calls, P c) (stepped : step p s e = some t) :
    ∀ c ∈ t.calls, P c := by
  obtain ⟨c, c', found, moves, calls⟩ := step_moves stepped
  intro d mem
  rw [calls] at mem
  -- the moved call is the only new one
  rcases List.mem_or_eq_of_mem_set mem with old | rfl
  · exact before d old
  · exact keep (before c (List.mem_of_getElem? found)) moves

theorem run_forall_calls (P : Call → Prop)
    (keep : ∀ {free c a free' c'}, P c → Call.Moves p free c a free' c' → P c')
    {s t : State} {events : List Event} (ran : run p s events = some t)
    (init : ∀ c ∈ s.calls, P c) : ∀ c ∈ t.calls, P c :=
  run_preserves (fun s => ∀ c ∈ s.calls, P c) (step_forall_calls P keep) ran init

end Tasks

end GridServe
