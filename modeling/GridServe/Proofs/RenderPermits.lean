import GridServe.Proofs.ArtifactCleanup

namespace GridServe

namespace Tasks

theorem takePermit_eq_some {free rest : Option Nat} (taken : takePermit free = some rest) :
    rest.map (· + 1) = free := by
  unfold takePermit at taken
  split at taken <;> cases taken <;> rfl

namespace Call

def held (c : Call) : Nat := if c.render.live then 1 else 0

variable {p : Pipeline} {free free' : Option Nat} {c c' : Call} {a : Action}

/-- A move hands a permit between the free ones and the call's render, and makes or loses none. -/
theorem Moves.permits_conserved (spawned : c.request = .permitWait → c.render = .idle)
    (moves : Moves p free c a free' c') :
    free'.map (· + c'.held) = free.map (· + c.held) := by
  cases moves with
  | acquire waiting taken =>
    -- the permit leaves the free ones for the render just spawned
    rw [← takePermit_eq_some taken, Option.map_map]
    simp [held, spawned waiting, RenderStage.live, Function.comp_def]
  | discard queued | finishPanic running _ | deliver returned _ | remove orphaned =>
    -- the render task ends and gives its permit back
    simp [held, RenderStage.live, Option.map_map, Function.comp_def, *]
  | _ => simp_all [held, RenderStage.live]

theorem Moves.stop_frame (moves : Moves p free c a free' c')
    (stops : a = .timeout ∨ a = .disconnect) : free' = free ∧ c'.render = c.render := by
  cases moves <;> simp_all

end Call

variable {p : Pipeline}

theorem step_liveRenders {s t : State} {i : Nat} {c c' : Call} (found : s.calls[i]? = some c)
    (calls : t.calls = s.calls.set i c') : t.liveRenders + c.held = s.liveRenders + c'.held := by
  obtain ⟨bound, rfl⟩ := List.getElem?_eq_some_iff.mp found
  -- the moved call was counted before exactly when its render was live
  have counted : s.calls[i].held ≤ s.liveRenders := by
    unfold Call.held
    split
    · exact List.countP_pos_iff.mpr ⟨_, List.getElem_mem bound, ‹_›⟩
    · exact Nat.zero_le _
  unfold State.liveRenders Call.held at *
  rw [calls, List.countP_set bound]
  omega

theorem step_permits {s t : State} {e : Event}
    (spawned : ∀ c ∈ s.calls, c.request = .permitWait → c.render = .idle)
    (stepped : step p s e = some t) :
    t.free.map (· + t.liveRenders) = s.free.map (· + s.liveRenders) := by
  obtain ⟨c, c', found, moves, calls⟩ := step_moves stepped
  have conserved := moves.permits_conserved (spawned c (List.mem_of_getElem? found))
  have count := step_liveRenders found calls
  cases free : s.free with
  | none =>
    rw [free, Option.map_none] at conserved
    rw [Option.map_eq_none_iff.mp conserved, Option.map_none, Option.map_none]
  | some k =>
    rw [free, Option.map_some] at conserved
    obtain ⟨k', freeT, total⟩ := Option.map_eq_some_iff.mp conserved
    rw [freeT, Option.map_some, Option.map_some, Option.some_inj]
    omega

theorem run_permits {limit : Option Nat} {scripts : List RenderScript} {events : List Event}
    {s : State} (ran : run p (start limit scripts) events = some s) :
    (∀ c ∈ s.calls, c.request = .permitWait → c.render = .idle) ∧
      s.free.map (· + s.liveRenders) = limit := by
  -- the permits are conserved only while waiting requests have no render, so both ride along
  refine run_preserves (fun s => (∀ c ∈ s.calls, c.request = .permitWait → c.render = .idle) ∧
      s.free.map (· + s.liveRenders) = limit)
    (fun ⟨spawned, permits⟩ stepped => ⟨step_forall_calls _
      (fun spawned moves => Call.spawned_moves spawned moves) spawned stepped,
      (step_permits spawned stepped).trans permits⟩) ran ⟨?_, ?_⟩
  · intro c fresh
    obtain ⟨script, -, rfl⟩ := List.mem_map.mp fresh
    simp [Call.fresh]
  · cases limit <;> simp [start, State.liveRenders, Call.fresh, RenderStage.live]

theorem rendering_le_liveRenders (s : State) : s.rendering ≤ s.liveRenders :=
  List.countP_mono_left fun c _ rendering => by
    cases r : c.render <;> simp_all [RenderStage.rendering, RenderStage.live]

/-- In every interleaving of requests sharing the render permits: each live render task holds
exactly one permit and all others are free, so with a limit no more renders are at work than it
allows; a deadline or a disconnect gives back no permit and ends no render; a request waiting for
a permit has spawned no render, so holds none; and with no limit a waiting request takes its
permit at once. -/
theorem render_permits_held_by_live_renders {limit : Option Nat} {scripts : List RenderScript}
    {events : List Event} {s : State} (ran : run p (start limit scripts) events = some s) :
    s.free.map (· + s.liveRenders) = limit ∧
    (∀ bound, limit = some bound → s.rendering ≤ bound) ∧
    (∀ e t, step p s e = some t → e.action = .timeout ∨ e.action = .disconnect →
      t.free = s.free ∧ t.liveRenders = s.liveRenders) ∧
    (∀ c ∈ s.calls, c.request = .permitWait → c.render = .idle) ∧
    (limit = none → ∀ i c, s.calls[i]? = some c → c.request = .permitWait →
      ∃ t, step p s ⟨i, .acquire⟩ = some t) := by
  obtain ⟨spawned, permits⟩ := run_permits ran
  refine ⟨permits, ?_, ?_, spawned, ?_⟩
  · rintro bound rfl
    obtain ⟨free, -, total⟩ := Option.map_eq_some_iff.mp permits
    have := rendering_le_liveRenders s
    omega
  · intro e t stepped stops
    obtain ⟨c, c', found, moves, calls⟩ := step_moves stepped
    obtain ⟨free, render⟩ := moves.stop_frame stops
    have count := step_liveRenders found calls
    simp only [Call.held, render] at count
    exact ⟨free, by omega⟩
  · rintro rfl i c found waiting
    have unlimited : s.free = none := Option.map_eq_none_iff.mp permits
    exact ⟨⟨none, s.calls.set i { c with request := .reportWait, render := .queued }⟩,
      by simp [step, found, Call.step, waiting, unlimited, takePermit]⟩

theorem timed_out_wait_keeps_render_limit :
    ∃ s, run ⟨300, 10, true, .heatmap 10, "image_"⟩
        (start (some 1) [⟨[.bytes [1]], some (.ok ())⟩, ⟨[.bytes [2]], some (.ok ())⟩])
        [⟨0, .acquire⟩, ⟨1, .timeout⟩, ⟨0, .start⟩] = some s ∧
      s.free = some 0 ∧ s.rendering ≤ 1 := by
  have ran : run ⟨300, 10, true, .heatmap 10, "image_"⟩
      (start (some 1) [⟨[.bytes [1]], some (.ok ())⟩, ⟨[.bytes [2]], some (.ok ())⟩])
      [⟨0, .acquire⟩, ⟨1, .timeout⟩, ⟨0, .start⟩] = some _ := rfl
  exact ⟨_, ran, rfl, (render_permits_held_by_live_renders ran).2.1 1 rfl⟩

end Tasks

end GridServe
