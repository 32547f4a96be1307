import CameraServer.Proofs.Pipeline.Resume
import CameraServer.Proofs.Pipeline.Wiring

/-!
The playing flag. Main statements: every operation of the engine keeps the flag in step with the graph,
the events that still wait to be handled taken into account; so once there is none left, the flag tells
whether the graph plays, and without a pipeline it is not set.
-/

set_option autoImplicit false

namespace CameraServer

open Media

namespace Media

def Event.hear (flag : Bool) : Event → Bool
  | .stateChanged _ _ new true => decide (new = .playing)
  | _ => flag

def foretell (flag : Bool) (events : List Event) : Bool := events.foldl Event.hear flag

theorem foretell_append (flag : Bool) (events more : List Event) :
    foretell flag (events ++ more) = foretell (foretell flag events) more := List.foldl_append

theorem foretell_lowered (flag : Bool) (events : List Event) (down : foretell flag events = false) :
    foretell false events = false := by
  cases flag with
  | false => exact down
  | true =>
      induction events with
      | nil => cases down
      | cons event rest ih =>
          cases event with
          | note severity source message details => exact ih down
          | endOfStream => exact ih down
          | stateChanged source old new top =>
              cases top with
              | false => exact ih down
              | true => exact down

namespace Graph

def Announces (flag : Bool) (g : Graph) : Prop := foretell flag g.events = decide (g.state = .playing)

theorem wires_announces (flag : Bool) (g next : Graph) (wires : Wires g next) (announced : Announces flag g) :
    Announces flag next := by
  rw [Announces, wires.events, wires.state]
  exact announced

section Sink

variable {σ : Type} (sink : FragmentSink σ) (g : Graph) (s : σ) (flag : Bool) (announced : Announces flag g)

include announced

theorem emit_announces (target : Target) (signal : Signal) : Announces flag (emit sink target signal g s).2.1 := by
  apply state_of_ends _ _ _ (Announces flag ·.1) (g.emit_changes sink s target signal)
  · rintro next (⟨_, ended⟩ | ⟨_, _, _, _, _, _, listed⟩ | ⟨name, _, _, opened⟩)
    · rw [ended, Announces]
      exact (foretell_append flag g.events [.endOfStream]).trans announced
    · rw [listed]
      exact announced
    · have wired := wires_announces flag g _ (open_fragment_wires sink name g s) announced
      rw [opened]
      exact wired
  · exact fun next refused => wires_announces flag g next.1 (g.refused_wires _ next.1 refused.1) announced

theorem moved_announces (state : PlayState) : Announces flag (g.moved state) := by
  rw [Announces]
  change foretell flag (if g.state = state then g.events else _) = decide (state = .playing)
  split
  · next same => rw [← same, announced]
  · exact foretell_append flag g.events _

theorem set_state_announces (state : PlayState) : Announces flag (setState sink state g s).2.1 := by
  have moved := moved_announces g flag announced state
  apply state_of_ends _ _ _ (Announces flag ·.1) (g.set_state_changes sink s state)
  · intro next ended
    cases ended with
    | inl plain => exact plain ▸ moved
    | inr begun =>
        rw [begun.2]
        exact wires_announces flag _ _ (open_each_wires sink (g.moved state).recordingStages (_, s)) moved
  · exact fun next refused => wires_announces flag g next.1 (g.refused_wires _ next.1 refused.1) announced

end Sink

end Graph

end Media

namespace Engine

structure Hears (event : Event) (e next : Engine) : Prop where
  playing : next.playing = event.hear e.playing
  events : next.graph.events = e.graph.events
  state : next.graph.state = e.graph.state

theorem handle_hears (event : Event) (e : Engine) : Hears event e (handle event e) := by
  cases event with
  | note severity source message details => exact ⟨rfl, rfl, rfl⟩
  | endOfStream => exact ⟨rfl, rfl, rfl⟩
  | stateChanged source old new top =>
      cases top with
      | false => exact ⟨rfl, rfl, rfl⟩
      | true => cases new <;> exact ⟨rfl, rfl, rfl⟩

structure Tells (e : Engine) : Prop where
  tolerant : e.refusals = {}
  announces : e.graph.Announces e.playing
  idle : e.constructed = false → e.playing = false

section Tells

variable (e next : Engine) (tells : e.Tells)

include tells

theorem tells_of_ledger (ledger : next.ledger = e.ledger) (playing : next.playing = e.playing)
    (announces : next.graph.Announces e.playing) : next.Tells where
  tolerant := Eq.trans (congrArg (·.refusals) ledger) tells.tolerant
  announces := playing ▸ announces
  idle := fun down => by
    have same : next.constructed = e.constructed := congrArg (·.constructed) ledger
    exact playing.trans (tells.idle (same.symm.trans down))

theorem tells_of_rewired (rewired : Rewired e next) : next.Tells :=
  tells_of_ledger e next tells rewired.ledger rewired.playing
    (Graph.wires_announces _ _ _ rewired.graph tells.announces)

theorem emit_tells (target : Target) (signal : Signal) : (e.emit target signal).2.Tells := by
  have ledger := emit_ledger target signal e
  have announces := Graph.emit_announces Site.sink e.graph e.site e.playing tells.announces target signal
  rw [emit] at ledger ⊢
  split
  · exact tells
  · next heard =>
      rw [if_neg heard] at ledger
      exact tells_of_ledger e _ tells ledger rfl announces

theorem set_graph_state_tells (state : PlayState) : (e.setGraphState state).2.Tells := by
  have ledger := congrArg Books.ledger (set_graph_state_books state e)
  have announces := Graph.set_state_announces Site.sink e.graph e.site e.playing tells.announces state
  rw [setGraphState] at ledger ⊢
  split
  · exact tells
  · next free =>
      rw [if_neg free] at ledger
      exact tells_of_ledger e _ tells ledger rfl announces

-- The graph stands still by then, so the events that wait do not set the flag again.
theorem halt_tells : e.halt.2.Tells := by
  have moved := set_graph_state_tells e tells .null
  have ended := Graph.set_state_ends Site.sink .null e.graph e.site
  have free : ¬ (e.refusals.stuck = true ∧ PlayState.null = .null) := by simp [tells.tolerant]
  rw [halt]
  rw [setGraphState, if_neg free] at moved ⊢
  rcases eq : e.graph.setState Site.sink .null e.site with ⟨x | u, g, site⟩
  · rw [eq] at moved
    exact moved
  · rw [eq] at moved ended
    have still : g.state = .null := ended.1
    have clears : Media.foretell e.playing g.events = false := by
      refine moved.announces.trans ?_
      change decide (g.state = .playing) = false
      simp [still]
    refine ⟨moved.tolerant, ?_, fun _ => rfl⟩
    change Media.foretell false g.events = decide (g.state = .playing)
    rw [foretell_lowered e.playing g.events clears]
    simp [still]

theorem poll_tells : e.poll.2.Tells := by
  rw [poll, Graph.popEvent]
  split
  · next built =>
      cases waiting : e.graph.events with
      | nil => exact tells
      | cons event rest =>
          have handled := handle_hears event { e with graph := { e.graph with events := rest } }
          have announces : Media.foretell e.playing (event :: rest) = decide (e.graph.state = .playing) :=
            waiting ▸ tells.announces
          have ledger := congrArg Books.ledger (handle_books event { e with graph := { e.graph with events := rest } })
          refine ⟨Eq.trans (congrArg (·.refusals) ledger) tells.tolerant, ?_, fun down => ?_⟩
          · rw [Graph.Announces]
            dsimp only
            rw [handled.playing, handled.events, handled.state]
            exact announces
          · have same : (handle event _).constructed = e.constructed := congrArg (·.constructed) ledger
            cases (same.symm.trans down).symm.trans built
  · exact tells

end Tells

theorem tells_frame : FlagFrame fun e next => e.Tells → next.Tells where
  refl := fun _ tells => tells
  trans := fun _ _ _ first second tells => second (first tells)
  ledger := fun e next graph _ constructed refusals playing tells =>
    ⟨refusals.trans tells.tolerant, graph ▸ playing ▸ tells.announces,
      fun down => playing.trans (tells.idle (constructed.symm.trans down))⟩
  attach := fun e tells => tells_of_rewired e _ tells ((rewired_stage .egress).attach_branch e)
  detach := fun e tells => tells_of_rewired e _ tells ((rewired_stage .egress).detach_branch e)
  emitAdd := fun endpoint e tells => emit_tells e tells _ (.addDestination endpoint)
  emitRemove := fun endpoint e tells => emit_tells e tells _ (.removeDestination endpoint)
  emitEnd := fun e tells => emit_tells e tells .graph .endOfStream
  query := fun e tells => tells_of_rewired e _ tells ⟨e.graph.query_wires, rfl, rfl⟩
  resolve := fun e tells => by
    have ledger := congrArg Books.ledger (resolve_recordings_books e)
    have graph := resolve_recordings_graph e
    have playing : e.resolveRecordings.2.playing = e.playing := by
      rw [resolveRecordings]
      dsimp only
      split <;> rfl
    exact tells_of_ledger e _ tells ledger playing (graph ▸ tells.announces)
  poll := poll_tells

/-! ### Construction and teardown -/

theorem fixed_stages_tell (e : Engine) (tells : e.Tells) : (runSteps fixedStages e).2.Tells := by
  apply run_steps_keeps Tells fixedStages _ e tells
  intro step member next kept
  simp only [fixedStages, List.mem_cons, List.not_mem_nil, or_false] at member
  rcases member with rfl | rfl | rfl | rfl | rfl | rfl | rfl | rfl | rfl
  · exact tells_of_rewired next _ kept ((rewired_stage ⟨captureName, .capture⟩).build next)
  · exact tells_of_rewired next _ kept ((rewired_stage ⟨captureName, .capture⟩).add next)
  · exact tells_of_rewired next _ kept ((rewired_stage ⟨fanOutName, .fanOut⟩).build next)
  · exact tells_of_rewired next _ kept ((rewired_stage ⟨fanOutName, .fanOut⟩).add next)
  · exact tells_of_rewired next _ kept ((rewired_stage ⟨recordingName, .recording⟩).build next)
  · exact tells_of_rewired next _ kept ((rewired_stage ⟨recordingName, .recording⟩).add next)
  · exact tells_of_rewired next _ kept ⟨next.graph.link_wires captureName fanOutName, rfl, rfl⟩
  · exact tells_of_rewired next _ kept ((rewired_stage ⟨recordingName, .recording⟩).link next)
  · exact set_graph_state_tells next kept .ready

theorem reset_graph_tells (e : Engine) (tolerant : e.refusals = {}) (lowered : e.playing = false) :
    e.resetGraph.Tells := by
  have willing : e.refusals.reset = false := by rw [tolerant]
  rw [resetGraph, willing, if_neg Bool.false_ne_true]
  exact ⟨tolerant, lowered, fun _ => lowered⟩

theorem construct_tells (e : Engine) (tells : e.Tells) : e.construct.2.Tells := by
  have told := fixed_stages_tell e tells
  have ledger := fixed_stages_ledger e
  rw [construct]
  cases built : e.constructed with
  | true => exact tells
  | false =>
      rcases eq : runSteps fixedStages e with ⟨x | u, next⟩
      · rw [eq] at told ledger
        have down : next.constructed = false := Eq.trans (congrArg (·.constructed) ledger) built
        exact reset_graph_tells next told.tolerant (told.idle down)
      · rw [eq] at told
        exact ⟨told.tolerant, told.announces, fun down => by cases down⟩

theorem teardown_tells (e : Engine) (tells : e.Tells) : e.teardown.Tells := by
  have willing : e.refusals.reset = false := by rw [tells.tolerant]
  rw [teardown, resetGraph, willing, if_neg Bool.false_ne_true]
  exact ⟨tells.tolerant, rfl, fun _ => rfl⟩

/-! ### Every operation -/

theorem step_tells (s : Step) (e : Engine) (tells : e.Tells) : (s.apply e).Tells := by
  have split : ∀ e : Engine, e.Tells → (e.emit (.stage recordingName) .splitAfter).2.Tells :=
    fun e tells => emit_tells e tells _ _
  have move : ∀ state (e : Engine), e.Tells → (e.setGraphState state).2.Tells :=
    fun state e tells => set_graph_state_tells e tells state
  rcases tells_frame.step split move halt_tells construct_tells s e with
    ⟨config, rfl⟩ | ⟨injection, rfl⟩ | ⟨disk, now, rfl⟩ | kept
  · exact tells_frame.set_config split move halt_tells construct_tells teardown_tells
      (fun _ _ tells => ⟨tells.tolerant, tells.announces, tells.idle⟩) config e tells
  · obtain ⟨lasting, once, same⟩ := injection.apply_points e.graph
    rw [Step.apply, same]
    exact ⟨tells.tolerant, tells.announces, tells.idle⟩
  · exact ⟨tells.tolerant, tells.announces, tells.idle⟩
  · exact kept tells

inductive Call where
  | step (s : Step)
  | attach (spec : StageSpec)
  | detach (name : String)
  | dump (tag : String)

def Call.apply : Call → Engine → Engine
  | .step s, e => s.apply e
  | .attach spec, e => (e.attachBranch spec).2
  | .detach name, e => (e.detachBranch name).2
  | .dump tag, e => e.dump tag

inductive Driven : Engine → Prop where
  | new (config : PipelineConfig) (disk : Disk) (now : Instant) : Driven (Engine.new config disk now)
  | call (e : Engine) (c : Call) (before : Driven e) : Driven (c.apply e)

theorem driven_of_reachable (allowed : Engine → Step → Prop) (e : Engine) (reached : Reachable allowed e) :
    Driven e := by
  induction reached with
  | new config disk now => exact .new config disk now
  | step e s _ _ ih => exact .call e (.step s) ih

theorem call_tells (c : Call) (e : Engine) (tells : e.Tells) : (c.apply e).Tells := by
  cases c with
  | step s => exact step_tells s e tells
  | attach spec => exact tells_of_rewired e _ tells ((rewired_stage spec).attach_branch e)
  | detach name => exact tells_of_rewired e _ tells ((rewired_stage ⟨name, .egress⟩).detach_branch e)
  | dump tag => exact ⟨tells.tolerant, tells.announces, tells.idle⟩

theorem driven_tells (e : Engine) (driven : Driven e) : e.Tells := by
  induction driven with
  | new config disk now => exact ⟨rfl, rfl, fun _ => rfl⟩
  | call e c _ ih => exact call_tells c e ih

theorem playing_flag_settles (e : Engine) (driven : Driven e) :
    (∀ next, e.constructed = true → e.poll = (none, next) →
        (next.playing = true ↔ next.graph.state = .playing)) ∧
      (e.constructed = false → e.playing = false) := by
  have tells := driven_tells e driven
  refine ⟨?_, tells.idle⟩
  intro next built polled
  rw [poll, if_pos built, Graph.popEvent] at polled
  cases waiting : e.graph.events with
  | cons event rest =>
      rw [waiting] at polled
      cases polled
  | nil =>
      rw [waiting] at polled
      cases polled
      -- With no event left, what the events foretell is the flag itself.
      have announces : Media.foretell e.playing e.graph.events = decide (e.graph.state = .playing) := tells.announces
      rw [waiting] at announces
      change e.playing = _ at announces
      rw [announces, decide_eq_true_iff]

-- A camera that cannot be stopped, all its events handled.
def unstoppable : Engine := run [.start, .inject (.failOn (.setState .null)), .stop, .poll, .poll] fresh

-- The same camera when it could be stopped again, but not rebuilt.
def collapsed : Engine :=
  run [.inject .clearAll, .inject (.failOn (.build recordingName)), .setConfig { width := 1280 }] unstoppable

theorem playing_flag_settles_unstoppable :
    (∃ next, unstoppable.poll = (none, next) ∧ next.playing = true ∧ next.graph.state = .playing) ∧
      collapsed.constructed = false ∧ collapsed.playing = false := by
  have reached : Reachable Orderly unstoppable := orderly_run _ fresh fresh_reachable (by simp)
  have driven := driven_of_reachable Orderly unstoppable reached
  have fallen := driven_of_reachable Orderly collapsed (orderly_run _ unstoppable reached (by simp))
  have settled : unstoppable.poll = (none, unstoppable.poll.2) := Prod.ext (by decide +kernel) rfl
  have plays : unstoppable.poll.2.graph.state = .playing := by decide +kernel
  have down : collapsed.constructed = false := by decide +kernel
  have shown := (playing_flag_settles unstoppable driven).1 _ (by decide +kernel) settled
  exact ⟨⟨_, settled, shown.mpr plays, plays⟩, down, (playing_flag_settles collapsed fallen).2 down⟩

end Engine

end CameraServer
