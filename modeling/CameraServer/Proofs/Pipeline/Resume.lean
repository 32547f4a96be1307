import CameraServer.Proofs.Media.Faults
import CameraServer.Proofs.Pipeline.Frame
import CameraServer.Proofs.Pipeline.Sound

/-!
What a change of the configuration leaves the graph doing. Main statements: a rebuild that ends well
plays just when it was meant to resume, a change that ends well keeps a graph playing unless the
question whether it plays goes unanswered, and such an unanswered question stops the recording.
-/

set_option autoImplicit false

namespace CameraServer.Engine

open Media

/-! ### Calls that leave the state of the graph alone -/

theorem steady_graph_frame : GraphFrame (fun _ => True) Graph.Steady where
  refl := Graph.steady_refl
  trans := Graph.steady_trans
  build := Graph.build_steady
  add := fun g name _ => Graph.add_steady g name
  remove := Graph.remove_steady
  release := Graph.release_steady
  link := Graph.link_steady
  unlink := Graph.unlink_steady
  setStage := fun g name state _ => Graph.set_stage_state_steady g name state
  sync := fun name g s _ => Graph.sync_steady Site.sink name g s
  query := Graph.query_steady
  emit := Graph.emit_steady Site.sink
  dump := fun g _ => Graph.steady_of_points g _ rfl rfl rfl
  pop := Graph.pop_event_steady

theorem steady_frame : BranchFrame fun e next => Graph.Steady e.graph next.graph :=
  (graph_frame _ _ steady_graph_frame).branches trivial

/-! ### Failures are only spent -/

theorem spends_calls : Frame (fun _ => True) fun e next => Graph.Spends e.graph next.graph :=
  graph_frame _ _ (graph_frame_mono _ _ _ steady_graph_frame (fun _ _ steady => steady.spends) Graph.spends_trans)

theorem spends_frame : BranchFrame fun e next => Graph.Spends e.graph next.graph := spends_calls.branches trivial

theorem set_graph_state_spends (state : PlayState) (e : Engine) :
    Graph.Spends e.graph (e.setGraphState state).2.graph := by
  rw [setGraphState]
  split
  · exact fun _ fails => fails
  · exact state_of_ends _ _ _ (fun next : Graph × Site => Graph.Spends e.graph next.1)
      (Graph.set_state_ends Site.sink state e.graph e.site) (fun _ moved => moved.2) fun _ kept => kept.spends

theorem reset_graph_spends (e : Engine) : Graph.Spends e.graph e.resetGraph.graph := by
  rw [resetGraph]
  split
  · exact fun _ fails => fails
  · exact Graph.spends_of_points _ _ rfl rfl

theorem construct_spends (e : Engine) : Graph.Spends e.graph e.construct.2.graph :=
  spends_calls.construct (fun _ => trivial) (set_graph_state_spends .ready) reset_graph_spends e

theorem teardown_spends (e : Engine) : Graph.Spends e.graph e.teardown.graph :=
  spends_calls.teardown reset_graph_spends e

theorem set_config_spends (config : PipelineConfig) (e : Engine) :
    Graph.Spends e.graph (e.setConfig config).2.graph :=
  spends_frame.set_config set_graph_state_spends construct_spends teardown_spends
    (fun _ _ _ fails => fails) config e

/-! ### Moving the graph -/

theorem set_graph_state_ends (state : PlayState) (e : Engine) (moves : state ≠ .null) :
    Ends (e.setGraphState state) (·.graph.state = state) (fun next => Graph.Steady e.graph next.graph) := by
  have ended := Graph.set_state_ends Site.sink state e.graph e.site
  rw [setGraphState, if_neg (fun both => moves both.2)]
  rcases eq : Graph.setState Site.sink state e.graph e.site with ⟨x | u, g, s⟩
  · rw [eq] at ended
    exact ended
  · rw [eq] at ended
    exact ended.1

theorem query_state_answer (e next : Engine) (state : PlayState) (asked : e.queryState = (.ok state, next)) :
    state = e.graph.state ∧ next = e := by
  rw [queryState, Graph.query] at asked
  split at asked
  · cases asked
  · cases asked
    exact ⟨rfl, rfl⟩

theorem move_to_ends (state : PlayState) (e : Engine) (moves : state ≠ .null) :
    Ends (e.moveTo state) (·.graph.state = state) (fun _ => True) := by
  have moved : ∀ next : Engine, Ends (next.setGraphState state) (·.graph.state = state) (fun _ => True) :=
    fun next => ends_mono _ _ _ _ _ (set_graph_state_ends state next moves) (fun _ at_ => at_) fun _ _ => trivial
  rw [moveTo]
  rcases eq : e.queryState with ⟨x | current, next⟩
  · exact moved next
  · obtain ⟨rfl, rfl⟩ := query_state_answer e next current eq
    dsimp only
    split
    · rename_i there
      exact there
    · exact moved next

theorem start_plays (e : Engine) : Ends e.start (·.graph.state = .playing) (fun _ => True) := by
  apply if_constructed_ends e
  · exact fun _ => trivial
  · intro _
    apply Outcome.next_ends _ _ (fun _ => True)
    · exact ends_of_state _ (fun _ => True) _ _ trivial (fun _ _ => trivial) (fun _ _ => trivial)
    · exact fun next _ => move_to_ends .playing next (by simp)

/-! ### Bringing the graph down -/

theorem set_graph_state_refused (state : PlayState) (e next : Engine) (x : PipelineError)
    (refused : e.setGraphState state = (.error x, next)) :
    x = .graph (.stateChange .graph state) ∧ Graph.Steady e.graph next.graph := by
  rw [setGraphState] at refused
  split at refused
  · cases refused
  · rcases eq : Graph.setState Site.sink state e.graph e.site with ⟨y | u, g, s⟩
    · rw [eq] at refused
      cases refused
      obtain ⟨rfl, kept⟩ := Graph.set_state_refused Site.sink state e.graph e.site _ _ eq
      exact ⟨rfl, kept⟩
    · rw [eq] at refused
      cases refused

theorem halt_refused (e next : Engine) (x : PipelineError) (refused : e.halt = (.error x, next)) :
    x = .graph (.stateChange .graph .null) ∧ Graph.Steady e.graph next.graph := by
  rw [halt] at refused
  rcases eq : e.setGraphState .null with ⟨y | u, moved⟩
  · rw [eq] at refused
    cases refused
    exact set_graph_state_refused .null e next x eq
  · rw [eq] at refused
    cases refused

-- The one thing that can keep a pipeline from being shut down.
theorem shutdown_refused (patient : Bool) (e next : Engine) (x : PipelineError)
    (refused : e.shutdown patient = (.error x, next)) :
    x = .graph (.stateChange .graph .null) ∧ Graph.Steady e.graph next.graph := by
  have asked := steady_frame.flag.runs e
  rw [shutdown] at refused
  split at refused
  · rcases eq : e.runs with ⟨running, middle⟩
    rw [eq] at asked refused
    have finished : Graph.Steady e.graph (if running then middle.finish patient else middle).graph := by
      split
      · have finish := steady_frame.flag.finish steady_frame.wraps steady_frame.emitSplit patient middle
        exact Graph.steady_trans _ _ _ asked finish
      · exact asked
    dsimp only at refused
    rcases halted : (if running then middle.finish patient else middle).halt with ⟨y | u, last⟩
    · rw [halted] at refused
      cases refused
      obtain ⟨cause, kept⟩ := halt_refused _ next x halted
      exact ⟨cause, Graph.steady_trans _ _ _ finished kept⟩
    · rw [halted] at refused
      cases refused
  · cases refused

theorem dismantle_refused (e next : Engine) (x : PipelineError) (refused : e.dismantle = (.error x, next)) :
    x = .graph (.stateChange .graph .null) ∧ next.constructed = true ∧ Graph.Steady e.graph next.graph := by
  have same := dismantle_roster e
  rw [refused] at same
  have still : next.constructed = e.constructed := congrArg Roster.constructed same
  rw [dismantle] at refused
  split at refused
  · rename_i built
    rcases eq : e.shutdown true with ⟨y | u, down⟩
    · rw [eq] at refused
      cases refused
      obtain ⟨cause, kept⟩ := shutdown_refused true e next x eq
      exact ⟨cause, still.trans built, kept⟩
    · rw [eq] at refused
      cases refused
  · cases refused

theorem teardown_null (e : Engine) (tolerant : e.refusals = {}) : e.teardown.graph.state = .null := by
  simp only [teardown, resetGraph, tolerant, Bool.false_eq_true, if_false]
  rfl

/-! ### The rebuild -/

theorem run_steps_append (first second : List (Engine → Outcome Unit)) (e : Engine) :
    runSteps (first ++ second) e = (runSteps first e).next (runSteps second) := by
  induction first generalizing e with
  | nil => rfl
  | cons step rest ih =>
      rw [List.cons_append, runSteps, runSteps]
      rcases step e with ⟨x | u, next⟩
      · rfl
      · exact ih next

theorem run_fixed_stages (e : Engine) (good : Engine → Prop)
    (last : ∀ next, Ends (setGraphState .ready next) good (fun _ => True)) :
    Ends (runSteps fixedStages e) good (fun _ => True) := by
  rw [show fixedStages = fixedStages.take 8 ++ [setGraphState .ready] from rfl, run_steps_append]
  apply Outcome.next_ends _ _ (fun _ => True)
  · exact ends_of_state _ (fun _ => True) _ _ trivial (fun _ _ => trivial) (fun _ _ => trivial)
  · intro next _
    exact Outcome.next_ends _ _ good _ _ (last next) fun _ done => done

theorem construct_ready (e : Engine) (idle : e.constructed = false) (tolerant : e.refusals = {}) :
    Ends e.construct (·.graph.state = .ready) (·.graph.state = .null) := by
  have kept := fixed_stages_ledger e
  have moved : Ends (runSteps fixedStages e) (·.graph.state = .ready) (fun _ => True) := by
    apply run_fixed_stages
    intro next
    exact ends_mono _ _ _ _ _ (set_graph_state_ends .ready next (by simp)) (fun _ at_ => at_) fun _ _ => trivial
  rw [construct, idle, if_neg (by simp)]
  rcases eq : runSteps fixedStages e with ⟨x | u, next⟩
  · rw [eq] at kept
    have willing : next.refusals.reset = false := by
      rw [show next.refusals = {} from (congrArg (·.refusals) kept).trans tolerant]
    simp only [resetGraph, willing, Bool.false_eq_true, if_false]
    rfl
  · rw [eq] at moved
    exact moved

theorem rebuild_state (resume : Bool) (e : Engine) (down : e.Down) :
    Ends (e.rebuild resume) (·.graph.state = if resume then .playing else .ready) (·.graph.state = .null) := by
  have ready := construct_ready e down.idle down.tolerant
  have built := construct_ends e down
  rw [rebuild]
  rcases eq : e.construct with ⟨x | u, begun⟩
  · rw [eq] at ready
    exact ready
  · rw [eq] at ready built
    have tolerant : begun.refusals = {} := built.1.tolerant
    have filled := steady_frame.flag.restore begun.destinations { begun with destinations := [] }
    have same := restore_roster begun.destinations { begun with destinations := [] }
    generalize held : restore begun.destinations { begun with destinations := [] } = full at filled same
    simp only [Outcome.next, held]
    cases resume with
    | false => exact filled.state.trans ready
    | true =>
        have plays := start_plays full
        have kept := congrArg (·.ledger.refusals) (start_books full)
        rcases eq : full.start with ⟨x | u, last⟩
        · rw [eq] at kept
          have same : last.refusals = {} := kept.trans ((congrArg (·.refusals) same).trans tolerant)
          exact teardown_null last same
        · rw [eq] at plays
          exact plays

theorem retry_rebuild_state (config : PipelineConfig) (resume : Bool) (e : Engine) (down : e.Down) :
    Ends (e.retryRebuild config resume)
      (·.graph.state = if resume then .playing else .ready) (·.graph.state = .null) := by
  have begun := adopt_down config resume e down
  have rebuilt := rebuild_state resume _ begun
  rw [retryRebuild]
  rcases ends_cases _ _ _ rebuilt with ⟨next, eq, done⟩ | ⟨x, next, eq, gone⟩
  · rw [eq]
    exact done
  · rw [eq]
    exact gone

theorem set_config_state (config : PipelineConfig) (e : Engine) (sound : e.Sound) :
    Ends (e.setConfig config)
      (fun next => next.graph.state =
        if e.needsRebuild config then (if e.resumes.1 then .playing else .ready) else e.graph.state)
      (fun next => next.graph.state = if next.constructed then e.graph.state else .null) := by
  rw [set_config_stages]
  cases needed : e.needsRebuild config with
  | false => exact rfl
  | true =>
      have asked := sound_of_books e e.resumes.2 (resumes_books e) sound
      have steady := steady_frame.flag.resumes e
      simp only [if_true]
      rcases ends_cases _ _ _ (dismantle_ends e.resumes.2 asked) with ⟨gone, eq, down⟩ | ⟨x, next, eq, _⟩
      · rw [eq]
        have state := retry_rebuild_state config e.resumes.1 gone down
        have ended := retry_rebuild_ends config e.resumes.1 gone down
        dsimp only [Outcome.next]
        rcases result : gone.retryRebuild config e.resumes.1 with ⟨x | u, last⟩
        · rw [result] at state ended
          have idle : last.constructed = false := ended.1.idle
          change last.graph.state = if last.constructed then _ else _
          rw [idle]
          exact state
        · rw [result] at state
          exact state
      · obtain ⟨_, here, kept⟩ := dismantle_refused _ next x eq
        rw [eq]
        change next.graph.state = if next.constructed then _ else _
        rw [here]
        exact kept.state.trans steady.state

/-! ### Playing on -/

theorem runs_answered (e : Engine) (built : e.constructed = true) :
    e.runs.1 = (!e.graph.fails .stateQuery && decide (e.graph.state = .playing)) := by
  rw [runs, isRunning, if_pos built, queryState, Graph.query]
  cases fails : e.graph.fails .stateQuery with
  | true => rfl
  | false => rfl

theorem set_config_keeps_playing_iff (allowed : Engine → Step → Prop) (config : PipelineConfig)
    (e : Engine) (reached : Reachable allowed e) (built : e.constructed = true) (waiting : e.pending = none)
    (plays : e.graph.state = .playing) (done : (e.setConfig config).1 = .ok ()) :
    (e.setConfig config).2.graph.state = .playing ↔
      (e.config.requiresRebuild config = true → e.graph.fails .stateQuery = false) := by
  have state := set_config_state config e (reachable_sound allowed e reached)
  have resumed : e.resumes.1 = !e.graph.fails .stateQuery := by
    rw [resumes, waiting]
    dsimp only
    rw [runs_answered e built]
    simp [plays]
  have needed : e.needsRebuild config = e.config.requiresRebuild config := by
    simp [needsRebuild, rebuildPending, waiting, built]
  rw [needed, resumed, plays] at state
  rcases eq : e.setConfig config with ⟨x | u, next⟩
  · rw [eq] at done
    cases done
  · rw [eq] at state
    change next.graph.state = _ at state
    change next.graph.state = _ ↔ _
    rw [state]
    cases e.config.requiresRebuild config <;> cases e.graph.fails .stateQuery <;> simp

def recording : Engine := run [.start, .addEndpoint ⟨"10.0.0.1", 5000⟩] fresh

-- The same camera when the recording cannot be split and the viewer cannot be added back.
def troubled : Engine :=
  run [.inject (.failOn (.signal "split-after")), .inject (.failOnce (.signal "add"))] recording

theorem recording_reachable : Reachable Orderly recording := orderly_run _ fresh fresh_reachable (by simp)

theorem set_config_keeps_playing_iff_troubled :
    Reachable Orderly troubled ∧ troubled.constructed = true ∧ troubled.pending = none ∧
      (troubled.setConfig { width := 1280 }).1 = .ok () ∧
      (troubled.setConfig { width := 1280 }).2.graph.state = .playing := by
  have reached : Reachable Orderly troubled := orderly_run _ recording recording_reachable (by simp)
  have done : (troubled.setConfig { width := 1280 }).1 = .ok () := by decide +kernel
  have plays := set_config_keeps_playing_iff Orderly { width := 1280 } troubled reached (by decide +kernel)
    (by decide +kernel) (by decide +kernel) done
  exact ⟨reached, by decide +kernel, by decide +kernel, done, plays.mpr fun _ => by decide +kernel⟩

-- The same camera when it does not answer in which state it is, once.
def unanswered : Engine := run [.inject (.failOnce .stateQuery)] recording

theorem set_config_stops_recording :
    Reachable Orderly unanswered ∧ unanswered.constructed = true ∧ unanswered.pending = none ∧
      unanswered.graph.state = .playing ∧ (unanswered.setConfig { width := 1280 }).1 = .ok () ∧
      (unanswered.setConfig { width := 1280 }).2.graph.state = .ready :=
  ⟨orderly_run _ recording recording_reachable (by simp), by decide +kernel, by decide +kernel,
    by decide +kernel, by decide +kernel, by decide +kernel⟩

end CameraServer.Engine
