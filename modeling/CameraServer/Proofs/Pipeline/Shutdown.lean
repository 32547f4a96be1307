import CameraServer.Proofs.Pipeline.Footage
import Mathlib.Algebra.Group.Nat.Defs

/-!
The shutdown of a pipeline. Main statement: when nothing fails, a shutdown brings every pipeline to rest
and leaves the books alone, whatever waits in the queue of events; one that plays has its recording split
and the end of its stream announced first, and no other one is touched by a signal.
-/

set_option autoImplicit false

namespace CameraServer.Engine

open Media Recording

/-! ### Calls when nothing fails -/

theorem query_state_calm (e : Engine) (calm : e.graph.fails .stateQuery = false) :
    e.queryState = (.ok e.graph.state, e) := by
  rw [queryState, Graph.query, calm, if_neg Bool.false_ne_true]
  rfl

theorem runs_calm (e : Engine) (built : e.constructed = true) (calm : e.graph.fails .stateQuery = false) :
    e.runs = (decide (e.graph.state = .playing), e) := by
  rw [runs, isRunning, if_pos built, query_state_calm e calm]

theorem halt_calm (e : Engine) (tolerant : e.refusals = {}) (calm : e.graph.fails (.setState .null) = false) :
    e.halt = (.ok (), { e with graph := e.graph.moved .null, playing := false }) := by
  have loose : ¬ (e.refusals.stuck = true ∧ PlayState.null = .null) := by simp [tolerant]
  rw [halt, setGraphState, if_neg loose, Graph.setState, calm, if_neg Bool.false_ne_true]
  dsimp only
  rw [if_neg (by simp)]
  rfl

theorem settle_null (patient : Bool) (tries : Nat) (e : Engine) (calm : e.graph.fails .stateQuery = false)
    (null : e.graph.state = .null) : settle patient tries e = e := by
  cases tries with
  | zero => rfl
  | succ tries => rw [settle, query_state_calm e calm, null]

theorem emit_end_calm (e : Engine) (tolerant : e.refusals = {}) (calm : e.graph.fails (.signal "eos") = false) :
    e.emit .graph .endOfStream =
      (.ok (), { e with graph := (e.graph.pushEvent .endOfStream).logSignal .graph .endOfStream }) := by
  have heard : ¬ (e.refusals.endOfStreamLost = true ∧ Signal.endOfStream = .endOfStream) := by simp [tolerant]
  rw [emit, if_neg heard, Graph.emit, Signal.name, calm, if_neg Bool.false_ne_true]
  rfl

/-! ### The end of a recording -/

structure Overhears (e next : Engine) : Prop where
  stages : next.graph.stages = e.graph.stages
  signals : next.graph.signals = e.graph.signals
  fragments : next.graph.fragments = e.graph.fragments

theorem poll_overhears (e : Engine) : Overhears e e.poll.2 := by
  rw [poll]
  split
  · obtain ⟨events, popped⟩ := e.graph.pop_event_changes
    rcases eq : e.graph.popEvent with ⟨none | event, graph⟩
    · exact ⟨rfl, rfl, rfl⟩
    · rw [eq] at popped
      have taken : graph = { e.graph with events := events } := popped
      subst taken
      dsimp only
      unfold handle
      split
      · dsimp only
        split <;> exact ⟨rfl, rfl, rfl⟩
      · exact ⟨rfl, rfl, rfl⟩
  · exact ⟨rfl, rfl, rfl⟩

theorem poll_to_end_overhears (count : Nat) (e : Engine) : Overhears e (pollToEnd count e) := by
  induction count generalizing e with
  | zero => exact ⟨rfl, rfl, rfl⟩
  | succ count ih =>
      have first := poll_overhears e
      rw [pollToEnd]
      split
      · next eq =>
        rw [eq] at first
        exact first
      · next eq =>
        rw [eq] at first
        exact first
      · next event polled _ eq =>
        rw [eq] at first
        have rest := ih polled
        exact ⟨rest.stages.trans first.stages, rest.signals.trans first.signals, rest.fragments.trans first.fragments⟩

structure Finished (e next : Engine) : Prop where
  signals : next.graph.signals = e.graph.signals ++ [(.stage recordingName, .splitAfter), (.graph, .endOfStream)]
  turned : ∃ stage, e.graph.stage? recordingName = some stage ∧
    Graph.Turns (fun index path => Named e.site.now index.toNat path) e.graph next.graph stage.nextFragment

theorem served_recording (e : Engine) (egress : Option Egress) (served : e.Served egress) :
    ∃ stage, e.graph.stage? recordingName = some stage ∧ stage.kind = .recording := by
  have fitting : e.graph.layout.get? recordingName = some ⟨.recording, true, []⟩ := by
    rw [show e.graph.layout = (Outline.fixed egress e.graph.history).layout from
      congrArg Outline.layout served.outline]
    rfl
  rw [Graph.layout_get] at fitting
  obtain ⟨stage, read, fits⟩ := Option.map_eq_some_iff.mp fitting
  exact ⟨stage, read, congrArg Fitting.kind fits⟩

theorem served_index (e : Engine) (egress : Option Egress) (served : e.Served egress) (index : UInt32)
    (reels : e.graph.reels = [(recordingName, index)]) :
    ∃ stage, e.graph.stage? recordingName = some stage ∧ stage.nextFragment = index := by
  obtain ⟨stage, read, records⟩ := served_recording e egress served
  have single := Graph.loaded_reels e.graph (.inr ⟨index, reels⟩) stage read records
  rw [reels] at single
  simp only [List.cons.injEq, Prod.mk.injEq, true_and, and_true] at single
  exact ⟨stage, read, single.symm⟩

theorem split_now_calm (e : Engine) (built : e.constructed = true) (stage : Stage)
    (read : e.graph.stage? recordingName = some stage) (calm : e.graph.fails (.signal "split-after") = false) :
    ∃ next, e.splitNow = (.ok (), next) ∧ next.refusals = e.refusals ∧
      next.graph = (Graph.openFragment Site.sink recordingName e.graph e.site).1.logSignal (.stage recordingName)
        .splitAfter := by
  refine ⟨{ e with
    graph := (Graph.openFragment Site.sink recordingName e.graph e.site).1.logSignal (.stage recordingName) .splitAfter
    site := (Graph.openFragment Site.sink recordingName e.graph e.site).2 }, ?_, rfl, rfl⟩
  rw [splitNow, ifConstructed, if_pos built, emit, if_neg (by simp), Graph.emit, Signal.name, calm,
    if_neg Bool.false_ne_true]
  dsimp only
  rw [read]
  rfl

theorem finish_calm (patient : Bool) (e : Engine) (egress : Option Egress) (served : e.Served egress)
    (quiet : ∀ p, e.graph.fails p = false) : Finished e (e.finish patient) := by
  obtain ⟨stage, read, records⟩ := served_recording e egress served
  have single := Graph.loaded_reels e.graph (shaped_loaded _ _ _ (served_shaped e egress served)) stage read records
  have turned := Graph.open_fragment_turns e.graph _ Site.sink e.site (locate_named recordingName · e.site)
    stage read records single
  have wires := Graph.open_fragment_wires Site.sink recordingName e.graph e.site
  obtain ⟨one, split, refusals, graph⟩ := split_now_calm e served.built stage read (quiet _)
  generalize (Graph.openFragment Site.sink recordingName e.graph e.site).1 = g at turned wires graph
  have calm : one.graph.fails (.signal "eos") = false := by
    rw [graph]
    exact Graph.spends_quiet e.graph g (Graph.steady_of_wires _ _ wires).spends quiet _
  have ended := emit_end_calm one (refusals.trans served.tolerant) calm
  generalize announced : ({ one with
    graph := (one.graph.pushEvent .endOfStream).logSignal .graph .endOfStream } : Engine) = two at ended
  have heard : Overhears two (e.finish patient) := by
    rw [finish, split, ended]
    dsimp only
    split
    · exact poll_to_end_overhears _ two
    · exact ⟨rfl, rfl, rfl⟩
  have shown : two.graph.signals = g.signals ++ [(.stage recordingName, .splitAfter)] ++ [(.graph, .endOfStream)] ∧
      two.graph.stages = g.stages ∧ two.graph.fragments = g.fragments := by
    rw [← announced, graph]
    exact ⟨rfl, rfl, rfl⟩
  obtain ⟨signals, stages, fragments⟩ := shown
  constructor
  · rw [heard.signals, signals, wires.signals, List.append_assoc]
    rfl
  · have reels := congrArg (List.filterMap reel?) (heard.stages.trans stages)
    refine ⟨stage, read, turned.before, reels.trans turned.after, ?_⟩
    rw [heard.fragments, fragments]
    exact turned.fragments

theorem shutdown_calm (patient : Bool) (e last : Engine) (egress : Option Egress) (served : e.Served egress)
    (quiet : ∀ p, e.graph.fails p = false)
    (finished : last = if e.graph.state = .playing then e.finish patient else e) :
    e.shutdown patient = (.ok (), { last with graph := last.graph.moved .null, playing := false }) := by
  have spends : Graph.Spends e.graph last.graph := by
    rw [finished]
    split
    · exact spends_frame.flag.finish spends_frame.wraps spends_frame.emitSplit patient e
    · exact spends_frame.refl e
  have calm := Graph.spends_quiet e.graph last.graph spends quiet
  have tolerant : last.refusals = {} := by
    have books : last.books = e.books := by
      rw [finished]
      split
      · exact finish_books patient e
      · rfl
    exact (congrArg (·.ledger.refusals) books).trans served.tolerant
  rw [shutdown, if_pos served.built, runs_calm e served.built (quiet _)]
  simp only [decide_eq_true_eq, ← finished]
  rw [halt_calm last tolerant (calm _)]
  exact congrArg (Prod.mk _) (settle_null patient _ _ (calm _) rfl)

theorem shutdown_finalises (allowed : Engine → Step → Prop) (e : Engine) (reached : Reachable allowed e)
    (built : e.constructed = true) (quiet : ∀ p, e.graph.fails p = false) (queue : List Event) (patient : Bool) :
    ∃ next, shutdown patient { e with graph := { e.graph with events := queue } } = (.ok (), next) ∧
      next.graph.state = .null ∧
      (∀ entry ∈ next.graph.stages, entry.2.parented = true → entry.2.state = .null) ∧
      next.playing = false ∧ next.books = e.books ∧ next.graph.sink = e.graph.sink ∧
      (e.graph.state = .playing →
        next.graph.signals = e.graph.signals ++ [(.stage recordingName, .splitAfter), (.graph, .endOfStream)] ∧
          ∃ stage last, e.graph.stage? recordingName = some stage ∧ next.graph.stage? recordingName = some last ∧
            last.nextFragment = stage.nextFragment + 1 ∧
            (stage.nextFragment.toNat < 2 ^ 32 - 1 → last.nextFragment.toNat = stage.nextFragment.toNat + 1)) ∧
      (e.graph.state ≠ .playing →
        next.graph.signals = e.graph.signals ∧ next.graph.fragments = e.graph.fragments ∧
          next.graph.reels = e.graph.reels) := by
  obtain ⟨egress, started, _⟩ := sound_served e (reachable_sound allowed e reached) built
  generalize queued : ({ e with graph := { e.graph with events := queue } } : Engine) = f
  obtain ⟨same, state, signals, stages, fragments⟩ : f.books = e.books ∧ f.graph.state = e.graph.state ∧
      f.graph.signals = e.graph.signals ∧ f.graph.stages = e.graph.stages ∧ f.graph.fragments = e.graph.fragments := by
    rw [← queued]
    exact ⟨rfl, rfl, rfl, rfl, rfl⟩
  have calm : ∀ p, f.graph.fails p = false := by
    rw [← queued]
    exact quiet
  have served := served_of_books e f egress same started
  have books := (shutdown_books patient f).trans same
  have done := shutdown_calm patient f _ egress served calm rfl
  generalize ended : (if f.graph.state = .playing then f.finish patient else f) = last at done
  rw [done] at books
  have gathered := Graph.moved_in_step (fun _ => True) last.graph .null
  have film := Graph.moved_footage last.graph .null
  have layout : (last.graph.moved .null).layout = e.graph.layout := congrArg (·.outline.layout) books
  refine ⟨_, done, rfl, fun entry member placed => gathered entry member trivial placed, rfl, books, ?_, ?_, ?_⟩
  · change (last.graph.moved .null).sink = e.graph.sink
    rw [Graph.sink_layout, Graph.sink_layout, layout]
  · intro plays
    rw [← state] at plays
    rw [if_pos plays] at ended
    obtain ⟨sent, stage, read, turned⟩ := finish_calm patient f egress served calm
    rw [ended] at sent turned
    have reels := (congrArg Footage.reels film).trans turned.after
    obtain ⟨other, found, index⟩ := served_index _ egress (served_of_books e _ egress books started) _ reels
    rw [Graph.stage?, stages] at read
    refine ⟨by rw [← signals]; exact sent, stage, other, read, found, index, fun small => ?_⟩
    rw [index, UInt32.toNat_add, UInt32.toNat_one, Nat.mod_eq_of_lt (by omega)]
  · intro rests
    rw [← state] at rests
    rw [if_neg rests] at ended
    subst ended
    refine ⟨signals, (congrArg Footage.fragments film).trans fragments, ?_⟩
    exact (congrArg Footage.reels film).trans (congrArg (List.filterMap reel?) stages)

-- A pipeline that records, and whose queue tells of the end of an older stream and of a pause.
theorem shutdown_finalises_stale :
    Reachable Orderly recording ∧ recording.graph.state = .playing ∧ recording.destinations = [⟨"10.0.0.1", 5000⟩] ∧
      ∃ next, shutdown true { recording with graph := { recording.graph with
          events := [.stateChanged graphName .playing .paused true, .endOfStream] } } = (.ok (), next) ∧
        next.graph.state = .null ∧ next.playing = false ∧ next.books = recording.books := by
  have plain : ∀ p, recording.graph.fails p = false := by
    have lasting : recording.graph.failures = [] := by decide
    have once : recording.graph.oneShot = [] := by decide
    simp [Graph.fails, lasting, once]
  obtain ⟨next, done, null, _, flag, books, _⟩ :=
    shutdown_finalises Orderly recording recording_reachable (by decide) plain
      [.stateChanged graphName .playing .paused true, .endOfStream] true
  exact ⟨recording_reachable, by decide, by decide, next, done, null, flag, books⟩

end CameraServer.Engine
