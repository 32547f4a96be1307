import CameraServer.Proofs.Media.Calls

/-!
What building, moving and joining stages leaves alone. Main statements: none of these calls changes the
state of the graph, its events or its records of signals and destination lists, and failure points are
only spent.
-/

set_option autoImplicit false

namespace CameraServer.Media.Graph

structure Wires (g next : Graph) : Prop where
  state : next.state = g.state
  events : next.events = g.events
  signals : next.signals = g.signals
  history : next.history = g.history
  failures : next.failures = g.failures
  once : next.oneShot.Sublist g.oneShot

theorem wires_refl (g : Graph) : Wires g g := ⟨rfl, rfl, rfl, rfl, rfl, List.Sublist.refl _⟩

theorem wires_trans (g middle next : Graph) (first : Wires g middle) (second : Wires middle next) :
    Wires g next where
  state := second.state.trans first.state
  events := second.events.trans first.events
  signals := second.signals.trans first.signals
  history := second.history.trans first.history
  failures := second.failures.trans first.failures
  once := second.once.trans first.once

section Calls

variable (g : Graph) (name up down : String)

theorem modify_wires (f : Stage → Stage) : Wires g (g.modifyStage name f) :=
  ⟨rfl, rfl, rfl, rfl, rfl, List.Sublist.refl _⟩

theorem refused_wires (p : FailPoint) (next : Graph) (refused : g.Refused p next) : Wires g next := by
  cases refused with
  | inl same => exact same ▸ wires_refl g
  | inr spent =>
      rw [spent, spend]
      split
      · exact wires_refl g
      · exact ⟨rfl, rfl, rfl, rfl, rfl, List.filter_sublist⟩

theorem wires_of_ends (r : Except GraphError Unit × Graph) (good : Graph → Prop) (p : FailPoint)
    (ended : Ends r good (g.Refused p)) (wired : ∀ next, good next → Wires g next) : Wires g r.2 :=
  state_of_ends r good _ (Wires g) ended wired (g.refused_wires p)

theorem build_wires (spec : StageSpec) : Wires g (g.build spec).2 := by
  apply g.wires_of_ends _ _ _ (g.build_changes spec)
  intro next built
  rw [built.2]
  exact ⟨rfl, rfl, rfl, rfl, rfl, List.Sublist.refl _⟩

theorem add_wires : Wires g (g.add name).2 := by
  apply g.wires_of_ends _ _ _ (g.add_changes name)
  intro next added
  rw [added]
  exact g.modify_wires name _

theorem remove_wires : Wires g (g.remove name).2 := by
  apply g.wires_of_ends _ _ _ (g.remove_changes name)
  intro next removed
  rw [removed]
  exact ⟨rfl, rfl, rfl, rfl, rfl, List.Sublist.refl _⟩

theorem link_wires : Wires g (g.link up down).2 := by
  apply g.wires_of_ends _ _ _ (g.link_changes up down)
  intro next linked
  rw [linked.2]
  exact ⟨rfl, rfl, rfl, rfl, rfl, List.Sublist.refl _⟩

theorem unlink_wires : Wires g (g.unlink up down).2 := by
  apply g.wires_of_ends _ _ _ (g.unlink_changes up down)
  intro next unlinked
  rw [unlinked]
  exact ⟨rfl, rfl, rfl, rfl, rfl, List.Sublist.refl _⟩

theorem release_wires : Wires g (g.release name).2 := by
  apply state_of_ends _ _ _ (Wires g) (g.release_changes name)
  · intro next released
    rw [released.2]
    exact ⟨rfl, rfl, rfl, rfl, rfl, List.Sublist.refl _⟩
  · intro next kept
    rw [kept]
    exact wires_refl g

theorem set_stage_state_wires (state : PlayState) : Wires g (g.setStageState name state).2 := by
  apply state_of_ends _ _ _ (Wires g) (g.set_stage_state_changes name state)
  · intro next moved
    rw [moved]
    exact g.modify_wires name _
  · intro next kept
    rw [kept]
    exact wires_refl g

theorem query_wires : Wires g g.query.2 := by
  apply state_of_ends _ _ _ (Wires g) g.query_changes
  · intro next same
    rw [same]
    exact wires_refl g
  · exact g.refused_wires _

end Calls

/-! ### Fragments -/

section Sink

variable {σ : Type} (sink : FragmentSink σ) (name : String)

theorem open_fragment_wires (g : Graph) (s : σ) : Wires g (openFragment sink name g s).1 := by
  rcases g.open_fragment_changes name sink s with same | ⟨_, _, _, one | ⟨path, _, one⟩⟩
  · rw [same]
    exact wires_refl g
  · rw [one]
    exact g.modify_wires name _
  · rw [one]
    exact ⟨rfl, rfl, rfl, rfl, rfl, List.Sublist.refl _⟩

theorem open_first_fragment_wires (gs : Graph × σ) : Wires gs.1 (openFirstFragment sink gs name).1 := by
  cases open_first_fragment_changes name sink gs with
  | inl same =>
      rw [same]
      exact wires_refl gs.1
  | inr opened =>
      rw [opened]
      exact open_fragment_wires sink name gs.1 gs.2

theorem open_each_wires (names : List String) (gs : Graph × σ) :
    Wires gs.1 (names.foldl (openFirstFragment sink) gs).1 := by
  induction names generalizing gs with
  | nil => exact wires_refl gs.1
  | cons name rest ih => exact wires_trans _ _ _ (open_first_fragment_wires sink name gs) (ih _)

theorem sync_wires (g : Graph) (s : σ) : Wires g (sync sink name g s).2.1 := by
  have synced := g.modify_wires name fun st => { st with state := g.state }
  apply state_of_ends _ _ _ (Wires g ·.1) (g.sync_changes name sink s)
  · intro next ended
    cases ended with
    | inl same =>
        rw [same]
        exact synced
    | inr opened =>
        rw [opened]
        exact wires_trans _ _ _ synced (open_first_fragment_wires sink name (_, s))
  · exact fun next refused => g.refused_wires _ next.1 refused.1

/-! ### Failures that fire once -/

theorem pop_event_once (g : Graph) : g.popEvent.2.oneShot = g.oneShot := by
  obtain ⟨events, popped⟩ := g.pop_event_changes
  rw [popped]

theorem emit_once (target : Target) (signal : Signal) (g : Graph) (s : σ) :
    (emit sink target signal g s).2.1.oneShot.Sublist g.oneShot := by
  apply state_of_ends _ _ _ (·.1.oneShot.Sublist g.oneShot) (g.emit_changes sink s target signal)
  · rintro next (⟨_, changed⟩ | ⟨_, _, _, _, _, _, changed⟩ | ⟨name, _, _, changed⟩)
    · rw [changed]
      exact List.Sublist.refl _
    · rw [changed]
      exact List.Sublist.refl _
    · rw [changed]
      exact (open_fragment_wires sink name g s).once
  · exact fun next refused => (g.refused_wires _ next.1 refused.1).once

end Sink

end CameraServer.Media.Graph
