import CameraServer.Proofs.Media.Faults

/-!
Stages in step with the graph. Main statements: moving the graph brings its stages along, synchronising
a stage makes up for its having been behind, and a call on one stage puts no other one out of step.
-/

set_option autoImplicit false

namespace CameraServer.Media.Graph

def InStep (counts : String → Prop) (g : Graph) : Prop :=
  ∀ entry ∈ g.stages, counts entry.1 → entry.2.parented = true → entry.2.state = g.state

section InStep

variable (counts : String → Prop) (name : String) (g next : Graph)

theorem in_step_of_stages (stages : next.stages = g.stages) (state : next.state = g.state)
    (before : InStep counts g) : InStep counts next := by
  intro entry member counted placed
  rw [state]
  exact before entry (stages ▸ member) counted placed

theorem spend_stages (p : FailPoint) : (g.spend p).stages = g.stages := by
  rw [spend]
  split <;> rfl

theorem refused_stages (p : FailPoint) (refused : g.Refused p next) : next.stages = g.stages := by
  rcases refused with rfl | rfl
  · rfl
  · exact spend_stages g p

theorem refused_in_step (p : FailPoint) (refused : g.Refused p next) (before : InStep counts g) :
    InStep counts next :=
  in_step_of_stages counts g next (refused_stages g next p refused) (refused_steady g p next refused).state before

theorem modify_in_step (f : Stage → Stage) (before : InStep counts g)
    (changed : counts name → ∀ stage, (name, stage) ∈ g.stages → (f stage).parented = true →
      (f stage).state = g.state) :
    InStep counts (g.modifyStage name f) := by
  intro entry member counted placed
  obtain ⟨old, here, rfl⟩ := List.mem_map.mp member
  by_cases same : old.1 = name
  · rw [if_pos same] at counted placed ⊢
    exact changed counted old.2 (same ▸ here) placed
  · rw [if_neg same] at counted placed ⊢
    exact before old here counted placed

theorem modify_aside_in_step (f : Stage → Stage) (parented : ∀ stage, (f stage).parented = stage.parented)
    (state : ∀ stage, (f stage).state = stage.state) (before : InStep counts g) :
    InStep counts (g.modifyStage name f) := by
  apply modify_in_step counts name g f before
  intro counted stage member placed
  rw [parented] at placed
  rw [state]
  exact before (name, stage) member counted placed

theorem stage_member (stage : Stage) (read : g.stage? name = some stage) : (name, stage) ∈ g.stages :=
  under_member g.stages name stage read

/-! ### Calls on stages and links -/

theorem remove_in_step (before : InStep counts g) : InStep counts (g.remove name).2 := by
  apply state_of_ends _ _ _ (InStep counts) (g.remove_changes name)
  · rintro _ rfl
    have floats := modify_in_step counts name g (fun s => { s with parented := false }) before
    exact floats fun _ stage _ placed => (Bool.false_ne_true placed).elim
  · exact fun next refused => refused_in_step counts g next _ refused before

theorem build_in_step (spec : StageSpec) (before : InStep counts g) : InStep counts (g.build spec).2 := by
  apply state_of_ends _ _ _ (InStep counts) (g.build_changes spec)
  · rintro _ ⟨_, rfl⟩ entry member counted placed
    rcases List.mem_append.mp member with old | new
    · exact before entry old counted placed
    · -- What has just been built floats.
      rw [List.mem_singleton.mp new] at placed
      cases placed
  · exact fun next refused => refused_in_step counts g next _ refused before

theorem release_in_step (before : InStep counts g) : InStep counts (g.release name).2 := by
  apply state_of_ends _ _ _ (InStep counts) (g.release_changes name)
  · rintro _ ⟨_, rfl⟩ entry member
    exact before entry (List.mem_filter.mp member).1
  · rintro _ rfl
    exact before

theorem add_aside_in_step (aside : ¬ counts name) (before : InStep counts g) : InStep counts (g.add name).2 := by
  apply state_of_ends _ _ _ (InStep counts) (g.add_changes name)
  · rintro _ rfl
    exact modify_in_step counts name g _ before fun counted => absurd counted aside
  · exact fun next refused => refused_in_step counts g next _ refused before

theorem set_stage_state_aside_in_step (state : PlayState) (aside : ¬ counts name) (before : InStep counts g) :
    InStep counts (g.setStageState name state).2 := by
  apply state_of_ends _ _ _ (InStep counts) (g.set_stage_state_changes name state)
  · rintro _ rfl
    exact modify_in_step counts name g _ before fun counted => absurd counted aside
  · rintro _ rfl
    exact before

theorem link_stages (up down : String) : (g.link up down).2.stages = g.stages := by
  apply state_of_ends _ _ _ (·.stages = g.stages) (g.link_changes up down)
  · rintro _ ⟨_, rfl⟩
    rfl
  · exact fun next refused => refused_stages g next _ refused

theorem unlink_stages (up down : String) : (g.unlink up down).2.stages = g.stages := by
  apply state_of_ends _ _ _ (·.stages = g.stages) (g.unlink_changes up down)
  · rintro _ rfl
    rfl
  · exact fun next refused => refused_stages g next _ refused

theorem query_stages : g.query.2.stages = g.stages := by
  apply state_of_ends _ _ _ (·.stages = g.stages) g.query_changes
  · rintro _ rfl
    rfl
  · exact fun next refused => refused_stages g next _ refused

theorem pop_event_stages : g.popEvent.2.stages = g.stages := by
  obtain ⟨events, popped⟩ := g.pop_event_changes
  rw [popped]

section Sink

variable {σ : Type} (sink : FragmentSink σ) (s : σ)

theorem open_fragment_in_step (before : InStep counts g) :
    InStep counts (openFragment sink name g s).1 := by
  have numbered : InStep counts (g.advance name) :=
    modify_aside_in_step counts name g _ (fun _ => rfl) (fun _ => rfl) before
  rcases g.open_fragment_changes name sink s with same | ⟨_, _, _, one | ⟨path, _, one⟩⟩
  · rw [same]
    exact before
  · rw [one]
    exact numbered
  · rw [one]
    exact numbered

theorem open_first_fragment_in_step (gs : Graph × σ) (before : InStep counts gs.1) :
    InStep counts (openFirstFragment sink gs name).1 := by
  rcases open_first_fragment_changes name sink gs with same | opened
  · rw [same]
    exact before
  · rw [opened]
    exact open_fragment_in_step counts name gs.1 sink gs.2 before

theorem open_each_in_step (names : List String) (gs : Graph × σ) (before : InStep counts gs.1) :
    InStep counts (names.foldl (openFirstFragment sink) gs).1 := by
  induction names generalizing gs with
  | nil => exact before
  | cons name rest ih => exact ih _ (open_first_fragment_in_step counts name sink gs before)

theorem sync_in_step (others : InStep (fun other => counts other ∧ other ≠ name) g) :
    Ends (sync sink name g s) (fun next => InStep counts next.1)
      (fun next => InStep (fun other => counts other ∧ other ≠ name) next.1) := by
  have synced : InStep counts (g.modifyStage name fun st => { st with state := g.state }) := by
    intro entry member counted placed
    obtain ⟨old, here, rfl⟩ := List.mem_map.mp member
    by_cases same : old.1 = name
    · rw [if_pos same]
      rfl
    · rw [if_neg same] at counted placed ⊢
      exact others old here ⟨counted, same⟩ placed
  apply ends_mono _ _ _ _ _ (g.sync_changes name sink s)
  · rintro _ (rfl | rfl)
    · exact synced
    · exact open_first_fragment_in_step counts name sink (_, s) synced
  · exact fun next refused => refused_in_step _ g next.1 _ refused.1 others

theorem change_destinations_in_step (stage : Stage) (list : List Endpoint)
    (read : g.stage? name = some stage) (before : InStep counts g) :
    InStep counts (g.changeDestinations name stage list) := by
  have changed := modify_in_step counts name g (fun _ => { stage with destinations := list }) before
  apply changed
  intro counted _ _ placed
  exact before (name, stage) (stage_member name g stage read) counted placed

theorem emit_in_step (target : Target) (signal : Signal) (before : InStep counts g) :
    InStep counts (emit sink target signal g s).2.1 := by
  apply state_of_ends _ _ _ (InStep counts ·.1) (g.emit_changes sink s target signal)
  · rintro next (⟨_, changed⟩ | ⟨name, stage, list, _, _, read, changed⟩ | ⟨name, _, _, changed⟩)
    · rw [changed]
      exact before
    · rw [changed]
      exact change_destinations_in_step counts name g stage list read before
    · rw [changed]
      exact open_fragment_in_step counts name g sink s before
  · exact fun next refused => refused_in_step counts g next.1 _ refused.1 before

theorem moved_in_step (state : PlayState) : InStep counts (g.moved state) := by
  intro entry member _ placed
  obtain ⟨old, _, rfl⟩ := List.mem_map.mp member
  cases here : old.2.parented with
  | true => simp [here, moved]
  | false => simp [here] at placed

theorem set_state_gathers (state : PlayState) :
    Ends (setState sink state g s) (fun next => InStep counts next.1)
      (fun next => g.Refused (.setState state) next.1) := by
  apply ends_mono _ _ _ _ _ (g.set_state_changes sink s state)
  · rintro _ (rfl | ⟨_, rfl⟩)
    · exact moved_in_step counts g state
    · exact open_each_in_step counts sink _ (_, s) (moved_in_step counts g state)
  · exact fun _ refused => refused.1

theorem set_state_in_step (state : PlayState) (before : InStep counts g) :
    InStep counts (setState sink state g s).2.1 :=
  state_of_ends _ _ _ (InStep counts ·.1) (set_state_gathers counts g sink s state) (fun _ gathered => gathered)
    fun next refused => refused_in_step counts g next.1 _ refused before

end Sink

end InStep

end CameraServer.Media.Graph
