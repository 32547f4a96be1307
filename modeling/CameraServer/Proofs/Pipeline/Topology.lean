import CameraServer.Proofs.Pipeline.Sound
import CameraServer.Proofs.Pipeline.Resume

/-!
The topology of the graph. Main statement: in every run, whatever fails on the way, a graph is either
empty and in NULL or it consists of the fixed stages and perhaps the egress stage, all of them in the
graph and linked in one way.
-/

set_option autoImplicit false

namespace CameraServer

open Media

namespace Media

structure Graph.Shaped (g : Graph) (attached linked : Bool) : Prop where
  stages : g.stages.map (fun entry => (entry.1, entry.2.kind)) =
    [(captureName, .capture), (fanOutName, .fanOut), (recordingName, .recording)] ++
      if attached then [(egressName, .egress)] else []
  placed : ∀ entry ∈ g.stages, entry.2.parented = true
  links : g.links =
    [(captureName, fanOutName), (fanOutName, recordingName)] ++ if linked then [(fanOutName, egressName)] else []
  behind : linked = true → attached = true

theorem Outline.fixed_placed (egress : Option Egress) (history : List (List Endpoint))
    (placed : ∀ b ∈ egress, b.parented = true) :
    ∀ entry ∈ (Outline.fixed egress history).layout, entry.2.parented = true := by
  cases egress with
  | none => simp [Outline.fixed, fixedLayout, egressLayout]
  | some b => simpa [Outline.fixed, fixedLayout, egressLayout, Egress.fitting] using placed b rfl

theorem Graph.shaped_of_fixed (g : Graph) (egress : Option Egress) (history : List (List Endpoint))
    (placed : ∀ b ∈ egress, b.parented = true) (outline : g.outline = .fixed egress history) :
    g.Shaped egress.isSome (egress.any (·.linked)) := by
  have layout : g.layout = (Outline.fixed egress history).layout := congrArg Outline.layout outline
  have links : g.links = (Outline.fixed egress history).links := congrArg Outline.links outline
  refine ⟨?_, ?_, ?_, ?_⟩
  · have kinds : g.stages.map (fun entry => (entry.1, entry.2.kind)) =
        g.layout.map fun entry => (entry.1, entry.2.kind) := by
      rw [Graph.layout, List.map_map]
      rfl
    rw [kinds, layout]
    cases egress <;> rfl
  · intro entry member
    have listed : (entry.1, entry.2.fitting) ∈ g.layout := List.mem_map.mpr ⟨entry, member, rfl⟩
    rw [layout] at listed
    exact Outline.fixed_placed egress history placed _ listed
  · rw [links]
    cases egress <;> rfl
  · cases egress with
    | none => simp
    | some b => simp

end Media

namespace Engine

theorem served_shaped (e : Engine) (egress : Option Egress) (served : e.Served egress) :
    e.graph.Shaped egress.isSome (egress.any (·.linked)) :=
  e.graph.shaped_of_fixed egress e.graph.history served.placed served.outline

/-! ### Engines without a pipeline -/

def Resting (e : Engine) : Prop := e.constructed = false → e.graph.state = .null

theorem construct_resting (e : Engine) (tolerant : e.refusals = {}) (resting : e.Resting) :
    e.construct.2.Resting := by
  cases built : e.constructed with
  | true =>
      rw [construct, if_pos built]
      exact resting
  | false =>
      have state := construct_ready e built tolerant
      have flag := construct_ledger e
      rcases eq : e.construct with ⟨x | u, next⟩
      · rw [eq] at state
        exact fun _ => state
      · rw [eq] at flag
        have here : next.constructed = true := congrArg (·.constructed) flag
        intro idle
        cases here.symm.trans idle

theorem set_config_resting (config : PipelineConfig) (e : Engine) (sound : e.Sound) (resting : e.Resting) :
    (e.setConfig config).2.Resting := by
  have state := set_config_state config e sound
  have flags := set_config_roster config e
  rcases eq : e.setConfig config with ⟨x | u, next⟩
  · rw [eq] at state
    intro idle
    have left : next.graph.state = if next.constructed then e.graph.state else .null := state
    rwa [show next.constructed = false from idle] at left
  · rw [eq] at state flags
    have left : next.graph.state =
        if e.needsRebuild config then (if e.resumes.1 then .playing else .ready) else e.graph.state := state
    intro idle
    rcases flags with ⟨needless, kept⟩ | ⟨start, _, rebuilt⟩
    · rw [needless] at left
      have same : next.constructed = e.constructed := congrArg Roster.constructed kept
      exact left.trans (resting (same.symm.trans idle))
    · have here : next.constructed = true := congrArg Roster.constructed rebuilt
      cases here.symm.trans idle

theorem idle_step_state (s : Step) (e : Engine) (idle : e.constructed = false) (builds : s ≠ .construct)
    (changes : ∀ config, s ≠ .setConfig config) : (s.apply e).graph.state = e.graph.state := by
  have nothing : ∀ operation (r : Outcome Unit), (e.ifConstructed operation r).2 = e := by
    intro operation r
    rw [ifConstructed, idle, if_neg (by simp)]
  have unadded : ∀ endpoint, e.addEndpoint endpoint = (.error (.notConstructed .addEndpoint), e) := by
    intro endpoint
    rw [addEndpoint, ifConstructed, idle, if_neg (by simp)]
  cases s with
  | construct => exact absurd rfl builds
  | start => exact congrArg (·.graph.state) (nothing .start _)
  | pause => exact congrArg (·.graph.state) (nothing .pause _)
  | stop => exact congrArg (·.graph.state) (nothing .stop _)
  | splitNow => exact congrArg (·.graph.state) (nothing .splitRecording _)
  | shutdown patient => simp [Step.apply, shutdown, idle]
  | isRunning => simp [Step.apply, isRunning, idle]
  | state => simp [Step.apply, Engine.state, idle]
  | poll => simp [Step.apply, Engine.poll, idle]
  | setConfig config => exact absurd rfl (changes config)
  | addEndpoint endpoint => simp only [Step.apply, unadded]
  | removeEndpoint endpoint =>
      simp only [Step.apply, removeEndpoint, idle, Bool.false_eq_true, if_false]
      split <;> rfl
  | changeEndpoint old new =>
      simp only [Step.apply, changeEndpoint, unadded]
      split <;> rfl
  | reapOrphans => simp [Step.apply, Engine.reapOrphans, idle]
  | inject injection => exact injection.apply_state e.graph
  | surroundings disk now => rfl

theorem step_resting (s : Step) (e : Engine) (sound : e.Sound) (resting : e.Resting) : (s.apply e).Resting := by
  have tolerant : e.refusals = {} := by
    cases sound with
    | down down _ => exact down.tolerant
    | up egress served _ => exact served.tolerant
  by_cases builds : s = .construct
  · rw [builds]
    exact construct_resting e tolerant resting
  · by_cases changes : ∃ config, s = .setConfig config
    · obtain ⟨config, rfl⟩ := changes
      exact set_config_resting config e sound resting
    · have others : ∀ config, s ≠ .setConfig config := fun config same => changes ⟨config, same⟩
      intro idle
      rw [relisted_constructed e _ (step_relists s e builds others)] at idle
      exact (idle_step_state s e idle builds others).trans (resting idle)

theorem reachable_resting (allowed : Engine → Step → Prop) (e : Engine) (reached : Reachable allowed e) :
    e.Resting := by
  induction reached with
  | new config disk now => exact fun _ => rfl
  | step e s before _ ih => exact step_resting s e (reachable_sound allowed e before) ih

/-! ### The shape of the graph -/

theorem topology_fixed (allowed : Engine → Step → Prop) (e : Engine) (reached : Reachable allowed e) :
    (e.constructed = false → e.graph.stages = [] ∧ e.graph.links = [] ∧ e.graph.state = .null) ∧
      (e.constructed = true → ∃ attached linked, e.graph.Shaped attached linked) ∧
      (e.orphans ≠ [] → e.graph.hasStage egressName = true) := by
  cases reachable_sound allowed e reached with
  | down down _ =>
      refine ⟨fun idle => ?_, fun built => ?_, fun some => absurd down.quit some⟩
      · exact ⟨e.graph.bare_stages down.bare, congrArg Outline.links down.bare,
          reachable_resting allowed e reached idle⟩
      · cases built.symm.trans down.idle
  | up egress served _ =>
      refine ⟨fun idle => ?_, fun _ => ⟨_, _, served_shaped e egress served⟩, fun some => ?_⟩
      · cases served.built.symm.trans idle
      · rw [stands_has_egress_stage e _ egress _ (served_stands e egress served)]
        exact served.held some

-- A branch that could neither be linked nor taken out again, and later a move that got stuck on it.
def strandedBranch : Engine :=
  run [.inject (.failOnce (.link egressName)), .inject (.failOnce (.remove egressName)),
    .addEndpoint ⟨"10.0.0.1", 5000⟩, .addEndpoint ⟨"10.0.0.1", 5000⟩, .inject (.failOn (.signal "remove")),
    .changeEndpoint ⟨"10.0.0.1", 5000⟩ ⟨"10.0.0.2", 6000⟩] fresh

theorem topology_fixed_stranded :
    Reachable Orderly strandedBranch ∧ strandedBranch.orphans = [⟨"10.0.0.2", 6000⟩] ∧
      strandedBranch.graph.isLinked fanOutName egressName = false ∧
      strandedBranch.graph.hasStage egressName = true ∧
      ∃ attached linked, strandedBranch.graph.Shaped attached linked := by
  have reached : Reachable Orderly strandedBranch := orderly_run _ fresh fresh_reachable (by simp)
  have orphaned : strandedBranch.orphans = [⟨"10.0.0.2", 6000⟩] := by decide
  obtain ⟨_, shaped, held⟩ := topology_fixed Orderly strandedBranch reached
  exact ⟨reached, orphaned, by decide, held (by simp [orphaned]), shaped (by decide)⟩

end Engine

end CameraServer
