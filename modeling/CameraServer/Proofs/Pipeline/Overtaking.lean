import CameraServer.Proofs.Pipeline.OnDemand
import CameraServer.Proofs.Pipeline.Retry
import CameraServer.Proofs.Pipeline.Shutdown
import CameraServer.Proofs.Pipeline.Signals

/-!
A construction that overtakes a rebuild. Main statement: a pipeline that is constructed while a rebuild is
pending has nobody on its sink, so that the destinations on its list cannot be removed; and the rebuild stays
pending, so that the next change of the configuration serves them all, but plays only if the failed rebuild
was to, whatever has been started meanwhile.
-/

set_option autoImplicit false

namespace CameraServer.Engine

open Media

/-! ### Construction -/

theorem construct_calm (e : Engine) (down : e.Down) (quiet : ∀ p, e.graph.fails p = false) :
    ∃ next, e.construct = (.ok (), next) := by
  have stages := e.graph.bare_stages down.bare
  have links : e.graph.links = [] := congrArg Outline.links down.bare
  apply ok_state
  rw [← calmed_of_quiet e quiet]
  simp [construct, calmed, down.idle, fixedStages, runSteps, Outcome.next, buildStage, addStage, link, setGraphState,
    withGraph, withSite, Graph.build, Graph.add, Graph.link, Graph.setState, Graph.fails, Graph.clearFailures,
    Graph.hasStage, Graph.stage?, Graph.modifyStage, Graph.isLinked, stages, links, captureName, fanOutName,
    recordingName, Except.mapError]

structure Overtaken (resume : Bool) (e : Engine) : Prop where
  built : e.constructed = true
  waits : e.pending = some resume
  sound : e.Sound
  quiet : ∀ p, e.graph.fails p = false

theorem construct_overtakes (resume : Bool) (e : Engine) (sound : e.Sound) (down : e.Down)
    (waits : e.pending = some resume) (quiet : ∀ p, e.graph.fails p = false) :
    ∃ next, e.construct = (.ok (), next) ∧ next.Overtaken resume ∧ next.Served none ∧ next.orphans = [] ∧
      next.destinations = e.destinations := by
  obtain ⟨next, eq⟩ := construct_calm e down quiet
  have ended := construct_ends e down
  have spent := construct_spends e
  have still := construct_sound e sound
  rw [eq] at ended spent still
  obtain ⟨served, ledger⟩ := ended
  have pending : next.pending = e.pending := congrArg (·.pending) ledger
  have orphans : next.orphans = e.orphans := congrArg (·.orphans) ledger
  refine ⟨next, eq, ⟨served.built, pending.trans waits, still, ?_⟩, served, orphans.trans down.quit, ?_⟩
  · exact Graph.spends_quiet _ _ spent quiet
  · exact congrArg (·.destinations) ledger

/-! ### Until the next change of the configuration -/

def Meanwhile (_ : Engine) (s : Step) : Prop :=
  (∀ config, s ≠ .setConfig config) ∧ ∀ injection, s ≠ .inject injection

theorem construct_overtaken (resume : Bool) (e : Engine) (overtaken : e.Overtaken resume) : e.construct.2 = e := by
  rw [construct, if_pos overtaken.built]

theorem meanwhile_overtaken (resume : Bool) (s : Step) (e : Engine) (may : Meanwhile e s)
    (overtaken : e.Overtaken resume) : (s.apply e).Overtaken resume := by
  by_cases builds : s = .construct
  · subst builds
    rw [Step.apply, construct_overtaken resume e overtaken]
    exact overtaken
  · have relisted := step_relists s e builds may.1
    constructor
    · exact (relisted_constructed e _ relisted).trans overtaken.built
    · exact (relisted_pending e _ relisted).trans overtaken.waits
    · exact step_sound s e overtaken.sound
    · exact Graph.spends_quiet _ _ (step_spends s e may.2) overtaken.quiet

theorem leads_overtaken (resume : Bool) (start e : Engine) (begun : start.Overtaken resume)
    (led : Leads Meanwhile start e) : e.Overtaken resume := by
  induction led with
  | refl => exact begun
  | step e s _ may ih => exact meanwhile_overtaken resume s e may ih

theorem leads_on_demand (resume : Bool) (start e : Engine) (begun : start.Overtaken resume)
    (onDemand : start.OnDemand) (led : Leads Meanwhile start e) : e.OnDemand := by
  induction led with
  | refl => exact onDemand
  | step e s before may ih =>
    have overtaken := leads_overtaken resume start e begun before
    by_cases builds : s = .construct
    · subst builds
      rw [Step.apply, construct_overtaken resume e overtaken]
      exact ih
    · have plain : Plain e s := ⟨fun same => absurd same builds, may.2⟩
      have attentive := step_attentive s e plain overtaken.sound overtaken.quiet fun _ => ih
      exact attentive (meanwhile_overtaken resume s e may overtaken).built

/-! ### The next change of the configuration -/

section Overtaken

variable (resume : Bool) (config : PipelineConfig) (e : Engine) (overtaken : e.Overtaken resume)

include overtaken

theorem overtaken_needs_rebuild : e.needsRebuild config = true := by
  simp [needsRebuild, rebuildPending, overtaken.waits]

theorem overtaken_resumes : e.resumes = (resume, e) := by
  rw [resumes, overtaken.waits]

theorem overtaken_dismantles :
    ∃ gone, e.dismantle = (.ok (), gone) ∧ gone.Down ∧ ∀ p, gone.graph.fails p = false := by
  have gone := resumes_dismantles e overtaken.sound overtaken.quiet
  rw [overtaken_resumes resume e overtaken] at gone
  obtain ⟨egress, served, _⟩ := sound_served e overtaken.sound overtaken.built
  have done : e.dismantle.1 = .ok () := by
    rw [dismantle, if_pos overtaken.built, shutdown_calm true e _ egress served overtaken.quiet rfl]
    rfl
  obtain ⟨next, eq⟩ := ok_state _ done
  rw [eq] at gone
  exact ⟨next, eq, gone⟩

-- Nothing but the recordings can keep the rebuild from playing, so one that is not to play succeeds.
theorem set_config_overtaken_fails (failed : (e.setConfig config).1 ≠ .ok ()) : resume = true := by
  by_contra stopped
  obtain rfl : resume = false := by simpa using stopped
  obtain ⟨gone, eq, down, quiet⟩ := overtaken_dismantles false e overtaken
  obtain ⟨begun, built⟩ := construct_calm _ (adopt_down config false gone down) quiet
  apply failed
  rw [set_config_stages, if_pos (overtaken_needs_rebuild false config e overtaken),
    overtaken_resumes false e overtaken, eq]
  simp only [Outcome.next, retryRebuild, rebuild, built]
  rfl

theorem set_config_overtaken :
    (e.setConfig config).2.destinations = e.destinations ∧
      Ends (e.setConfig config)
        (fun last => last.graph.sink = e.destinations ∧ (last.graph.state = .playing ↔ resume = true))
        (fun _ => resume = true) := by
  have needed := overtaken_needs_rebuild resume config e overtaken
  have all := readds_all_on_demand config e overtaken.sound overtaken.quiet
  have sink := set_config_sink config e overtaken.sound needed all
  have state := set_config_state config e overtaken.sound
  have fails := set_config_overtaken_fails resume config e overtaken
  refine ⟨set_config_destinations config e all, ?_⟩
  rw [needed, if_pos rfl, overtaken_resumes resume e overtaken] at state
  rcases eq : e.setConfig config with ⟨x | u, last⟩
  · rw [eq] at fails
    exact fails (by simp)
  · rw [eq] at sink state
    have plays : last.graph.state = if resume then .playing else .ready := state
    refine ⟨sink, ?_⟩
    rw [plays]
    cases resume <;> simp

end Overtaken

/-! ### Who is restored -/

-- Everything that a rebuild would have brought back: the sink has the destinations, each of them can go, and a
-- later change of the configuration neither stops what plays by then nor loses a destination.
structure Restored (next : Engine) : Prop where
  served : next.graph.sink.Perm next.destinations
  removable : ∀ later, Leads Meanwhile next later → ∀ endpoint ∈ later.destinations,
    (later.removeEndpoint endpoint).1 = .ok ()
  undisturbed : ∀ later last config, Leads Meanwhile next later → later.graph.state = .playing →
    later.setConfig config = (.ok (), last) → last.graph.state = .playing ∧ last.destinations = later.destinations

theorem restored_iff (resume : Bool) (next : Engine) (overtaken : next.Overtaken resume) (served : next.Served none)
    (quit : next.orphans = []) :
    Restored next ↔ next.destinations = [] ∧
      (resume = true ∨ ∀ later, Leads Meanwhile next later → later.graph.state ≠ .playing) := by
  have empty := served_sink next none served
  have changed := fun later config led =>
    set_config_overtaken resume config later (leads_overtaken resume next later overtaken led)
  constructor
  · intro restored
    have nobody := restored.served
    rw [empty] at nobody
    refine ⟨nobody.nil_eq.symm, ?_⟩
    -- Started all the same, the pipeline would be stopped by the next configuration.
    by_contra stops
    obtain ⟨stopped, started⟩ := not_or.mp stops
    push Not at started
    obtain ⟨later, led, plays⟩ := started
    obtain ⟨_, ended⟩ := changed later {} led
    rcases eq : later.setConfig {} with ⟨x | u, last⟩
    · rw [eq] at ended
      exact stopped ended
    · rw [eq] at ended
      exact stopped (ended.2.mp (restored.undisturbed later last {} led plays eq).1)
  · rintro ⟨nobody, harmless⟩
    have onDemand : next.OnDemand := by
      refine ⟨?_, quit, overtaken.quiet⟩
      rw [nobody]
      exact served
    refine ⟨?_, ?_, ?_⟩
    · rw [empty, nobody]
      exact List.Perm.refl []
    · intro later led endpoint _
      have still := leads_on_demand resume next later overtaken onDemand led
      obtain ⟨last, eq, _⟩ := remove_endpoint_on_demand endpoint later still
      rw [eq]
    · intro later last config led plays eq
      obtain ⟨kept, ended⟩ := changed later config led
      rw [eq] at kept ended
      refine ⟨ended.2.mpr ?_, kept⟩
      cases harmless with
      | inl resumes => exact resumes
      | inr rests => exact absurd plays (rests later led)

theorem overtaking_restores_iff (allowed : Engine → Step → Prop) (e : Engine) (reached : Reachable allowed e)
    (idle : e.constructed = false) (resume : Bool) (waits : e.pending = some resume)
    (quiet : ∀ p, e.graph.fails p = false) :
    ∃ next, e.construct = (.ok (), next) ∧ next.destinations = e.destinations ∧ next.graph.sink = [] ∧
      next.pending = some resume ∧
      (∀ endpoint ∈ e.destinations, ∃ x, next.removeEndpoint endpoint = (.error x, next)) ∧
      (∀ later config, Leads Meanwhile next later →
        (later.setConfig config).2.destinations = later.destinations ∧
          Ends (later.setConfig config)
            (fun last => last.graph.sink = later.destinations ∧ (last.graph.state = .playing ↔ resume = true))
            (fun _ => resume = true)) ∧
      (Restored next ↔ e.destinations = [] ∧
        (resume = true ∨ ∀ later, Leads Meanwhile next later → later.graph.state ≠ .playing)) := by
  have sound := reachable_sound allowed e reached
  obtain ⟨next, eq, overtaken, served, quit, listed⟩ :=
    construct_overtakes resume e sound (sound_down e sound idle) waits quiet
  refine ⟨next, eq, listed, served_sink next none served, overtaken.waits, ?_, ?_, ?_⟩
  · intro endpoint member
    have missing := stands_has_egress_stage next _ none _ (served_stands next none served)
    rw [← listed] at member
    exact remove_endpoint_refused endpoint next overtaken.quiet overtaken.built quit member missing
  · intro later config led
    exact set_config_overtaken resume config later (leads_overtaken resume next later overtaken led)
  · rw [← listed]
    exact restored_iff resume next overtaken served quit

-- A camera that recorded for a viewer when a rebuild failed, and that could be built again now.
def repaired : Engine :=
  run [.inject (.failOn (.build captureName)), .setConfig { width := 1280 }, .inject .clearAll] recording

theorem overtaking_restores_iff_repaired :
    Reachable Orderly repaired ∧ repaired.destinations = [⟨"10.0.0.1", 5000⟩] ∧
      ∃ next, repaired.construct = (.ok (), next) ∧ next.graph.sink = [] ∧ ¬ Restored next ∧
        ∃ x, next.removeEndpoint ⟨"10.0.0.1", 5000⟩ = (.error x, next) := by
  have reached : Reachable Orderly repaired := orderly_run _ recording recording_reachable (by simp)
  have listed : repaired.destinations = [⟨"10.0.0.1", 5000⟩] := by decide +kernel
  obtain ⟨next, built, _, empty, _, stuck, _, restored⟩ :=
    overtaking_restores_iff Orderly repaired reached (by decide +kernel) true (by decide +kernel) fun p => rfl
  refine ⟨reached, listed, next, built, empty, ?_, stuck _ (by simp [listed])⟩
  rw [restored, listed]
  simp

-- The same camera when it had not been started before.
def shelved : Engine :=
  run [.addEndpoint ⟨"10.0.0.1", 5000⟩, .inject (.failOn (.build captureName)), .setConfig { width := 1280 },
    .inject .clearAll] fresh

-- It is constructed with its viewer on the list only. Started then, it is stopped by the next configuration.
theorem overtaking_strands_viewers :
    Reachable Orderly shelved ∧ shelved.constructed = false ∧ shelved.rebuildPending = true ∧
      (∀ p, shelved.graph.fails p = false) ∧ shelved.construct.1 = .ok () ∧
      shelved.construct.2.destinations = [⟨"10.0.0.1", 5000⟩] ∧ shelved.construct.2.graph.sink = [] ∧
      (shelved.construct.2.removeEndpoint ⟨"10.0.0.1", 5000⟩).1 = .error (.graph (.stageNotFound egressName)) ∧
      shelved.construct.2.start.1 = .ok () ∧ shelved.construct.2.start.2.graph.state = .playing ∧
      (shelved.construct.2.start.2.setConfig shelved.config).1 = .ok () ∧
      (shelved.construct.2.start.2.setConfig shelved.config).2.graph.state = .ready :=
  ⟨orderly_run _ fresh fresh_reachable (by simp), by decide +kernel, by decide +kernel, fun _ => rfl,
    by decide +kernel, by decide +kernel, by decide +kernel, by decide +kernel, by decide +kernel,
    by decide +kernel, by decide +kernel, by decide +kernel⟩

end CameraServer.Engine
