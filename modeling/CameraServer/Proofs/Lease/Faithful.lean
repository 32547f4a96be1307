import CameraServer.Proofs.Lease.Service
import CameraServer.Proofs.Pipeline.OnDemand
import CameraServer.Proofs.Pipeline.Resume

/-!
A desk over a graph on which nothing fails. Main statements: its requests, its sweeps and every change of its
configuration that ends well leave the sink with just the endpoints of the leases, and a graph that plays goes on
playing when the configuration changes.
-/

set_option autoImplicit false

namespace CameraServer

/-! ### The engine -/

namespace Engine

theorem poll_up_to_books (count : Nat) (e : Engine) : (e.pollUpTo count).books = e.books := by
  induction count generalizing e with
  | zero => rfl
  | succ count ih =>
      have polled := poll_books e
      rw [pollUpTo]
      rcases eq : e.poll with ⟨_ | event, next⟩
      · rw [eq] at polled
        exact polled
      · rw [eq] at polled
        exact (ih next).trans polled

structure Smooth (e : Engine) : Prop where
  reached : Reachable Plain e
  built : e.constructed = true

theorem construct_smooth (e : Engine) (reached : Reachable Plain e) (waiting : e.pending = none) (next : Engine)
    (done : e.construct = (.ok (), next)) : next.Smooth ∧ next.destinations = e.destinations := by
  have built := construct_ledger e
  have step : Reachable Plain (Step.apply .construct e) := .step e .construct reached ⟨fun _ => waiting, by simp⟩
  rw [Step.apply, done] at step
  rw [done] at built
  exact ⟨⟨step, congrArg (·.constructed) built⟩, congrArg (·.destinations) built⟩

theorem smooth_step (s : Step) (e : Engine) (smooth : e.Smooth) (builds : s ≠ .construct)
    (changes : ∀ config, s ≠ .setConfig config) (plain : ∀ injection, s ≠ .inject injection) : (s.apply e).Smooth :=
  ⟨.step e s smooth.reached ⟨fun same => absurd same builds, plain⟩,
    (relisted_constructed e _ (step_relists s e builds changes)).trans smooth.built⟩

theorem start_smooth (e : Engine) (smooth : e.Smooth) : e.start.2.Smooth ∧ e.start.2.destinations = e.destinations :=
  ⟨smooth_step .start e smooth (by simp) (by simp) (by simp), congrArg (·.ledger.destinations) (start_books e)⟩

theorem poll_smooth (e : Engine) (smooth : e.Smooth) : e.poll.2.Smooth :=
  smooth_step .poll e smooth (by simp) (by simp) (by simp)

theorem add_endpoint_smooth (endpoint : Endpoint) (e : Engine) (smooth : e.Smooth) :
    (e.addEndpoint endpoint).2.Smooth :=
  smooth_step (.addEndpoint endpoint) e smooth (by simp) (by simp) (by simp)

theorem remove_endpoint_smooth (endpoint : Endpoint) (e : Engine) (smooth : e.Smooth) :
    (e.removeEndpoint endpoint).2.Smooth :=
  smooth_step (.removeEndpoint endpoint) e smooth (by simp) (by simp) (by simp)

theorem change_endpoint_smooth (old new : Endpoint) (e : Engine) (smooth : e.Smooth) :
    (e.changeEndpoint old new).2.Smooth :=
  smooth_step (.changeEndpoint old new) e smooth (by simp) (by simp) (by simp)

theorem reap_orphans_smooth (e : Engine) (smooth : e.Smooth) : e.reapOrphans.Smooth :=
  smooth_step .reapOrphans e smooth (by simp) (by simp) (by simp)

section Smooth

variable (e : Engine) (smooth : e.Smooth)

include smooth

theorem smooth_on_demand : e.OnDemand := plain_attentive e smooth.reached smooth.built

theorem smooth_sink : e.graph.sink = e.destinations := by
  rw [served_sink e _ (smooth_on_demand e smooth).served]
  cases e.destinations <;> rfl

theorem smooth_pending : e.pending = none :=
  reachable_prompt e (reachable_mono Plain Orderly e (fun _ _ _ may => may.1) smooth.reached) smooth.built

theorem poll_up_to_smooth (count : Nat) : (e.pollUpTo count).Smooth := by
  induction count generalizing e with
  | zero => exact smooth
  | succ count ih =>
      have polled := poll_smooth e smooth
      rw [pollUpTo]
      rcases eq : e.poll with ⟨_ | event, next⟩
      · rw [eq] at polled
        exact polled
      · rw [eq] at polled
        exact ih next polled

theorem set_config_readds (config : PipelineConfig) : e.ReaddsAll config :=
  readds_all_on_demand config e (reachable_sound Plain e smooth.reached) (plain_quiet e smooth.reached)

variable (config : PipelineConfig) (next : Engine) (done : e.setConfig config = (.ok (), next))

include done

theorem set_config_smooth : next.Smooth ∧ next.config = config := by
  have roster := set_config_roster config e
  have step : Reachable Plain (Step.apply (.setConfig config) e) := .step e _ smooth.reached ⟨(nomatch ·), by simp⟩
  rw [Step.apply, done] at step
  rw [done] at roster
  rcases roster with ⟨_, kept⟩ | ⟨start, _, rebuilt⟩
  · exact ⟨⟨step, (congrArg Roster.constructed kept).trans smooth.built⟩, congrArg Roster.config kept⟩
  · exact ⟨⟨step, congrArg Roster.constructed rebuilt⟩, congrArg Roster.config rebuilt⟩

theorem set_config_same_sink : next.graph.sink = e.graph.sink := by
  have kept := set_config_destinations config e (set_config_readds e smooth config)
  rw [done] at kept
  rw [smooth_sink next (set_config_smooth e smooth config next done).1, smooth_sink e smooth]
  exact kept

theorem set_config_plays_on (plays : e.graph.state = .playing) : next.graph.state = .playing := by
  have state := set_config_state config e (reachable_sound Plain e smooth.reached)
  have resumed : e.resumes.1 = true := by
    rw [resumes, smooth_pending e smooth]
    dsimp only
    rw [runs_answered e smooth.built, plain_quiet e smooth.reached, plays]
    rfl
  rw [done, resumed, plays] at state
  exact state.trans (by simp)

end Smooth

end Engine

/-! ### The desk -/

namespace Desk

structure Faithful (d : Desk) : Prop where
  smooth : d.engine.Smooth
  tally : Tally d []

theorem smooth_forfeit (username : String) (guid : Guid) (d : Desk) (smooth : d.engine.Smooth) :
    d.forfeit username guid = [] := by
  rw [forfeit]
  cases d.leases.get? (username, guid) with
  | none => rfl
  | some lease =>
      obtain ⟨next, removed, _⟩ := Engine.remove_endpoint_on_demand lease.endpoint d.engine
        (Engine.smooth_on_demand d.engine smooth)
      dsimp only
      rw [removed]

theorem smooth_forfeit_each (keys : List LeaseKey) (d : Desk) (smooth : d.engine.Smooth) :
    forfeitEach keys d = [] := by
  induction keys generalizing d with
  | nil => rfl
  | cons key rest ih =>
      have ended := end_lease_keeps Engine.Smooth Engine.remove_endpoint_smooth d smooth key.1 key.2
      rw [forfeitEach, smooth_forfeit key.1 key.2 d smooth, ih _ ended]
      rfl

section Faithful

variable (d : Desk) (faithful : d.Faithful)

include faithful

theorem faithful_sink : d.engine.graph.sink.Perm (LeaseTable.endpoints d.leases) := by
  have conserved := faithful.tally.conserved
  rw [List.append_nil] at conserved
  rw [Engine.smooth_sink d.engine faithful.smooth]
  exact conserved

theorem faithful_step (s : Step) (may : Step.Permitted d s) (nothing : s.forfeits d = [])
    (smooth : (s.apply d).engine.Smooth) : (s.apply d).Faithful := by
  have tally := step_tally d [] s may faithful.tally
  rw [nothing] at tally
  exact ⟨smooth, tally⟩

theorem handle_request_faithful (username : String) (body : LeaseRequest) (draws : List Guid) :
    (d.handleRequest username body draws).2.Faithful := by
  apply faithful_step d faithful (.request username body draws) trivial
  · rw [Step.forfeits, smooth_forfeit _ _ d faithful.smooth, ite_self]
  · exact handle_request_keeps Engine.Smooth Engine.add_endpoint_smooth Engine.remove_endpoint_smooth
      Engine.change_endpoint_smooth d faithful.smooth username body draws

theorem sweep_faithful (keys : List LeaseKey) (expired : keys.Perm (d.leases.expired d.now)) :
    (d.sweepInOrder keys).2.Faithful := by
  apply faithful_step d faithful (.sweep keys) expired
  · exact smooth_forfeit_each keys d faithful.smooth
  · exact sweep_keeps Engine.Smooth Engine.remove_endpoint_smooth Engine.reap_orphans_smooth d faithful.smooth keys

theorem surroundings_faithful (disk : Disk) (now : Instant) :
    (Step.apply (.surroundings disk now) d).Faithful :=
  faithful_step d faithful (.surroundings disk now) trivial rfl
    (Engine.smooth_step (.surroundings disk now) d.engine faithful.smooth (by simp) (by simp) (by simp))

theorem poll_faithful (count : Nat) : Faithful { d with engine := d.engine.pollUpTo count } := by
  refine ⟨Engine.poll_up_to_smooth d.engine faithful.smooth count, ?_⟩
  exact tally_of_roster d [] _ (congrArg (·.ledger.toRoster) (Engine.poll_up_to_books count d.engine)) faithful.tally

theorem set_config_faithful (config : PipelineConfig) (policy : LeasePolicy) (engine : Engine)
    (done : d.engine.setConfig config = (.ok (), engine)) : Faithful { d with engine := engine, policy := policy } := by
  have smooth := (Engine.set_config_smooth d.engine faithful.smooth config engine done).1
  have changed := faithful_step d faithful (.setConfig config)
    (Engine.set_config_readds d.engine faithful.smooth config) rfl (by rw [Step.apply, done]; exact smooth)
  rw [Step.apply, done] at changed
  exact ⟨smooth, changed.tally.distinct, changed.tally.conserved⟩

end Faithful

end Desk

end CameraServer
