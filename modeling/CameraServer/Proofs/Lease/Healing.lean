import CameraServer.Proofs.Lease.Run
import CameraServer.Proofs.Pipeline.Calm
import Mathlib.Data.List.Count

/-!
What a sweep can put right once nothing fails any more. Main statement: it clears every orphan and ends
every lease whose time has passed, each of which takes one entry off the list of destinations; the sink then
serves the live leases and nobody else exactly when what is left of the list does, and no branch is left
over that nobody needs.
-/

set_option autoImplicit false

namespace CameraServer

open Media

namespace Desk

/-! ### A sweep without failures -/

structure Freed (e : Engine) (ended : List Endpoint) (next : Engine) : Prop where
  calm : next.Calm
  listed : next.destinations = e.destinations.diff ended
  leftover : next.Leftover ↔ e.Leftover

theorem end_lease_calm (username : String) (guid : Guid) (d : Desk) (calm : d.engine.Calm) :
    Freed d.engine ((d.leases.get? (username, guid)).map (·.endpoint)).toList (d.endLease username guid).2.engine := by
  rw [endLease]
  cases d.leases.get? (username, guid) with
  | none => exact ⟨calm, (List.diff_nil _).symm, Iff.rfl⟩
  | some lease =>
      have ended := Engine.remove_endpoint_roster lease.endpoint d.engine
      obtain ⟨next, eq, still, leftover⟩ := Engine.remove_endpoint_calm lease.endpoint d.engine calm
      rw [eq] at ended
      dsimp only
      rw [eq]
      refine ⟨still, ?_, leftover⟩
      rw [Option.map_some, Option.toList_some, List.diff_cons, List.diff_nil]
      exact congrArg Roster.destinations ended

theorem end_each_calm (keys : List LeaseKey) (d : Desk) (calm : d.engine.Calm) :
    Freed d.engine (LeaseTable.endpointsOf keys d.leases) (endEach keys d).engine := by
  induction keys generalizing d with
  | nil => exact ⟨calm, (List.diff_nil _).symm, Iff.rfl⟩
  | cons key rest ih =>
      obtain ⟨username, guid⟩ := key
      have first := end_lease_calm username guid d calm
      have later := ih _ first.calm
      rw [end_lease_leases] at later
      refine ⟨later.calm, ?_, later.leftover.trans first.leftover⟩
      rw [endEach, later.listed, first.listed, LeaseTable.endpointsOf, List.diff_append]

def heal (keys : List LeaseKey) (d : Desk) : Desk :=
  Deed.apply (.sweep keys) (Deed.apply (.operate (.inject .clearAll)) d)

structure Healed (d : Desk) : Prop where
  quit : d.engine.orphans = []
  serves : d.engine.graph.sink.Perm (LeaseTable.endpoints d.leases)
  vacant : d.leases = [] → d.engine.graph.hasStage egressName = false

-- The list of destinations without one entry for each lease whose time has passed.
def staying (d : Desk) : List Endpoint :=
  d.engine.destinations.diff (LeaseTable.endpoints (d.leases.past d.now))

theorem vacant_branch_unhealed (d : Desk) (vacant : d.leases = [])
    (present : d.engine.graph.hasStage egressName = true) : ¬ d.Healed := by
  intro healed
  cases present.symm.trans (healed.vacant vacant)

theorem cleared_calm (e : Engine) (settled : e.Settled) :
    Engine.Calm (Engine.Step.apply (.inject .clearAll) e) := by
  refine ⟨Engine.settled_of_books e _ rfl settled, fun p => ?_⟩
  change Graph.fails e.graph.clearFailures p = false
  simp [Graph.fails, Graph.clearFailures]

section Heal

variable (d : Desk) (keys : List LeaseKey) (settled : d.engine.Settled)
variable (distinct : (LeaseTable.keys d.leases).Nodup) (expired : keys.Perm (d.leases.expired d.now))

include distinct expired

theorem heal_leases : (heal keys d).leases = d.leases.live d.now :=
  (end_each_leases keys (Deed.apply (.operate (.inject .clearAll)) d)).trans
    (LeaseTable.without_expired d.leases d.now keys distinct expired)

theorem ended_past : (LeaseTable.endpointsOf keys d.leases).Perm (LeaseTable.endpoints (d.leases.past d.now)) := by
  have ended := LeaseTable.endpoints_of_perm d.leases keys distinct
  rw [LeaseTable.without_expired d.leases d.now keys distinct expired] at ended
  have parted := LeaseTable.past_live_perm d.leases d.now
  exact (List.perm_append_right_iff _).mp (ended.symm.trans parted)

include settled

theorem heal_freed :
    (heal keys d).engine.Calm ∧ (heal keys d).engine.orphans = [] ∧
      (heal keys d).engine.destinations.Perm d.staying ∧
      ((heal keys d).engine.Leftover ↔ d.engine.Leftover) := by
  have calm := cleared_calm d.engine settled
  have ended := end_each_calm keys (Deed.apply (.operate (.inject .clearAll)) d) calm
  obtain ⟨still, quit, same⟩ := Engine.reap_orphans_calm _ ended.calm
  have listed : (heal keys d).engine.destinations = d.engine.destinations.diff (LeaseTable.endpointsOf keys d.leases) :=
    (congrArg Roster.destinations (Engine.reap_orphans_roster _)).trans ended.listed
  refine ⟨still, quit, ?_, same.trans ended.leftover⟩
  rw [listed, staying, (ended_past d keys distinct expired).diff_left d.engine.destinations]

theorem heal_sink : (heal keys d).engine.graph.sink.Perm d.staying := by
  obtain ⟨calm, quit, listed, _⟩ := heal_freed d keys settled distinct expired
  have balanced : (heal keys d).engine.graph.sink.Perm
      ((heal keys d).engine.destinations ++ (heal keys d).engine.orphans) := calm.settled.2
  rw [quit, List.append_nil] at balanced
  exact balanced.trans listed

theorem heal_has_egress :
    (heal keys d).engine.graph.hasStage egressName = true ↔ d.staying ≠ [] ∨ d.engine.Leftover := by
  obtain ⟨calm, quit, listed, leftover⟩ := heal_freed d keys settled distinct expired
  have served : (heal keys d).engine.destinations = [] ↔ d.staying = [] := by
    rw [← List.length_eq_zero_iff, listed.length_eq, List.length_eq_zero_iff]
  rw [Engine.calm_has_egress (heal keys d).engine calm quit, leftover, ne_eq, served]

theorem healed_iff :
    (heal keys d).Healed ↔
      d.staying.Perm (LeaseTable.endpoints (d.leases.live d.now)) ∧
        (d.leases.live d.now = [] → ¬ d.engine.Leftover) := by
  have leases := heal_leases d keys distinct expired
  have sink := heal_sink d keys settled distinct expired
  have present := heal_has_egress d keys settled distinct expired
  obtain ⟨_, quit, _⟩ := heal_freed d keys settled distinct expired
  constructor
  · intro healed
    have serves := healed.serves
    rw [leases] at serves
    refine ⟨sink.symm.trans serves, fun none left => ?_⟩
    have absent := healed.vacant (leases.trans none)
    cases absent.symm.trans (present.mpr (.inr left))
  · rintro ⟨exact', clean⟩
    refine ⟨quit, by rw [leases]; exact sink.trans exact', fun none => ?_⟩
    rw [leases] at none
    rw [none] at exact'
    have empty : d.staying = [] := exact'.eq_nil
    -- Nobody is on the list, so a branch that stands has been left over.
    by_contra stands
    rcases present.mp (by simpa using stands) with some | left
    · exact some empty
    · exact clean none left

end Heal

theorem sweep_heals_iff (d : Desk) (keys : List LeaseKey) (reached : Reachable Orderly d)
    (built : d.engine.constructed = true) (expired : keys.Perm (d.leases.expired d.now)) :
    (heal keys d).leases = d.leases.live d.now ∧ (heal keys d).engine.orphans = [] ∧
      (heal keys d).engine.graph.sink.Perm d.staying ∧
      ((heal keys d).engine.graph.hasStage egressName = true ↔ d.staying ≠ [] ∨ d.engine.Leftover) ∧
      ((heal keys d).Healed ↔
        d.staying.Perm (LeaseTable.endpoints (d.leases.live d.now)) ∧
          (d.leases.live d.now = [] → ¬ d.engine.Leftover)) := by
  have settled := Engine.reachable_settled d.engine (reachable_engine d reached) built
  have distinct := (reachable_filed Orderly d reached).distinct
  obtain ⟨_, quit, _⟩ := heal_freed d keys settled distinct expired
  exact ⟨heal_leases d keys distinct expired, quit, heal_sink d keys settled distinct expired,
    heal_has_egress d keys settled distinct expired, healed_iff d keys settled distinct expired⟩

-- A viewer whose move could neither be finished nor taken back.
def halfMoved : Desk :=
  run [.request "alice" ⟨"", "10.0.0.1", 5000, 60000⟩ ["7"], .operate (.inject (.failOn (.signal "remove"))),
    .request "alice" ⟨"7", "10.0.0.2", 6000, 60000⟩ []] fresh

theorem sweep_heals_iff_half_moved :
    Reachable Orderly halfMoved ∧ halfMoved.engine.orphans = [⟨"10.0.0.2", 6000⟩] ∧ (heal [] halfMoved).Healed := by
  have reached : Reachable Orderly halfMoved := orderly_run _ fresh fresh_reachable (by simp)
  obtain ⟨_, _, _, _, healed⟩ := sweep_heals_iff halfMoved [] reached (by decide) (by decide)
  refine ⟨reached, by decide, healed.mpr ⟨by decide, fun none => ?_⟩⟩
  exact absurd none (by decide)

-- The branch cannot be unlinked, once, when its last viewer goes.
def idled : Desk :=
  run [.request "alice" ⟨"", "10.0.0.1", 5000, 60000⟩ ["7"], .operate (.inject (.failOnce (.unlink egressName))),
    .request "alice" ⟨"7", "", 0, 0⟩ []] fresh

-- Nobody is told that anything went wrong, and the sweep leaves the branch where it is.
theorem sweep_leaves_idle_branch :
    Reachable Orderly idled ∧ (heal [] idled).leases = [] ∧
      (heal [] idled).engine.graph.hasStage egressName = true ∧ ¬ (heal [] idled).Healed := by
  have reached : Reachable Orderly idled := orderly_run _ fresh fresh_reachable (by simp)
  have vacant : (heal [] idled).leases = [] := by decide
  have present : (heal [] idled).engine.graph.hasStage egressName = true := by decide
  exact ⟨reached, vacant, present, vacant_branch_unhealed _ vacant present⟩

-- The lease is over, and its destination cannot be removed, once, when the sweep ends it.
def forgotten : Desk :=
  run [.request "alice" ⟨"", "10.0.0.1", 5000, 60000⟩ ["7"], .operate (.surroundings {} 61000),
    .operate (.inject (.failOnce (.signal "remove"))), .sweep [("alice", "7")]] fresh

-- The sweep that could try again does not: the viewer goes on receiving without a lease.
theorem sweep_forgets_destination :
    Reachable Orderly forgotten ∧ (heal [] forgotten).leases = [] ∧
      (heal [] forgotten).engine.graph.sink = [⟨"10.0.0.1", 5000⟩] ∧ ¬ (heal [] forgotten).Healed := by
  have reached : Reachable Orderly forgotten := orderly_run _ fresh fresh_reachable (by simp)
  have vacant : (heal [] forgotten).leases = [] := by decide
  exact ⟨reached, vacant, by decide, vacant_branch_unhealed _ vacant (by decide)⟩

-- The viewer cannot be added back, once, while the pipeline is rebuilt.
def starved : Desk :=
  run [.request "alice" ⟨"", "10.0.0.1", 5000, 60000⟩ ["7"], .operate (.inject (.failOnce (.signal "add"))),
    .operate (.setConfig { width := 1280 })] fresh

theorem sweep_leaves_viewer_starved :
    Reachable Orderly starved ∧ LeaseTable.endpoints (heal [] starved).leases = [⟨"10.0.0.1", 5000⟩] ∧
      (heal [] starved).engine.graph.sink = [] ∧ ¬ (heal [] starved).Healed := by
  have reached : Reachable Orderly starved := orderly_run _ fresh fresh_reachable (by simp)
  have held : LeaseTable.endpoints (heal [] starved).leases = [⟨"10.0.0.1", 5000⟩] := by decide
  have idle : (heal [] starved).engine.graph.sink = [] := by decide
  refine ⟨reached, held, idle, fun healed => ?_⟩
  have same := healed.serves.length_eq
  rw [held, idle] at same
  cases same

/-! ### Where no rebuild loses a destination -/

theorem staying_conserved (d : Desk) (lost : List Endpoint) (tally : Tally d lost) :
    d.staying.Perm (LeaseTable.endpoints (d.leases.live d.now) ++ lost) := by
  have parted := LeaseTable.past_live_perm d.leases d.now
  have listed := tally.conserved.trans (parted.append_right lost)
  rw [List.append_assoc] at listed
  rw [staying]
  apply List.perm_iff_count.mpr
  intro endpoint
  rw [List.count_diff, listed.count_eq, List.count_append, Nat.add_sub_cancel_left]

theorem service_heals_iff (d : Desk) (lost : List Endpoint) (keys : List LeaseKey) (service : Service d lost)
    (built : d.engine.constructed = true) (expired : keys.Perm (d.leases.expired d.now)) :
    (heal keys d).Healed ↔ lost = [] ∧ (d.leases.live d.now = [] → ¬ d.engine.Leftover) := by
  have tally := run_tally d lost (service_run d lost service)
  have settled := Engine.reachable_settled d.engine (service_reachable d lost service) built
  have left := staying_conserved d lost tally
  have none_lost : d.staying.Perm (LeaseTable.endpoints (d.leases.live d.now)) ↔ lost = [] := by
    constructor
    · exact fun same => by simpa using (left.symm.trans same).length_eq
    · rintro rfl
      simpa using left
  rw [healed_iff d keys settled tally.distinct expired, none_lost]

end Desk

end CameraServer
