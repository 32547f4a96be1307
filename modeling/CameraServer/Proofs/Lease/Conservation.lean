import CameraServer.Lease.Desk
import CameraServer.Proofs.Lease.Table
import CameraServer.Proofs.Pipeline.Run

/-!
Conservation of viewers. Main statement: whatever users, sweeps, new settings and failures of the
graph do, the engine serves just the live leases, and those that ended although their destination
could not be removed.
-/

set_option autoImplicit false

namespace CameraServer.Desk

def forfeit (username : String) (guid : Guid) (d : Desk) : List Endpoint :=
  match d.leases.get? (username, guid) with
  | none => []
  | some lease =>
      match d.engine.removeEndpoint lease.endpoint with
      | (.ok (), _) => []
      | (.error _, _) => [lease.endpoint]

def forfeitEach : List LeaseKey → Desk → List Endpoint
  | [], _ => []
  | key :: rest, d => d.forfeit key.1 key.2 ++ forfeitEach rest (d.endLease key.1 key.2).2

inductive Step where
  | request (username : String) (body : LeaseRequest) (draws : List Guid)
  | sweep (keys : List LeaseKey)
  | setPolicy (policy : LeasePolicy)
  | setConfig (config : PipelineConfig)
  | inject (injection : Injection)
  | surroundings (disk : Disk) (now : Instant)

namespace Step

def apply : Step → Desk → Desk
  | .request username body draws, d => (d.handleRequest username body draws).2
  | .sweep keys, d => (d.sweepInOrder keys).2
  | .setPolicy policy, d => { d with policy := policy }
  | .setConfig config, d => { d with engine := (d.engine.setConfig config).2 }
  | .inject injection, d => { d with engine := Engine.Step.apply (.inject injection) d.engine }
  | .surroundings disk now, d =>
      { d with engine := Engine.Step.apply (.surroundings disk now) d.engine }

def forfeits : Step → Desk → List Endpoint
  | .request username body _, d =>
      if body.time = 0 ∧ Text.trim body.guid ≠ "" then d.forfeit username (Text.trim body.guid) else []
  | .sweep keys, d => forfeitEach keys d
  | .setPolicy _, _ => []
  | .setConfig _, _ => []
  | .inject _, _ => []
  | .surroundings _ _, _ => []

-- A sweep ends the leases whose time has passed, in any order, and no destination is lost in a
-- rebuild.
def Permitted (d : Desk) : Step → Prop
  | .sweep keys => keys.Perm (d.leases.expired d.now)
  | .setConfig config => d.engine.ReaddsAll config
  | _ => True

end Step

inductive Run : Desk → List Endpoint → Prop where
  | start (d : Desk) (built : d.engine.constructed = true) (vacant : d.leases = [])
      (unserved : d.engine.destinations = []) : Run d []
  | step (d : Desk) (lost : List Endpoint) (s : Step) (before : Run d lost) (may : Step.Permitted d s) :
      Run (s.apply d) (lost ++ s.forfeits d)

structure Tally (d : Desk) (lost : List Endpoint) : Prop where
  distinct : (LeaseTable.keys d.leases).Nodup
  conserved : d.engine.destinations.Perm (LeaseTable.endpoints d.leases ++ lost)

section Tally

variable (d : Desk) (lost : List Endpoint)

theorem on_engine_ok (e : Engine) : d.onEngine (.ok (), e) = (.ok (), { d with engine := e }) := rfl

theorem on_engine_error (x : PipelineError) (e : Engine) :
    d.onEngine (.error x, e) = (.error (.pipeline x), { d with engine := e }) := rfl

theorem tally_of_roster (engine : Engine) (same : engine.roster = d.engine.roster) (tally : Tally d lost) :
    Tally { d with engine := engine } lost := by
  have listed : engine.destinations = d.engine.destinations := congrArg Roster.destinations same
  exact ⟨tally.distinct, by rw [listed]; exact tally.conserved⟩

theorem end_lease_tally (username : String) (guid : Guid) (tally : Tally d lost) :
    Tally (d.endLease username guid).2 (lost ++ d.forfeit username guid) := by
  rw [endLease, forfeit]
  cases found : d.leases.get? (username, guid) with
  | none =>
      rw [List.append_nil]
      exact tally
  | some lease =>
      have taken := LeaseTable.erase_endpoints d.leases _ lease tally.distinct found
      have distinct := LeaseTable.erase_keys d.leases (username, guid) tally.distinct
      have listed := tally.conserved.trans (taken.append_right lost)
      dsimp only
      rcases ends_cases _ _ _ (Engine.remove_endpoint_roster lease.endpoint d.engine) with
        ⟨next, eq, removed⟩ | ⟨x, next, eq, kept⟩
      · have same : next.destinations = d.engine.destinations.erase lease.endpoint :=
          congrArg Roster.destinations removed
        have shorter := listed.erase lease.endpoint
        rw [List.cons_append, List.erase_cons_head, ← same] at shorter
        rw [eq, on_engine_ok, List.append_nil]
        exact ⟨distinct, shorter⟩
      · have same : next.destinations = d.engine.destinations := congrArg Roster.destinations kept
        have longer : next.destinations.Perm
            (LeaseTable.endpoints (d.leases.erase (username, guid)) ++ (lost ++ [lease.endpoint])) := by
          rw [same, ← List.append_assoc]
          exact listed.trans (List.perm_append_singleton _ _).symm
        rw [eq, on_engine_error]
        exact ⟨distinct, longer⟩

theorem end_each_tally (keys : List LeaseKey) (tally : Tally d lost) :
    Tally (endEach keys d) (lost ++ forfeitEach keys d) := by
  induction keys generalizing d lost with
  | nil =>
      rw [forfeitEach, List.append_nil]
      exact tally
  | cons key rest ih =>
      rw [endEach, forfeitEach, ← List.append_assoc]
      exact ih _ _ (end_lease_tally d lost key.1 key.2 tally)

theorem sweep_tally (keys : List LeaseKey) (tally : Tally d lost) :
    Tally (d.sweepInOrder keys).2 (lost ++ forfeitEach keys d) :=
  tally_of_roster _ _ _ (Engine.reap_orphans_roster _) (end_each_tally d lost keys tally)

theorem grant_tally (username : String) (endpoint : Endpoint) (expiresAt : Instant) (draws : List Guid)
    (tally : Tally d lost) : Tally (d.grant username endpoint expiresAt draws).2 lost := by
  rw [grant]
  split
  · exact tally
  cases drawn : d.freeGuid? username draws with
  | none => exact tally
  | some guid =>
      have unused : d.leases.get? (username, guid) = none := by
        have free := List.find?_some drawn
        simpa using free
      dsimp only
      rcases ends_cases _ _ _ (Engine.add_endpoint_roster endpoint d.engine) with
        ⟨next, eq, added⟩ | ⟨x, next, eq, kept⟩
      · have same : next.destinations = d.engine.destinations ++ [endpoint] :=
          congrArg Roster.destinations added
        have grown := tally.conserved.append_right [endpoint]
        rw [← same, List.append_assoc] at grown
        have turned := grown.trans (List.Perm.append_left _ List.perm_append_comm)
        rw [← List.append_assoc] at turned
        rw [eq, on_engine_ok]
        refine ⟨LeaseTable.insert_keys d.leases _ _ tally.distinct unused, ?_⟩
        rw [LeaseTable.insert_endpoints]
        exact turned
      · rw [eq, on_engine_error]
        exact tally_of_roster d lost next kept tally

theorem moved_tally (key : LeaseKey) (lease : Lease) (endpoint : Endpoint) (engine : Engine)
    (found : d.leases.get? key = some lease)
    (moved : engine.destinations = (d.engine.destinations ++ [endpoint]).erase lease.endpoint)
    (tally : Tally d lost) :
    Tally { d with engine := engine, leases := d.leases.modify key fun l => { l with endpoint } } lost := by
  have taken := LeaseTable.erase_endpoints d.leases key lease tally.distinct found
  have given := LeaseTable.move_endpoints d.leases key lease endpoint tally.distinct found
  have grown := (tally.conserved.trans (taken.append_right lost)).append_right [endpoint]
  have shorter := grown.erase lease.endpoint
  rw [← moved, List.cons_append, List.cons_append, List.erase_cons_head] at shorter
  refine ⟨by rw [LeaseTable.modify_keys]; exact tally.distinct, ?_⟩
  have turned := shorter.trans (List.perm_append_singleton endpoint _)
  exact turned.trans (given.append_right lost).symm

theorem renew_tally (username : String) (guid : Guid) (endpoint : Endpoint) (expiresAt : Instant)
    (tally : Tally d lost) : Tally (d.renew username guid endpoint expiresAt).2 lost := by
  rw [renew]
  cases found : d.leases.get? (username, guid) with
  | none => exact tally
  | some lease =>
      dsimp only
      generalize renewed : d.leases.modify (username, guid) (fun l => { l with expiresAt }) = t
      -- A new end changes neither the keys nor the endpoints.
      have prolonged : Tally { d with leases := t } lost := by
        refine ⟨?_, ?_⟩
        · rw [← renewed, LeaseTable.modify_keys]
          exact tally.distinct
        · rw [← renewed, LeaseTable.modify_expiry_endpoints]
          exact tally.conserved
      have still : t.get? (username, guid) = some { lease with expiresAt } := by
        rw [← renewed, LeaseTable.get_modify, found]
        rfl
      split
      · exact prolonged
      · rename_i different
        rcases ends_cases _ _ _ (Engine.change_endpoint_roster lease.endpoint endpoint d.engine different) with
          ⟨next, eq, moved⟩ | ⟨x, next, eq, list, same, kept⟩
        · have listed := congrArg Roster.destinations moved
          rw [eq, on_engine_ok]
          exact moved_tally { d with leases := t } lost _ _ endpoint next still listed prolonged
        · have listed : next.destinations = list := congrArg Roster.destinations kept
          rw [eq, on_engine_error]
          exact ⟨prolonged.distinct, by rw [listed]; exact same.trans prolonged.conserved⟩

theorem lease_camera_tally (guid username : String) (endpoint : Endpoint) (requested : Nat)
    (draws : List Guid) (tally : Tally d lost) :
    Tally (d.leaseCamera guid username endpoint requested draws).2 lost := by
  rw [leaseCamera]
  split
  · exact tally
  cases d.expiryOf requested with
  | error x => exact tally
  | ok expiresAt =>
      dsimp only
      split
      · exact grant_tally d lost username endpoint expiresAt draws tally
      · exact renew_tally d lost username guid endpoint expiresAt tally

theorem handle_request_tally (username : String) (body : LeaseRequest) (draws : List Guid)
    (tally : Tally d lost) :
    Tally (d.handleRequest username body draws).2
      (lost ++ Step.forfeits (.request username body draws) d) := by
  rw [handleRequest, Step.forfeits]
  by_cases ends : body.time = 0
  · have present : ¬ body.time < 0 := by omega
    by_cases unnamed : Text.trim body.guid = ""
    · simpa [ends, unnamed] using tally
    · simpa [ends, unnamed] using end_lease_tally d lost username (Text.trim body.guid) tally
  · have nothing : ¬ (body.time = 0 ∧ Text.trim body.guid ≠ "") := fun both => ends both.1
    rw [if_neg nothing, List.append_nil]
    by_cases negative : body.time < 0
    · rw [if_pos negative]
      exact tally
    · rw [if_neg negative, if_neg ends]
      cases body.endpoint with
      | error fault => exact tally
      | ok endpoint => exact lease_camera_tally d lost _ username endpoint _ draws tally

theorem step_tally (s : Step) (may : Step.Permitted d s) (tally : Tally d lost) :
    Tally (s.apply d) (lost ++ s.forfeits d) := by
  cases s with
  | request username body draws => exact handle_request_tally d lost username body draws tally
  | sweep keys => exact sweep_tally d lost keys tally
  | setPolicy policy =>
      rw [Step.forfeits, List.append_nil]
      exact ⟨tally.distinct, tally.conserved⟩
  | setConfig config =>
      rw [Step.forfeits, List.append_nil]
      have same := Engine.set_config_destinations config d.engine may
      exact ⟨tally.distinct, by rw [Step.apply, same]; exact tally.conserved⟩
  | inject injection =>
      rw [Step.forfeits, List.append_nil]
      exact tally_of_roster d lost _ rfl tally
  | surroundings disk now =>
      rw [Step.forfeits, List.append_nil]
      exact tally_of_roster d lost _ rfl tally

theorem end_lease_forfeits (username : String) (guid : Guid) :
    Ends (d.endLease username guid) (fun _ => d.forfeit username guid = [])
      (fun _ => ∃ lease, d.leases.get? (username, guid) = some lease ∧
        d.forfeit username guid = [lease.endpoint]) := by
  rw [endLease, forfeit]
  cases found : d.leases.get? (username, guid) with
  | none => rfl
  | some lease =>
      dsimp only
      rcases d.engine.removeEndpoint lease.endpoint with ⟨x | u, next⟩
      · exact ⟨lease, rfl, rfl⟩
      · rfl

end Tally

theorem run_tally (d : Desk) (lost : List Endpoint) (run : Run d lost) : Tally d lost := by
  induction run with
  | start d built vacant unserved =>
      refine ⟨by simp [vacant, LeaseTable.keys], ?_⟩
      rw [vacant, unserved]
      exact List.Perm.refl []
  | step d lost s before may ih => exact step_tally d lost s may ih

theorem viewers_conserved (d : Desk) (lost : List Endpoint) (run : Run d lost) :
    d.engine.destinations.Perm (LeaseTable.endpoints d.leases ++ lost) :=
  (run_tally d lost run).conserved

-- A lease that is granted, and ended when the graph refuses to remove destinations.
def granted : Desk :=
  Step.apply (.request "alice" ⟨"", "10.0.0.1", 5000, 60000⟩ ["7"]) { engine := .fresh }

def jammed : Desk := Step.apply (.inject (.failOn (.signal "remove"))) granted

def stranded : Desk := Step.apply (.request "alice" ⟨"7", "", 0, 0⟩ []) jammed

theorem viewers_conserved_stranded :
    Run stranded [⟨"10.0.0.1", 5000⟩] ∧ stranded.leases = [] ∧
      stranded.engine.destinations.Perm (LeaseTable.endpoints stranded.leases ++ [⟨"10.0.0.1", 5000⟩]) := by
  have opened : Run { engine := .fresh } [] := .start _ (by decide) rfl (by decide)
  have run : Run stranded [⟨"10.0.0.1", 5000⟩] :=
    .step jammed [] _ (.step granted [] _ (.step _ [] _ opened trivial) trivial) trivial
  exact ⟨run, by decide, viewers_conserved stranded _ run⟩

end CameraServer.Desk
