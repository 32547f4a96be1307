import CameraServer.Proofs.Lease.Run
import CameraServer.Proofs.Pipeline.Sound

/-!
Grants and renewals that fail. Main statements: such a request ends before it touches anything, when the
destination cannot be added, or when the lease has its new end and cannot be moved; and wherever it ends,
every lease is kept, everybody who was served still is, and only the lease that was to be renewed may last
longer.
-/

set_option autoImplicit false

namespace CameraServer

namespace LeaseTable

def undated (t : LeaseTable) : LeaseTable := t.map fun entry => (entry.1, { entry.2 with expiresAt := 0 })

variable (t : LeaseTable) (key : LeaseKey)

theorem modify_expiry_undated (expiresAt : Instant) :
    undated (t.modify key fun l => { l with expiresAt }) = undated t := by
  rw [undated, modify, List.map_map]
  apply List.map_congr_left
  intro entry _
  by_cases same : entry.1 = key <;> simp [same]

theorem modify_others (f : Lease → Lease) : (t.modify key f).erase key = t.erase key := by
  induction t with
  | nil => rfl
  | cons entry rest ih =>
      by_cases same : entry.1 = key
      · simpa [modify, erase, same] using ih
      · simpa [modify, erase, same] using ih

end LeaseTable

namespace Desk

inductive Turned (guid username : String) (endpoint : Endpoint) (d : Desk) : Desk → Prop where
  | outright : Turned guid username endpoint d d
  | unserved (x : PipelineError) (engine : Engine) (failed : d.engine.addEndpoint endpoint = (.error x, engine)) :
      Turned guid username endpoint d { d with engine := engine }
  -- The lease is already written by the time its destination is to move.
  | stuck (lease : Lease) (expiresAt : Instant) (x : PipelineError) (engine : Engine) (named : guid ≠ "")
      (moving : lease.endpoint ≠ endpoint)
      (failed : d.engine.changeEndpoint lease.endpoint endpoint = (.error x, engine)) :
      Turned guid username endpoint d
        { d with engine := engine, leases := d.leases.modify (username, guid) fun l => { l with expiresAt } }

section Turned

variable (guid username : String) (endpoint : Endpoint) (d : Desk)

theorem grant_turned (expiresAt : Instant) (draws : List Guid) :
    Ends (d.grant username endpoint expiresAt draws) (fun _ => True) (Turned guid username endpoint d) := by
  rw [grant]
  split
  · exact .outright
  · cases d.freeGuid? username draws with
    | none => exact .outright
    | some drawn =>
        dsimp only
        rcases eq : d.engine.addEndpoint endpoint with ⟨x | u, engine⟩
        · exact .unserved x engine eq
        · trivial

theorem renew_turned (expiresAt : Instant) (named : guid ≠ "") :
    Ends (d.renew username guid endpoint expiresAt) (fun _ => True) (Turned guid username endpoint d) := by
  rw [renew]
  cases d.leases.get? (username, guid) with
  | none => exact .outright
  | some lease =>
      dsimp only
      by_cases same : lease.endpoint = endpoint
      · rw [if_pos same]
        trivial
      · rw [if_neg same]
        rcases eq : d.engine.changeEndpoint lease.endpoint endpoint with ⟨x | u, engine⟩
        · exact .stuck lease expiresAt x engine named same eq
        · trivial

theorem lease_camera_turned (requested : Nat) (draws : List Guid) :
    Ends (d.leaseCamera guid username endpoint requested draws) (fun _ => True) (Turned guid username endpoint d) := by
  rw [leaseCamera]
  split
  · exact .outright
  · cases d.expiryOf requested with
    | error x => exact .outright
    | ok expiresAt =>
        dsimp only
        by_cases fresh : guid = ""
        · rw [if_pos fresh]
          exact grant_turned guid username endpoint d expiresAt draws
        · rw [if_neg fresh]
          exact renew_turned guid username endpoint d expiresAt fresh

/-! ### What is kept -/

variable (next : Desk) (turned : Turned guid username endpoint d next)

include turned

theorem turned_leases : next.leases = d.leases ∨
    guid ≠ "" ∧ ∃ expiresAt, next.leases = d.leases.modify (username, guid) fun l => { l with expiresAt } := by
  cases turned with
  | outright => exact .inl rfl
  | unserved x engine _ => exact .inl rfl
  | stuck lease expiresAt x engine named _ _ => exact .inr ⟨named, expiresAt, rfl⟩

theorem turned_destinations : next.engine.destinations.Perm d.engine.destinations := by
  cases turned with
  | outright => exact List.Perm.refl _
  | unserved x engine failed =>
      have roster := Engine.add_endpoint_roster endpoint d.engine
      rw [failed] at roster
      have same : engine.destinations = d.engine.destinations := congrArg Roster.destinations roster
      exact same ▸ List.Perm.refl _
  | stuck lease expiresAt x engine _ moving failed =>
      have roster := Engine.change_endpoint_roster lease.endpoint endpoint d.engine moving
      rw [failed] at roster
      obtain ⟨list, perm, same⟩ := roster
      have listed : engine.destinations = list := congrArg Roster.destinations same
      exact listed ▸ perm

theorem turned_engine (reached : Engine.Reachable Engine.Orderly d.engine) :
    Engine.Reachable Engine.Orderly next.engine := by
  cases turned with
  | outright => exact reached
  | unserved x engine failed =>
      have step := other_step_reachable (.addEndpoint endpoint) d.engine (by simp) reached
      rwa [Engine.Step.apply, failed] at step
  | stuck lease expiresAt x engine _ _ failed =>
      have step := other_step_reachable (.changeEndpoint lease.endpoint endpoint) d.engine (by simp) reached
      rwa [Engine.Step.apply, failed] at step

end Turned

theorem refused_lease_keeps_service (d : Desk) (reached : Reachable Orderly d) (guid username : String)
    (endpoint : Endpoint) (requested : Nat) (draws : List Guid) (x : LeaseError) (next : Desk)
    (refused : d.leaseCamera guid username endpoint requested draws = (.error x, next)) :
    next.leases.undated = d.leases.undated ∧
      next.leases.erase (username, guid) = d.leases.erase (username, guid) ∧
      (guid = "" → next.leases = d.leases) ∧
      next.engine.destinations.Perm d.engine.destinations ∧
      (next.engine.constructed = true → next.engine.destinations.Subperm next.engine.graph.sink) := by
  have turned := lease_camera_turned guid username endpoint d requested draws
  rw [refused] at turned
  have served := turned_engine guid username endpoint d next turned (reachable_engine d reached)
  have leases := turned_leases guid username endpoint d next turned
  refine ⟨?_, ?_, ?_, turned_destinations guid username endpoint d next turned, ?_⟩
  · rcases leases with same | ⟨_, expiresAt, prolonged⟩
    · rw [same]
    · rw [prolonged]
      exact LeaseTable.modify_expiry_undated d.leases _ expiresAt
  · rcases leases with same | ⟨_, expiresAt, prolonged⟩
    · rw [same]
    · rw [prolonged]
      exact LeaseTable.modify_others d.leases _ _
  · intro fresh
    rcases leases with same | ⟨named, _⟩
    · exact same
    · exact absurd fresh named
  · intro built
    exact Engine.subperm_of_balance _ _ _ (Engine.reachable_settled next.engine served built).2

-- A viewer that cannot be moved, since no destination can be removed.
def unmovable : Desk :=
  run [.request "alice" ⟨"", "10.0.0.1", 5000, 60000⟩ ["7"], .operate (.inject (.failOn (.signal "remove")))] fresh

theorem refused_lease_keeps_service_unmovable :
    ∃ x next, unmovable.leaseCamera "7" "alice" ⟨"10.0.0.2", 6000⟩ 5000 [] = (.error x, next) ∧
      next.leases = [(("alice", "7"), ⟨"7", "alice", ⟨"10.0.0.1", 5000⟩, 5000⟩)] ∧
      next.leases.undated = unmovable.leases.undated ∧
      next.engine.orphans = [⟨"10.0.0.2", 6000⟩] ∧
      next.engine.destinations.Perm unmovable.engine.destinations ∧
      next.engine.destinations.Subperm next.engine.graph.sink := by
  have reached : Reachable Orderly unmovable := orderly_run _ fresh fresh_reachable (by simp)
  have failed : (unmovable.leaseCamera "7" "alice" ⟨"10.0.0.2", 6000⟩ 5000 []).1 =
      .error (.pipeline (.graph (.signal (.stage Media.egressName) "remove" .injected))) := by
    decide
  have refused : unmovable.leaseCamera "7" "alice" ⟨"10.0.0.2", 6000⟩ 5000 [] = (.error _, _) :=
    Prod.ext failed rfl
  obtain ⟨kept, _, _, served, shown⟩ := refused_lease_keeps_service unmovable reached _ _ _ _ _ _ _ refused
  exact ⟨_, _, refused, by decide, kept, by decide, served, shown (by decide)⟩

end Desk

end CameraServer
