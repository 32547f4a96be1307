import CameraServer.Proofs.Lease.Run
import CameraServer.Proofs.Pipeline.Calm

/-!
Isolation of users. Main statement: once nothing fails any more, what a user is answered depends on the
time, the policy and the leases of that user alone, whatever others hold and whatever old failures have
left on the graph; and no request touches a lease of anybody else.
-/

set_option autoImplicit false

namespace CameraServer.Desk

structure Ready (d : Desk) : Prop where
  reached : Reachable Orderly d
  built : d.engine.constructed = true
  quiet : ∀ p, d.engine.graph.fails p = false

theorem ready_calm (d : Desk) (ready : Ready d) : d.engine.Calm :=
  ⟨Engine.reachable_settled d.engine (reachable_engine d ready.reached) ready.built, ready.quiet⟩

structure Alike (username : String) (d other : Desk) : Prop where
  clock : d.now = other.now
  policy : d.policy = other.policy
  own : (d.leases.ofUser username).Perm (other.leases.ofUser username)

structure Agree (username : String) (r s : DeskOutcome LeaseGrant) : Prop where
  answer : r.1 = s.1
  own : (r.2.leases.ofUser username).Perm (s.2.leases.ofUser username)

section Alike

variable (username : String) (d other : Desk) (alike : Alike username d other)

include alike

theorem error_agrees (x : LeaseError) : Agree username (.error x, d) (.error x, other) := ⟨rfl, alike.own⟩

theorem expiry_alike (requested : Nat) : d.expiryOf requested = other.expiryOf requested := by
  rw [expiryOf, expiryOf, alike.clock, alike.policy]

theorem count_alike : d.leases.count username = other.leases.count username := alike.own.length_eq

section Distinct

variable (distinct : (LeaseTable.keys d.leases).Nodup)

include distinct

theorem get_alike (guid : Guid) : d.leases.get? (username, guid) = other.leases.get? (username, guid) := by
  rw [← LeaseTable.get_of_user d.leases (username, guid) username rfl,
    ← LeaseTable.get_of_user other.leases (username, guid) username rfl]
  exact LeaseTable.get_perm _ _ _ (LeaseTable.of_user_keys d.leases username distinct) alike.own

theorem free_guid_alike (draws : List Guid) : d.freeGuid? username draws = other.freeGuid? username draws := by
  rw [freeGuid?, freeGuid?]
  congr 1
  funext guid
  rw [get_alike username d other alike distinct guid]

/-! ### The same request at both desks -/

section Calm

variable (calm : d.engine.Calm) (calmOther : other.engine.Calm)

include calm calmOther

theorem end_lease_agrees (guid : Guid) : Agree username (d.endLease username guid) (other.endLease username guid) := by
  rw [endLease, endLease, ← get_alike username d other alike distinct guid]
  cases d.leases.get? (username, guid) with
  | none => exact ⟨rfl, alike.own⟩
  | some lease =>
      obtain ⟨next, removed, _⟩ := Engine.remove_endpoint_calm lease.endpoint d.engine calm
      obtain ⟨nextOther, removedOther, _⟩ := Engine.remove_endpoint_calm lease.endpoint other.engine calmOther
      dsimp only
      rw [removed, removedOther]
      exact ⟨rfl, LeaseTable.erase_alike d.leases (username, guid) username other.leases alike.own⟩

theorem grant_agrees (endpoint : Endpoint) (expiresAt : Instant) (draws : List Guid) :
    Agree username (d.grant username endpoint expiresAt draws) (other.grant username endpoint expiresAt draws) := by
  rw [grant, grant, count_alike username d other alike, alike.policy, free_guid_alike username d other alike distinct]
  split
  · exact error_agrees username d other alike _
  · cases other.freeGuid? username draws with
    | none => exact error_agrees username d other alike _
    | some guid =>
        obtain ⟨next, added, _⟩ := Engine.add_endpoint_calm endpoint d.engine calm
        obtain ⟨nextOther, addedOther, _⟩ := Engine.add_endpoint_calm endpoint other.engine calmOther
        dsimp only
        rw [added, addedOther]
        exact ⟨rfl, LeaseTable.insert_alike d.leases (username, guid) _ username other.leases alike.own rfl⟩

theorem renew_agrees (guid : Guid) (endpoint : Endpoint) (expiresAt : Instant) :
    Agree username (d.renew username guid endpoint expiresAt) (other.renew username guid endpoint expiresAt) := by
  have later := LeaseTable.modify_alike d.leases (username, guid) username other.leases alike.own
    fun l => { l with expiresAt }
  rw [renew, renew, ← get_alike username d other alike distinct guid]
  cases d.leases.get? (username, guid) with
  | none => exact error_agrees username d other alike _
  | some lease =>
      dsimp only
      split
      · exact ⟨rfl, later⟩
      · obtain ⟨next, moved, _⟩ := Engine.change_endpoint_calm lease.endpoint endpoint d.engine calm
        obtain ⟨nextOther, movedOther, _⟩ := Engine.change_endpoint_calm lease.endpoint endpoint other.engine calmOther
        rw [moved, movedOther]
        exact ⟨rfl, LeaseTable.modify_alike _ (username, guid) username _ later fun l => { l with endpoint }⟩

theorem handle_request_agrees (body : LeaseRequest) (draws : List Guid) :
    Agree username (d.handleRequest username body draws) (other.handleRequest username body draws) := by
  rw [handleRequest, handleRequest]
  split
  · exact error_agrees username d other alike _
  · split
    · split
      · exact error_agrees username d other alike _
      · exact end_lease_agrees username d other alike distinct calm calmOther _
    · cases body.endpoint with
      | error fault => exact error_agrees username d other alike _
      | ok endpoint =>
          dsimp only
          rw [leaseCamera, leaseCamera, ← expiry_alike username d other alike]
          split
          · exact error_agrees username d other alike _
          · cases d.expiryOf body.time.toNat with
            | error x => exact error_agrees username d other alike _
            | ok expiresAt =>
                dsimp only
                split
                · exact grant_agrees username d other alike distinct calm calmOther endpoint expiresAt draws
                · exact renew_agrees username d other alike distinct calm calmOther _ endpoint expiresAt

end Calm

end Distinct

end Alike

/-! ### The leases of others -/

theorem handle_request_others (username name : String) (different : name ≠ username) (body : LeaseRequest)
    (draws : List Guid) (d : Desk) :
    (d.handleRequest username body draws).2.leases.ofUser name = d.leases.ofUser name := by
  have other : ∀ guid : Guid, (username, guid).1 ≠ name := fun _ same => different same.symm
  apply exit_table (·.ofUser name = d.leases.ofUser name) username body.time d _ _ _ _ rfl _
    (handle_request_exit username d body draws)
  · exact fun guid _ => LeaseTable.erase_of_other _ _ name (other guid)
  · exact fun lease _ _ _ _ _ => LeaseTable.insert_of_other _ _ lease name (other lease.guid)
  · exact fun guid expiresAt _ _ => LeaseTable.modify_of_other _ _ name (other guid) _
  · exact fun t guid endpoint kept => (LeaseTable.modify_of_other t _ name (other guid) _).trans kept

theorem users_isolated (d other : Desk) (ready : Ready d) (readyOther : Ready other) (username : String)
    (alike : Alike username d other) (body : LeaseRequest) (draws : List Guid) :
    (d.handleRequest username body draws).1 = (other.handleRequest username body draws).1 ∧
      ((d.handleRequest username body draws).2.leases.ofUser username).Perm
        ((other.handleRequest username body draws).2.leases.ofUser username) ∧
      ∀ name, name ≠ username →
        (d.handleRequest username body draws).2.leases.ofUser name = d.leases.ofUser name ∧
          (other.handleRequest username body draws).2.leases.ofUser name = other.leases.ofUser name := by
  have distinct := (reachable_filed Orderly d ready.reached).distinct
  have agree := handle_request_agrees username d other alike distinct (ready_calm d ready) (ready_calm other readyOther)
    body draws
  refine ⟨agree.answer, agree.own, fun name different => ⟨?_, ?_⟩⟩
  · exact handle_request_others username name different body draws d
  · exact handle_request_others username name different body draws other

-- Alice and Bob hold a lease each. Bob's viewer got stuck in a move and left an orphan behind.
def shared : Desk :=
  run [.request "alice" ⟨"", "10.0.0.1", 5000, 60000⟩ ["7"], .request "bob" ⟨"", "10.0.0.2", 6000, 60000⟩ ["9"],
    .operate (.inject (.failOn (.signal "remove"))), .request "bob" ⟨"9", "10.0.0.3", 7000, 60000⟩ [],
    .operate (.inject .clearAll)] fresh

def alone : Desk := run [.request "alice" ⟨"", "10.0.0.1", 5000, 60000⟩ ["7"]] fresh

-- Neither desk lets Alice end Bob's lease, and where he has one he keeps it.
theorem users_isolated_shared :
    Ready shared ∧ Ready alone ∧ Alike "alice" shared alone ∧ shared.engine.orphans = [⟨"10.0.0.3", 7000⟩] ∧
      (shared.handleRequest "alice" ⟨"9", "", 0, 0⟩ []).1 = (alone.handleRequest "alice" ⟨"9", "", 0, 0⟩ []).1 ∧
      (shared.handleRequest "alice" ⟨"9", "", 0, 0⟩ []).2.leases.ofUser "bob" =
        [(("bob", "9"), ⟨"9", "bob", ⟨"10.0.0.2", 6000⟩, 60000⟩)] := by
  have ready : Ready shared := ⟨orderly_run _ fresh fresh_reachable (by simp), by decide, fun _ => rfl⟩
  have readyAlone : Ready alone := ⟨orderly_run _ fresh fresh_reachable (by simp), by decide, fun _ => rfl⟩
  have alike : Alike "alice" shared alone := ⟨by decide, by decide, by decide⟩
  obtain ⟨same, _, others⟩ := users_isolated shared alone ready readyAlone "alice" alike ⟨"9", "", 0, 0⟩ []
  exact ⟨ready, readyAlone, alike, by decide, same, (others "bob" (by decide)).1.trans (by decide)⟩

end CameraServer.Desk
