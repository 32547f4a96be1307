import CameraServer.Lease.Desk
import CameraServer.Proofs.Lease.Table

/-!
How the request of a user can end. Main statements: every request ends in one of nine ways, each with its
answer, its call on the engine and its change of the table; so what the changes of the table keep, every
request keeps.
-/

set_option autoImplicit false

namespace CameraServer.Desk

def Dated (d : Desk) (time : Int) (expiresAt : Instant) : Prop :=
  0 < time ∧ expiresAt = d.now + min time d.policy.maxLease

theorem expiry_dated (d : Desk) (time : Int) (expiresAt : Instant) (lasting : 0 < time)
    (granted : d.expiryOf time.toNat = .ok expiresAt) : d.Dated time expiresAt := by
  have span : ((min time.toNat d.policy.maxLease : Nat) : Int) = min time d.policy.maxLease := by omega
  rw [expiryOf] at granted
  split at granted
  · rw [Dated, ← span]
    exact ⟨lasting, (Except.ok.inj granted).symm⟩
  · cases granted

theorem dated_due (d : Desk) (time : Int) (expiresAt : Instant) (dated : d.Dated time expiresAt) :
    expiresAt ≤ d.now + d.policy.maxLease := by
  rw [dated.2]
  exact Int.add_le_add_left (Int.min_le_right _ _) _

theorem expiry_refused (d : Desk) (requested : Nat) (x : LeaseError) (refused : d.expiryOf requested = .error x) :
    x.httpStatus = 400 := by
  rw [expiryOf] at refused
  split at refused
  · cases refused
  · rw [← Except.error.inj refused]
    rfl

theorem free_guid (d : Desk) (username : String) (draws : List Guid) (guid : Guid)
    (drawn : d.freeGuid? username draws = some guid) : d.leases.get? (username, guid) = none := by
  have free := List.find?_some drawn
  simpa using free

inductive Exit (username : String) (time : Int) (d : Desk) : DeskOutcome LeaseGrant → Prop where
  -- Only a user without a name is asked for credentials.
  | refused (x : LeaseError) (kind : username = "" ∨ x.httpStatus ∈ [400, 403, 500]) :
      Exit username time d (.error x, d)
  | unserved (endpoint : Endpoint) (x : PipelineError) (engine : Engine)
      (failed : d.engine.addEndpoint endpoint = (.error x, engine)) :
      Exit username time d (.error (.pipeline x), { d with engine := engine })
  | granted (guid : Guid) (endpoint : Endpoint) (expiresAt : Instant) (engine : Engine)
      (dated : d.Dated time expiresAt) (room : d.leases.count username < d.policy.maxLeasesPerUser)
      (free : d.leases.get? (username, guid) = none) (added : d.engine.addEndpoint endpoint = (.ok (), engine)) :
      Exit username time d (.ok ⟨guid, .granted, some expiresAt⟩,
        { d with
          engine := engine
          leases := d.leases.insert (username, guid) ⟨guid, username, endpoint, expiresAt⟩ })
  | prolonged (guid : Guid) (lease : Lease) (expiresAt : Instant) (dated : d.Dated time expiresAt)
      (found : d.leases.get? (username, guid) = some lease) :
      Exit username time d (.ok ⟨guid, .renewed, some expiresAt⟩,
        { d with leases := d.leases.modify (username, guid) fun l => { l with expiresAt } })
  | moved (guid : Guid) (lease : Lease) (endpoint : Endpoint) (expiresAt : Instant) (engine : Engine)
      (dated : d.Dated time expiresAt) (found : d.leases.get? (username, guid) = some lease)
      (changed : d.engine.changeEndpoint lease.endpoint endpoint = (.ok (), engine)) :
      Exit username time d (.ok ⟨guid, .renewed, some expiresAt⟩,
        { d with
          engine := engine
          leases := (d.leases.modify (username, guid) fun l => { l with expiresAt }).modify (username, guid)
            fun l => { l with endpoint } })
  -- The lease has its new end even when the move fails.
  | stuck (guid : Guid) (lease : Lease) (endpoint : Endpoint) (expiresAt : Instant) (x : PipelineError)
      (engine : Engine) (dated : d.Dated time expiresAt) (found : d.leases.get? (username, guid) = some lease)
      (failed : d.engine.changeEndpoint lease.endpoint endpoint = (.error x, engine)) :
      Exit username time d (.error (.pipeline x),
        { d with
          engine := engine
          leases := d.leases.modify (username, guid) fun l => { l with expiresAt } })
  | unknown (guid : Guid) (absent : d.leases.get? (username, guid) = none) :
      Exit username time d (.ok ⟨guid, .notFound, none⟩, d)
  | released (guid : Guid) (lease : Lease) (engine : Engine)
      (found : d.leases.get? (username, guid) = some lease)
      (removed : d.engine.removeEndpoint lease.endpoint = (.ok (), engine)) :
      Exit username time d (.ok ⟨lease.guid, .released, none⟩,
        { d with engine := engine, leases := d.leases.erase (username, guid) })
  | forfeited (guid : Guid) (lease : Lease) (x : PipelineError) (engine : Engine)
      (found : d.leases.get? (username, guid) = some lease)
      (failed : d.engine.removeEndpoint lease.endpoint = (.error x, engine)) :
      Exit username time d (.error (.pipeline x),
        { d with engine := engine, leases := d.leases.erase (username, guid) })

/-! ### The request of a user -/

section Exit

variable (username : String) (time : Int) (d : Desk)

theorem end_lease_exit (guid : Guid) : Exit username time d (d.endLease username guid) := by
  rw [endLease]
  cases found : d.leases.get? (username, guid) with
  | none => exact .unknown guid found
  | some lease =>
      dsimp only
      rcases eq : d.engine.removeEndpoint lease.endpoint with ⟨x | u, engine⟩
      · exact .forfeited guid lease x engine found eq
      · exact .released guid lease engine found eq

theorem grant_exit (endpoint : Endpoint) (expiresAt : Instant) (draws : List Guid) (dated : d.Dated time expiresAt) :
    Exit username time d (d.grant username endpoint expiresAt draws) := by
  rw [grant]
  split
  · exact .refused _ (.inr (by simp [LeaseError.httpStatus]))
  · rename_i room
    cases drawn : d.freeGuid? username draws with
    | none => exact .refused _ (.inr (by decide))
    | some guid =>
        dsimp only
        rcases eq : d.engine.addEndpoint endpoint with ⟨x | u, engine⟩
        · exact .unserved endpoint x engine eq
        · exact .granted guid endpoint expiresAt engine dated (by omega) (free_guid d username draws guid drawn) eq

theorem renew_exit (guid : Guid) (endpoint : Endpoint) (expiresAt : Instant) (dated : d.Dated time expiresAt) :
    Exit username time d (d.renew username guid endpoint expiresAt) := by
  rw [renew]
  cases found : d.leases.get? (username, guid) with
  | none => exact .refused _ (.inr (by simp [LeaseError.httpStatus]))
  | some lease =>
      dsimp only
      split
      · exact .prolonged guid lease expiresAt dated found
      · rcases eq : d.engine.changeEndpoint lease.endpoint endpoint with ⟨x | u, engine⟩
        · exact .stuck guid lease endpoint expiresAt x engine dated found eq
        · exact .moved guid lease endpoint expiresAt engine dated found eq

theorem handle_request_exit (body : LeaseRequest) (draws : List Guid) :
    Exit username body.time d (d.handleRequest username body draws) := by
  have malformed (fault : RequestFault) : (LeaseError.invalidRequest fault).httpStatus ∈ [400, 403, 500] :=
    .head _
  rw [handleRequest]
  split
  · exact .refused _ (.inr (malformed _))
  · split
    · split
      · exact .refused _ (.inr (malformed _))
      · exact end_lease_exit username body.time d (Text.trim body.guid)
    · cases body.endpoint with
      | error fault => exact .refused _ (.inr (malformed fault))
      | ok endpoint =>
          dsimp only
          rw [leaseCamera]
          split
          · next nameless => exact .refused _ (.inl nameless)
          · cases granted : d.expiryOf body.time.toNat with
            | error x => exact .refused _ (.inr (by simp [expiry_refused d _ x granted]))
            | ok expiresAt =>
                have dated := expiry_dated d body.time expiresAt (by omega) granted
                dsimp only
                split
                · exact grant_exit username body.time d endpoint expiresAt draws dated
                · exact renew_exit username body.time d _ endpoint expiresAt dated

end Exit

/-! ### The table afterwards -/

section Table

variable (keep : LeaseTable → Prop) (username : String) (time : Int) (d : Desk)
variable (ended : ∀ guid, keep d.leases → keep (d.leases.erase (username, guid)))
variable (added : ∀ lease, keep d.leases → lease.username = username →
  d.leases.count username < d.policy.maxLeasesPerUser → d.leases.get? (username, lease.guid) = none →
  lease.expiresAt ≤ d.now + d.policy.maxLease → keep (d.leases.insert (username, lease.guid) lease))
variable (prolonged : ∀ guid expiresAt, keep d.leases → expiresAt ≤ d.now + d.policy.maxLease →
  keep (d.leases.modify (username, guid) fun l => { l with expiresAt }))
variable (moved : ∀ t guid endpoint, keep t → keep (t.modify (username, guid) fun l => { l with endpoint }))
variable (before : keep d.leases)

include ended added prolonged moved before in
theorem exit_table (r : DeskOutcome LeaseGrant) (exit : Exit username time d r) : keep r.2.leases := by
  cases exit with
  | refused x _ => exact before
  | unserved endpoint x engine failed => exact before
  | granted guid endpoint expiresAt engine dated room free _ =>
      exact added ⟨guid, username, endpoint, expiresAt⟩ before rfl room free (dated_due d time expiresAt dated)
  | prolonged guid lease expiresAt dated found =>
      exact prolonged guid expiresAt before (dated_due d time expiresAt dated)
  | moved guid lease endpoint expiresAt engine dated found _ =>
      exact moved _ guid endpoint (prolonged guid expiresAt before (dated_due d time expiresAt dated))
  | stuck guid lease endpoint expiresAt x engine dated found _ =>
      exact prolonged guid expiresAt before (dated_due d time expiresAt dated)
  | unknown guid absent => exact before
  | released guid lease engine found _ => exact ended guid before
  | forfeited guid lease x engine found _ => exact ended guid before

end Table

theorem exit_policy (username : String) (time : Int) (d : Desk) (r : DeskOutcome LeaseGrant)
    (exit : Exit username time d r) : r.2.policy = d.policy := by
  cases exit <;> rfl

theorem end_each_policy (keys : List LeaseKey) (d : Desk) : (endEach keys d).policy = d.policy := by
  induction keys generalizing d with
  | nil => rfl
  | cons key rest ih =>
      rw [endEach, ih]
      exact exit_policy key.1 0 d _ (end_lease_exit key.1 0 d key.2)

/-! ### Leases that end -/

theorem end_lease_leases (username : String) (guid : Guid) (d : Desk) :
    (d.endLease username guid).2.leases = d.leases.erase (username, guid) := by
  rw [endLease]
  cases found : d.leases.get? (username, guid) with
  | none =>
      have absent := LeaseTable.get_none d.leases (username, guid) found
      exact (LeaseTable.erase_absent d.leases (username, guid) absent).symm
  | some lease =>
      dsimp only
      rcases d.engine.removeEndpoint lease.endpoint with ⟨x | u, next⟩
      · rfl
      · rfl

theorem end_each_leases (keys : List LeaseKey) (d : Desk) :
    (endEach keys d).leases = d.leases.filter fun entry => entry.1 ∉ keys := by
  induction keys generalizing d with
  | nil => simp [endEach]
  | cons key rest ih =>
      obtain ⟨username, guid⟩ := key
      rw [endEach, ih, end_lease_leases, LeaseTable.erase, List.filter_filter]
      apply List.filter_congr
      intro entry _
      simp [Bool.and_comm]

end CameraServer.Desk
