import CameraServer.Lease.Table
import CameraServer.Pipeline.Reconfigure

/-!
The lease desk. A lease gives a viewer a destination on the egress branch for a limited time; it is
renewed before that time is over, or ended, or swept away afterwards.
-/

set_option autoImplicit false

namespace CameraServer

structure Desk where
  engine : Engine
  policy : LeasePolicy := {}
  leases : LeaseTable := []

abbrev DeskOutcome (α : Type) := Except LeaseError α × Desk

namespace Desk

def now (d : Desk) : Instant :=
  d.engine.site.now

def onEngine (d : Desk) (r : Outcome Unit) : DeskOutcome Unit :=
  (r.1.mapError .pipeline, { d with engine := r.2 })

/-- The longest time span, in milliseconds, that can be added to a date. -/
def maxSpan : Nat := 9223372036854775807

def expiryOf (d : Desk) (requested : Nat) : Except LeaseError Instant :=
  let granted := min requested d.policy.maxLease
  if granted ≤ maxSpan then .ok (d.now + granted)
  else .error (.invalidRequest .timeOutOfRange)

def freeGuid? (d : Desk) (username : String) (draws : List Guid) : Option Guid :=
  draws.find? fun guid => (d.leases.get? (username, guid)).isNone

def grant (username : String) (endpoint : Endpoint) (expiresAt : Instant) (draws : List Guid)
    (d : Desk) : DeskOutcome LeaseGrant :=
  if d.policy.maxLeasesPerUser ≤ d.leases.count username then
    (.error (.limitReached username d.policy.maxLeasesPerUser), d)
  else
    match d.freeGuid? username draws with
    | none => (.error .idsExhausted, d)
    | some guid =>
        match d.onEngine (d.engine.addEndpoint endpoint) with
        | (.error x, d) => (.error x, d)
        | (.ok (), d) =>
            (.ok ⟨guid, .granted, some expiresAt⟩,
              { d with
                leases := d.leases.insert (username, guid) ⟨guid, username, endpoint, expiresAt⟩ })

def renew (username : String) (guid : Guid) (endpoint : Endpoint) (expiresAt : Instant) (d : Desk) :
    DeskOutcome LeaseGrant :=
  let key := (username, guid)
  match d.leases.get? key with
  | none => (.error (.unknownLease guid), d)
  | some lease =>
      let d := { d with leases := d.leases.modify key fun l => { l with expiresAt } }
      if lease.endpoint = endpoint then (.ok ⟨guid, .renewed, some expiresAt⟩, d)
      else
        match d.onEngine (d.engine.changeEndpoint lease.endpoint endpoint) with
        | (.error x, d) => (.error x, d)
        | (.ok (), d) =>
            (.ok ⟨guid, .renewed, some expiresAt⟩,
              { d with leases := d.leases.modify key fun l => { l with endpoint } })

def leaseCamera (guid username : String) (endpoint : Endpoint) (requested : Nat)
    (draws : List Guid) (d : Desk) : DeskOutcome LeaseGrant :=
  if username = "" then (.error .missingCredentials, d)
  else
    match d.expiryOf requested with
    | .error x => (.error x, d)
    | .ok expiresAt =>
        if guid = "" then d.grant username endpoint expiresAt draws
        else d.renew username guid endpoint expiresAt

/-- Ends a lease and removes its destination. The lease is gone even when the removal fails; one
that is not there is no error. -/
def endLease (username : String) (guid : Guid) (d : Desk) : DeskOutcome LeaseGrant :=
  let key := (username, guid)
  match d.leases.get? key with
  | none => (.ok ⟨guid, .notFound, none⟩, d)
  | some lease =>
      let d := { d with leases := d.leases.erase key }
      match d.onEngine (d.engine.removeEndpoint lease.endpoint) with
      | (.error x, d) => (.error x, d)
      | (.ok (), d) => (.ok ⟨lease.guid, .released, none⟩, d)

def handleRequest (username : String) (request : LeaseRequest) (draws : List Guid) (d : Desk) :
    DeskOutcome LeaseGrant :=
  let guid := Text.trim request.guid
  if request.time < 0 then (.error (.invalidRequest (.negativeTime request.time)), d)
  else if request.time = 0 then
    if guid = "" then (.error (.invalidRequest .endWithoutGuid), d) else d.endLease username guid
  else
    match request.endpoint with
    | .error fault => (.error (.invalidRequest fault), d)
    | .ok endpoint => d.leaseCamera guid username endpoint request.time.toNat draws

def endEach : List LeaseKey → Desk → Desk
  | [], d => d
  | key :: rest, d => endEach rest (d.endLease key.1 key.2).2

def sweepInOrder (keys : List LeaseKey) (d : Desk) : Nat × Desk :=
  let d := endEach keys d
  (keys.length, { d with engine := d.engine.reapOrphans })

def sweepExpired (d : Desk) : Nat × Desk :=
  d.sweepInOrder (d.leases.expired d.now)

end Desk

end CameraServer
