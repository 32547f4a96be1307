import CameraServer.Http.Credentials
import CameraServer.Json.RequestBody
import CameraServer.Lease.Request
import CameraServer.Net.Endpoint
import CameraServer.Pipeline.Error
import CameraServer.Text.Blank

/-!
Leases, the limits on them, and what can be wrong with a request for one.
-/

set_option autoImplicit false

namespace CameraServer

/-- Limits on lease requests; times are in milliseconds. -/
structure LeasePolicy where
  maxLease : Nat := 60000
  maxLeasesPerUser : Nat := 2
deriving DecidableEq, Repr

abbrev Guid := String

structure Lease where
  guid : Guid
  username : String
  endpoint : Endpoint
  expiresAt : Instant
deriving DecidableEq, Repr

inductive LeaseStatus where
  | granted
  | renewed
  | released
  | notFound
deriving DecidableEq, Repr

def LeaseStatus.name : LeaseStatus → String
  | .granted => "granted"
  | .renewed => "renewed"
  | .released => "released"
  | .notFound => "not_found"

structure LeaseGrant where
  guid : Guid
  status : LeaseStatus
  expiresAt : Option Instant
deriving DecidableEq, Repr

inductive RequestFault where
  | negativeTime (time : Int)
  | endWithoutGuid
  | emptyAddress
  | portOutOfRange (port : Int)
  | timeOutOfRange
  | body (fault : Json.BodyFault)
deriving DecidableEq, Repr

def RequestFault.message : RequestFault → String
  | .negativeTime time => "lease_time " ++ Text.decimalInt time ++ " is negative"
  | .endWithoutGuid => "lease_time 0 needs a lease_guid"
  | .emptyAddress => "udp_address is empty"
  | .portOutOfRange port => "udp_port " ++ Text.decimalInt port ++ " out of range"
  | .timeOutOfRange =>
      "lease_time: Source duration value is out of range for the target type"
  | .body fault => fault.message

inductive LeaseError where
  | missingCredentials
  | unauthorized (username : String)
  | methodNotAllowed (method : String)
  | invalidRequest (fault : RequestFault)
  | unknownLease (guid : Guid)
  | limitReached (username : String) (max : Nat)
  | pipeline (cause : PipelineError)
  | idsExhausted
deriving DecidableEq, Repr

namespace LeaseError

def message : LeaseError → String
  | .missingCredentials => "missing credentials"
  | .unauthorized username => "unauthorized user " ++ username
  | .methodNotAllowed method => "method " ++ method ++ " not allowed"
  | .invalidRequest fault => "malformed request: " ++ fault.message
  | .unknownLease guid => "unknown lease " ++ guid
  | .limitReached username max =>
      "user " ++ username ++ " already holds " ++ Text.decimal max ++ " leases"
  | .pipeline cause => "pipeline failure: " ++ cause.message
  | .idsExhausted => "no free lease id"

def httpStatus : LeaseError → Nat
  | .missingCredentials => 401
  | .unauthorized _ => 401
  | .methodNotAllowed _ => 405
  | .invalidRequest _ => 400
  | .unknownLease _ => 400
  | .limitReached _ _ => 403
  | .pipeline _ => 500
  | .idsExhausted => 500

def code : LeaseError → String
  | .missingCredentials => "unauthorized"
  | .unauthorized _ => "unauthorized"
  | .methodNotAllowed _ => "method_not_allowed"
  | .invalidRequest _ => "invalid_request"
  | .unknownLease _ => "unknown_lease"
  | .limitReached _ _ => "lease_limit_reached"
  | .pipeline _ => "internal_error"
  | .idsExhausted => "internal_error"

def ofAuth : Http.AuthError → LeaseError
  | .missingCredentials => .missingCredentials
  | .unauthorized username => .unauthorized username

end LeaseError

def LeaseRequest.endpoint (r : LeaseRequest) : Except RequestFault Endpoint :=
  let host := Text.trim r.address
  if host = "" then .error .emptyAddress
  else if 1 ≤ r.port ∧ r.port ≤ 65535 then .ok ⟨host, UInt16.ofNat r.port.toNat⟩
  else .error (.portOutOfRange r.port)

end CameraServer
