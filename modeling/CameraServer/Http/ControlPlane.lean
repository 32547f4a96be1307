import CameraServer.Http.RoutePattern
import CameraServer.Http.StaticFiles
import CameraServer.Lease.Desk

/-!
The control plane: the lease endpoint under the mount point, the status page, a greeting, and the
recorded fragments under every other path.
-/

set_option autoImplicit false

namespace CameraServer.Http

open CameraServer.Text (Bytes)

structure Site where
  mountPoint : String := "/camera"
  recordingDir : FilePath
  accounts : Disk → String → Option Accounts.Account
  readings : Host.Readings := {}
  bodyLimit : Nat := 2097152

def lease (site : Site) (r : Request) (body : Bytes) (draws : List Guid) (d : Desk) : DeskOutcome LeaseGrant :=
  match authenticate (site.accounts d.engine.site.disk) (r.header "authorization") with
  | .error e => (.error (.ofAuth e), d)
  | .ok username =>
      if r.method ≠ "POST" then (.error (.methodNotAllowed r.method), d)
      else
        match Json.parseRequest body with
        | .error fault => (.error (.invalidRequest (.body fault)), d)
        | .ok request => d.handleRequest username request draws

def leaseResponse (r : Except LeaseError LeaseGrant) : Response :=
  match r with
  | .ok grant => .json 200 (.lease grant)
  | .error e => .ofError e

def Site.leasesAt (site : Site) (path : String) : Bool :=
  (RoutePattern.ofText site.mountPoint).fits path.toList

/-- Answers a request. Only the lease endpoint changes anything; the fixed paths come before it. A body is
read before anybody asks who has sent it. -/
def respond (site : Site) (r : Request) (draws : List Guid) (d : Desk) : Response × Desk :=
  if r.path = "/status" then
    ((Response.json 200 (.status site.readings.status)).forMethod r.method, d)
  else if r.path = "/index.html" then
    if r.onlyReads then ((Response.json 200 .greeting).forMethod r.method, d)
    else (.readOnly, d)
  else if site.leasesAt r.path then
    match r.readBody site.bodyLimit with
    | .error fault => ((Response.ofBodyFault fault).forMethod r.method, d)
    | .ok body =>
        let (result, d) := lease site r body draws d
        ((leaseResponse result).forMethod r.method, d)
  else (serveStatic d.engine.site.disk site.recordingDir r, d)

end CameraServer.Http
