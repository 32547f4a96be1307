import CameraServer.Host.Status
import CameraServer.Http.Target
import CameraServer.Json.Value
import CameraServer.Lease.Policy
import CameraServer.Text.Split

/-!
Requests and responses of the control plane.
-/

set_option autoImplicit false

namespace CameraServer.Http

open CameraServer.Text (Bytes)

structure Request where
  method : String := "GET"
  target : String
  headers : List (String × String) := []
  body : Bytes := []
  -- Why the body breaks off, if it does.
  brokenOff : Option String := none

def Request.path (r : Request) : String :=
  (Target.ofText r.target).path

def Request.onlyReads (r : Request) : Bool :=
  r.method = "GET" || r.method = "HEAD"

def Request.header (r : Request) (name : String) : List String :=
  (r.headers.filter fun h => Text.sameLetters h.1 name).map (·.2)

inductive BodyFault where
  | tooLong
  | broken (cause : String)
deriving DecidableEq, Repr

def BodyFault.httpStatus : BodyFault → Nat
  | .tooLong => 413
  | .broken _ => 400

def BodyFault.message : BodyFault → String
  | .tooLong => "Failed to buffer the request body: length limit exceeded"
  | .broken cause => "Failed to buffer the request body: " ++ cause

def Request.readBody (limit : Nat) (r : Request) : Except BodyFault Bytes :=
  if limit < r.body.length then .error .tooLong
  else
    match r.brokenOff with
    | some cause => .error (.broken cause)
    | none => .ok r.body

inductive Body where
  | empty
  | content (bytes : Bytes)
  | lease (grant : LeaseGrant)
  | failure (error : LeaseError)
  | status (status : Host.Status)
  | greeting

def statusDocument (s : Host.Status) : Json.Value :=
  let metric (name : String) (m : Host.Metric) :=
    [(name, Json.Value.ofFloat m.value), (name ++ "_ok", .boolean m.available)]
  .object (metric "temp_cpu" s.temperature ++ metric "cpu_load_process" s.processLoad
    ++ metric "cpu_load_total" s.totalLoad)

def Body.document? : Body → Option Json.Value
  | .empty | .content _ => none
  | .lease grant =>
      some (.object [("guid", .string grant.guid), ("status", .string grant.status.name)])
  | .failure e =>
      some (.object [("error", .string e.code), ("message", .string e.message)])
  | .status s => some (statusDocument s)
  | .greeting => some (.object [("result", .string "Hello World!")])

def Body.bytes : Body → Bytes
  | .content bytes => bytes
  | body => (body.document?.map fun document => Text.encodeUtf8 document.write).getD []

structure Response where
  status : Nat
  contentType : Option String := none
  body : Body := .empty
  allow : Option String := none
  location : Option String := none

def reasonPhrase : Nat → String
  | 200 => "OK"
  | 206 => "Partial Content"
  | 304 => "Not Modified"
  | 307 => "Temporary Redirect"
  | 400 => "Bad Request"
  | 401 => "Unauthorized"
  | 403 => "Forbidden"
  | 404 => "Not Found"
  | 405 => "Method Not Allowed"
  | 412 => "Precondition Failed"
  | 413 => "Payload Too Large"
  | 416 => "Range Not Satisfiable"
  | _ => "Internal Server Error"

def Response.statusLine (r : Response) : String :=
  "HTTP/1.1 " ++ Text.decimal r.status ++ " " ++ reasonPhrase r.status

def jsonType : String := "application/json"

def Response.json (status : Nat) (body : Body) : Response :=
  { status, body, contentType := some jsonType }

def Response.ofError (error : LeaseError) : Response :=
  let response := Response.json error.httpStatus (.failure error)
  if error.httpStatus = 405 then { response with allow := some "POST" } else response

def Response.ofBodyFault (fault : BodyFault) : Response :=
  { status := fault.httpStatus
    contentType := some "text/plain; charset=utf-8"
    body := .content (Text.encodeUtf8 fault.message) }

def Response.notFound : Response :=
  { status := 404 }

def Response.readOnly : Response :=
  { status := 405, allow := some "GET,HEAD" }

def Response.forMethod (method : String) (r : Response) : Response :=
  if method = "HEAD" ∨ (method = "CONNECT" ∧ r.status / 100 = 2) then { r with body := .empty } else r

end CameraServer.Http
