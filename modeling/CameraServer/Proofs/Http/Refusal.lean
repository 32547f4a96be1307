import CameraServer.Http.ControlPlane
import CameraServer.Proofs.Lease.Run

/-!
Requests that are turned away. Main statements: an answer that blames the client, and one that knows no such
lease, leave the desk as it was, and so does a body that is not read to its end, whoever sent it; once the body
is there, who is let in is asked first, then the method, then what the body says.
-/

set_option autoImplicit false

namespace CameraServer

open Http

structure Http.Site.Serves (site : Http.Site) (r : Request) : Prop where
  mounted : site.leasesAt r.path = true
  notStatus : r.path ≠ "/status"
  notGreeting : r.path ≠ "/index.html"

def Http.Site.Admits (site : Http.Site) (d : Desk) (r : Request) (username : String) : Prop :=
  authenticate (site.accounts d.engine.site.disk) (r.header "authorization") = .ok username

def Http.Response.TurnsAway (response : Response) : Prop :=
  response.status ∈ [400, 401, 403, 405] ∨
    response.status = 200 ∧ ∃ grant, response.body = .lease grant ∧ grant.status = .notFound

namespace Desk

/-! ### The request of a user -/

section Request

variable (username : String) (named : username ≠ "") (body : LeaseRequest) (draws : List Guid) (d next : Desk)

include named in
theorem handle_request_refused (x : LeaseError) (answered : d.handleRequest username body draws = (.error x, next)) :
    x.httpStatus ∈ [400, 403] ∧ next = d ∨ x.httpStatus = 500 := by
  have exit := handle_request_exit username d body draws
  rw [answered] at exit
  cases exit with
  | refused x kind =>
      have status := kind.resolve_left named
      simp only [List.mem_cons, List.not_mem_nil, or_false] at status ⊢
      tauto
  | unserved endpoint x engine failed => exact .inr rfl
  | stuck guid lease endpoint expiresAt x engine dated found failed => exact .inr rfl
  | forfeited guid lease x engine found failed => exact .inr rfl

theorem handle_request_unknown (grant : LeaseGrant) (answered : d.handleRequest username body draws = (.ok grant, next))
    (unknown : grant.status = .notFound) : next = d := by
  have exit := handle_request_exit username d body draws
  rw [answered] at exit
  cases exit with
  | granted => cases unknown
  | prolonged => cases unknown
  | moved => cases unknown
  | unknown guid absent => rfl
  | released => cases unknown

end Request

/-! ### The lease endpoint -/

theorem admitted_named (lookup : String → Option Accounts.Account) (values : List String) (username : String)
    (admitted : authenticate lookup values = .ok username) : username ≠ "" := by
  rw [authenticate] at admitted
  split at admitted
  · cases admitted
  · split at admitted
    · cases admitted
    · next named =>
        split at admitted
        · cases admitted
        · split at admitted
          · cases admitted
            exact named
          · cases admitted

inductive Answer (site : Http.Site) (r : Request) (d : Desk) : DeskOutcome LeaseGrant → Prop where
  | stranger (e : AuthError) (nobody : ∀ username, ¬ site.Admits d r username) :
      Answer site r d (.error (.ofAuth e), d)
  | notPosted (username : String) (admitted : site.Admits d r username) (method : r.method ≠ "POST") :
      Answer site r d (.error (.methodNotAllowed r.method), d)
  | refused (username : String) (admitted : site.Admits d r username) (posted : r.method = "POST") (x : LeaseError)
      (status : x.httpStatus ∈ [400, 403]) : Answer site r d (.error x, d)
  | failed (username : String) (admitted : site.Admits d r username) (posted : r.method = "POST") (x : LeaseError)
      (status : x.httpStatus = 500) (next : Desk) : Answer site r d (.error x, next)
  | done (username : String) (admitted : site.Admits d r username) (posted : r.method = "POST") (grant : LeaseGrant)
      (next : Desk) (found : grant.status = .notFound → next = d) : Answer site r d (.ok grant, next)

section Endpoint

variable (site : Http.Site) (r : Request) (sent : Text.Bytes) (draws : List Guid) (d : Desk)

theorem lease_answer : Answer site r d (Http.lease site r sent draws d) := by
  rw [Http.lease]
  cases admitted : authenticate (site.accounts d.engine.site.disk) (r.header "authorization") with
  | error e =>
      refine .stranger e fun username admits => ?_
      rw [Http.Site.Admits, admitted] at admits
      cases admits
  | ok username =>
      dsimp only
      split
      · next method => exact .notPosted username admitted method
      · next method =>
          have posted : r.method = "POST" := not_not.mp method
          cases Json.parseRequest sent with
          | error fault => exact .refused username admitted posted _ (by simp [LeaseError.httpStatus])
          | ok body =>
              dsimp only
              rcases answered : d.handleRequest username body draws with ⟨x | grant, next⟩
              · have named := admitted_named _ _ username admitted
                rcases handle_request_refused username named body draws d next x answered with ⟨status, rfl⟩ | status
                · exact .refused username admitted posted x status
                · exact .failed username admitted posted x status next
              · exact .done username admitted posted grant next
                  (handle_request_unknown username body draws d next grant answered)

end Endpoint

theorem auth_error_status (e : AuthError) : (LeaseError.ofAuth e).httpStatus = 401 := by
  cases e <;> rfl

theorem of_error_status (x : LeaseError) : (Response.ofError x).status = x.httpStatus := by
  rw [Response.ofError]
  split <;> rfl

theorem for_method_status (method : String) (response : Response) :
    (response.forMethod method).status = response.status := by
  rw [Response.forMethod]
  split <;> rfl

theorem for_method_body (method : String) (response : Response) (grant : LeaseGrant)
    (sent : (response.forMethod method).body = .lease grant) : response.body = .lease grant := by
  rw [Response.forMethod] at sent
  split at sent
  · cases sent
  · exact sent

theorem lease_response_status (method : String) (result : Except LeaseError LeaseGrant) :
    ((leaseResponse result).forMethod method).status =
      match result with
      | .ok _ => 200
      | .error x => x.httpStatus := by
  rw [for_method_status]
  cases result with
  | ok grant => rfl
  | error x => exact of_error_status x

section Respond

variable (site : Http.Site) (r : Request) (serves : site.Serves r) (draws : List Guid) (d : Desk)

include serves

theorem respond_unread (fault : BodyFault) (unread : r.readBody site.bodyLimit = .error fault) :
    respond site r draws d = ((Response.ofBodyFault fault).forMethod r.method, d) := by
  rw [respond, if_neg serves.notStatus, if_neg serves.notGreeting, if_pos serves.mounted, unread]

theorem respond_read (body : Text.Bytes) (read : r.readBody site.bodyLimit = .ok body) :
    respond site r draws d =
      ((leaseResponse (Http.lease site r body draws d).1).forMethod r.method, (Http.lease site r body draws d).2) := by
  rw [respond, if_neg serves.notStatus, if_neg serves.notGreeting, if_pos serves.mounted, read]

omit serves in
theorem answer_ranked (result : Except LeaseError LeaseGrant) (next : Desk) (answer : Answer site r d (result, next)) :
    (((leaseResponse result).forMethod r.method).TurnsAway → next = d) ∧
      (((leaseResponse result).forMethod r.method).status = 401 ↔ ∀ username, ¬ site.Admits d r username) ∧
      (((leaseResponse result).forMethod r.method).status = 405 ↔
        (∃ username, site.Admits d r username) ∧ r.method ≠ "POST") ∧
      (((leaseResponse result).forMethod r.method).status ∈ [400, 403] →
        (∃ username, site.Admits d r username) ∧ r.method = "POST") := by
  rw [Response.TurnsAway, lease_response_status]
  have known : ∀ username, site.Admits d r username → ∃ username, site.Admits d r username := fun _ => .intro _
  cases answer with
  | stranger e nobody => simp [auth_error_status, nobody]
  | notPosted username admitted method =>
      simp [LeaseError.httpStatus, method, known username admitted]
  | refused username admitted posted x status =>
      simp only [List.mem_cons, List.not_mem_nil, or_false] at status
      rcases status with status | status <;> simp [status, posted, known username admitted]
  | failed username admitted posted x status next =>
      simp [status, posted, known username admitted]
  | done username admitted posted grant next found =>
      refine ⟨?_, by simp [known username admitted], by simp [posted], by simp⟩
      rintro (blamed | ⟨_, told, body, unknown⟩)
      · simp at blamed
      · cases for_method_body r.method _ told body
        exact found unknown

-- Nothing is asked of the desk, so this holds at every point of every run.
theorem client_errors_change_nothing :
    ((respond site r draws d).1.TurnsAway → (respond site r draws d).2 = d) ∧
      (∀ fault, r.readBody site.bodyLimit = .error fault →
        (respond site r draws d).1.status = fault.httpStatus ∧ (respond site r draws d).2 = d) ∧
      ∀ body, r.readBody site.bodyLimit = .ok body →
        ((respond site r draws d).1.status = 401 ↔ ∀ username, ¬ site.Admits d r username) ∧
        ((respond site r draws d).1.status = 405 ↔ (∃ username, site.Admits d r username) ∧ r.method ≠ "POST") ∧
        ((respond site r draws d).1.status ∈ [400, 403] →
          (∃ username, site.Admits d r username) ∧ r.method = "POST") := by
  cases read : r.readBody site.bodyLimit with
  | error fault =>
      rw [respond_unread site r serves draws d fault read]
      refine ⟨fun _ => rfl, ?_, by rintro _ ⟨⟩⟩
      rintro _ ⟨⟩
      exact ⟨for_method_status r.method _, rfl⟩
  | ok body =>
      obtain ⟨harmless, ranked⟩ := answer_ranked site r d _ _ (lease_answer site r body draws d)
      rw [respond_read site r serves draws d body read]
      refine ⟨harmless, by rintro _ ⟨⟩, ?_⟩
      rintro _ ⟨⟩
      exact ranked

end Respond

-- Alice holds a lease whose end is about to fail; she asks for the end of another one.
def held : Desk :=
  run [.request "alice" ⟨"", "10.0.0.1", 5000, 60000⟩ ["7"], .operate (.inject (.failOn (.signal "remove")))] fresh

def gate : Http.Site where
  recordingDir := ⟨"/recordings"⟩
  accounts := fun _ => Accounts.lookup ',' (Text.encodeUtf8 "username,password,role\nalice,secret,viewer\n")

def unheld : Request where
  method := "POST"
  target := "/camera"
  headers := [("Authorization", "Basic YWxpY2U6c2VjcmV0")]
  body := Text.encodeUtf8 "[\"9\",\"\",0,0]"

def nameless : Request := { unheld with headers := [] }

theorem client_errors_change_nothing_unheld :
    gate.Serves unheld ∧ (respond gate unheld [] held).1.TurnsAway ∧ (respond gate unheld [] held).2 = held ∧
      (respond gate nameless [] held).1.status = 401 ∧
      (respond { gate with bodyLimit := 5 } nameless [] held).1.status = 413 ∧
      (respond { gate with bodyLimit := 5 } nameless [] held).2 = held := by
  have serves : gate.Serves unheld := ⟨by decide, by decide, by decide⟩
  have alike : gate.Serves nameless := ⟨by decide, by decide, by decide⟩
  have short : Http.Site.Serves { gate with bodyLimit := 5 } nameless := ⟨by decide, by decide, by decide⟩
  have unknown : (respond gate unheld [] held).1.TurnsAway :=
    .inr ⟨by decide, ⟨"9", .notFound, none⟩, rfl, rfl⟩
  have nobody : ∀ username, ¬ gate.Admits held nameless username := by
    intro username admitted
    cases admitted
  obtain ⟨_, _, ranked⟩ := client_errors_change_nothing gate nameless alike [] held
  obtain ⟨_, unread, _⟩ := client_errors_change_nothing { gate with bodyLimit := 5 } nameless short [] held
  refine ⟨serves, unknown, (client_errors_change_nothing gate unheld serves [] held).1 unknown, ?_, ?_⟩
  · exact (ranked nameless.body (by decide)).1.mpr nobody
  · exact unread .tooLong (by decide)

end Desk

end CameraServer
