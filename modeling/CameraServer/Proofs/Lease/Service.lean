import CameraServer.Proofs.Lease.Conservation
import CameraServer.Proofs.Lease.Exit

/-!
What the desk does to the engine. Main statements: a request or a sweep does nothing to the engine but
add, remove, move and reap destinations, so a desk that is opened over a reachable engine keeps it
reachable.
-/

set_option autoImplicit false

namespace CameraServer.Desk

section Keeps

variable (keep : Engine → Prop)
variable (add : ∀ endpoint e, keep e → keep (e.addEndpoint endpoint).2)
variable (remove : ∀ endpoint e, keep e → keep (e.removeEndpoint endpoint).2)
variable (change : ∀ old new e, keep e → keep (e.changeEndpoint old new).2)
variable (reap : ∀ e, keep e → keep e.reapOrphans)
variable (d : Desk) (before : keep d.engine)

section Remove

include remove

include before in
theorem end_lease_keeps (username : String) (guid : Guid) : keep (d.endLease username guid).2.engine := by
  rw [endLease]
  cases d.leases.get? (username, guid) with
  | none => exact before
  | some lease =>
      have removed := remove lease.endpoint d.engine before
      dsimp only
      rcases eq : d.engine.removeEndpoint lease.endpoint with ⟨x | u, next⟩
      · rw [eq] at removed
        exact removed
      · rw [eq] at removed
        exact removed

theorem end_each_keeps (keys : List LeaseKey) (d : Desk) (before : keep d.engine) :
    keep (endEach keys d).engine := by
  induction keys generalizing d with
  | nil => exact before
  | cons key rest ih => exact ih _ (end_lease_keeps keep remove d before key.1 key.2)

end Remove

include add remove change before in
theorem exit_keeps (username : String) (time : Int) (r : DeskOutcome LeaseGrant) (exit : Exit username time d r) :
    keep r.2.engine := by
  have added : ∀ endpoint result next, d.engine.addEndpoint endpoint = (result, next) → keep next := by
    intro endpoint result next eq
    have kept := add endpoint d.engine before
    rwa [eq] at kept
  have removed : ∀ endpoint result next, d.engine.removeEndpoint endpoint = (result, next) → keep next := by
    intro endpoint result next eq
    have kept := remove endpoint d.engine before
    rwa [eq] at kept
  have changed : ∀ old new result next, d.engine.changeEndpoint old new = (result, next) → keep next := by
    intro old new result next eq
    have kept := change old new d.engine before
    rwa [eq] at kept
  cases exit with
  | refused x => exact before
  | unserved endpoint x engine failed => exact added endpoint _ engine failed
  | granted guid endpoint expiresAt engine _ _ _ done => exact added endpoint _ engine done
  | prolonged guid lease expiresAt dated found => exact before
  | moved guid lease endpoint expiresAt engine _ _ done => exact changed lease.endpoint endpoint _ engine done
  | stuck guid lease endpoint expiresAt x engine _ _ failed => exact changed lease.endpoint endpoint _ engine failed
  | unknown guid absent => exact before
  | released guid lease engine _ done => exact removed lease.endpoint _ engine done
  | forfeited guid lease x engine _ failed => exact removed lease.endpoint _ engine failed

include add remove change before in
theorem handle_request_keeps (username : String) (body : LeaseRequest) (draws : List Guid) :
    keep (d.handleRequest username body draws).2.engine :=
  exit_keeps keep add remove change d before username body.time _ (handle_request_exit username d body draws)

include remove reap before in
theorem sweep_keeps (keys : List LeaseKey) : keep (d.sweepInOrder keys).2.engine :=
  reap _ (end_each_keeps keep remove keys d before)

end Keeps

inductive Service : Desk → List Endpoint → Prop where
  | opened (d : Desk) (reached : Engine.Reachable Engine.Orderly d.engine) (built : d.engine.constructed = true)
      (vacant : d.leases = []) (unserved : d.engine.destinations = []) : Service d []
  | step (d : Desk) (lost : List Endpoint) (s : Step) (before : Service d lost) (may : Step.Permitted d s) :
      Service (s.apply d) (lost ++ s.forfeits d)

theorem service_run (d : Desk) (lost : List Endpoint) (service : Service d lost) : Run d lost := by
  induction service with
  | opened d _ built vacant unserved => exact .start d built vacant unserved
  | step d lost s _ may ih => exact .step d lost s ih may

section Reachable

variable (d : Desk) (reached : Engine.Reachable Engine.Orderly d.engine)

theorem other_step_reachable (s : Engine.Step) (e : Engine) (other : s ≠ .construct)
    (reached : Engine.Reachable Engine.Orderly e) : Engine.Reachable Engine.Orderly (s.apply e) :=
  .step e s reached fun same => absurd same other

include reached

theorem request_reachable (username : String) (body : LeaseRequest) (draws : List Guid) :
    Engine.Reachable Engine.Orderly (d.handleRequest username body draws).2.engine :=
  handle_request_keeps _ (fun endpoint e => other_step_reachable (.addEndpoint endpoint) e (by simp))
    (fun endpoint e => other_step_reachable (.removeEndpoint endpoint) e (by simp))
    (fun old new e => other_step_reachable (.changeEndpoint old new) e (by simp)) d reached username body draws

theorem sweep_reachable (keys : List LeaseKey) : Engine.Reachable Engine.Orderly (d.sweepInOrder keys).2.engine :=
  sweep_keeps _ (fun endpoint e => other_step_reachable (.removeEndpoint endpoint) e (by simp))
    (fun e => other_step_reachable .reapOrphans e (by simp)) d reached keys

end Reachable

theorem step_reachable (s : Step) (d : Desk) (reached : Engine.Reachable Engine.Orderly d.engine) :
    Engine.Reachable Engine.Orderly (s.apply d).engine := by
  cases s with
  | request username body draws => exact request_reachable d reached username body draws
  | sweep keys => exact sweep_reachable d reached keys
  | setPolicy policy => exact reached
  | setConfig config => exact other_step_reachable (.setConfig config) d.engine (by simp) reached
  | inject injection => exact other_step_reachable (.inject injection) d.engine (by simp) reached
  | surroundings disk now => exact other_step_reachable (.surroundings disk now) d.engine (by simp) reached

theorem service_reachable (d : Desk) (lost : List Endpoint) (service : Service d lost) :
    Engine.Reachable Engine.Orderly d.engine := by
  induction service with
  | opened d reached => exact reached
  | step d lost s _ _ ih => exact step_reachable s d ih

end CameraServer.Desk
