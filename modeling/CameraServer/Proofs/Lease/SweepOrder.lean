import CameraServer.Proofs.Lease.Run
import CameraServer.Proofs.Pipeline.Withdrawal

/-!
The order in which a sweep ends leases. Main statements: two leases can be ended in either order when no
failure is to fire once; so a sweep comes to the same whatever order it takes, except that the sink may
have been told in another order.
-/

set_option autoImplicit false

namespace CameraServer

namespace LeaseTable

variable (t : LeaseTable) (key other : LeaseKey)

theorem get_erase_other (different : key ≠ other) : (t.erase other).get? key = t.get? key := by
  rw [get?, get?, erase, List.find?_filter]
  congr 2
  funext entry
  by_cases same : entry.1 = key
  · simp [same, different]
  · simp [same]

theorem erase_swap : (t.erase key).erase other = (t.erase other).erase key := List.filter_comm _ _ _

end LeaseTable

namespace Desk

inductive Reordered (d : Desk) : Desk → Prop where
  | engine (e : Engine) (alike : d.engine.Reordered e) : Reordered d { d with engine := e }

theorem reordered_refl (d : Desk) : Reordered d d := .engine d.engine (Engine.reordered_refl d.engine)

theorem reordered_trans (d middle f : Desk) (first : Reordered d middle) (second : Reordered middle f) : Reordered d f := by
  cases first with
  | engine e alike =>
      cases second with
      | engine g more => exact .engine g (Engine.reordered_trans _ _ _ alike more)

theorem end_lease_eq (key : LeaseKey) (d : Desk) :
    (d.endLease key.1 key.2).2 =
      match d.leases.get? key with
      | none => d
      | some lease =>
          { d with engine := (d.engine.removeEndpoint lease.endpoint).2, leases := d.leases.erase key } := by
  rw [endLease]
  cases d.leases.get? (key.1, key.2) with
  | none => rfl
  | some lease =>
      dsimp only
      rcases d.engine.removeEndpoint lease.endpoint with ⟨x | u, next⟩
      · rfl
      · rfl

theorem end_lease_reordered (key : LeaseKey) (d f : Desk) (alike : Reordered d f) :
    Reordered (d.endLease key.1 key.2).2 (f.endLease key.1 key.2).2 := by
  cases alike with
  | engine e alike =>
      rw [end_lease_eq, end_lease_eq]
      cases d.leases.get? key with
      | none => exact .engine e alike
      | some lease => exact .engine _ (Engine.remove_endpoint_reordered lease.endpoint d.engine e alike)

theorem end_lease_once (key : LeaseKey) (d : Desk) (once : d.engine.graph.oneShot = []) :
    (d.endLease key.1 key.2).2.engine.graph.oneShot = [] :=
  end_lease_keeps (·.graph.oneShot = []) Engine.remove_endpoint_once d once key.1 key.2

theorem end_lease_swap (key other : LeaseKey) (d : Desk) (once : d.engine.graph.oneShot = []) :
    Reordered ((d.endLease key.1 key.2).2.endLease other.1 other.2).2
      ((d.endLease other.1 other.2).2.endLease key.1 key.2).2 := by
  by_cases same : key = other
  · rw [same]
    exact reordered_refl _
  · have first := LeaseTable.get_erase_other d.leases key other same
    have second := LeaseTable.get_erase_other d.leases other key (Ne.symm same)
    simp only [end_lease_eq]
    cases here : d.leases.get? key with
    | none =>
        cases d.leases.get? other with
        | none =>
            simp only [here]
            exact reordered_refl d
        | some lease =>
            simp only [first, here]
            exact reordered_refl _
    | some lease =>
        cases there : d.leases.get? other with
        | none =>
            simp only [second, here, there]
            exact reordered_refl _
        | some held =>
            simp only [first, second, here, there]
            rw [LeaseTable.erase_swap]
            exact .engine _ (Engine.remove_endpoint_swap lease.endpoint held.endpoint d.engine once)

/-! ### All of them -/

theorem end_each_reordered (keys : List LeaseKey) (d f : Desk) (alike : Reordered d f) :
    Reordered (endEach keys d) (endEach keys f) := by
  induction keys generalizing d f with
  | nil => exact alike
  | cons key rest ih => exact ih _ _ (end_lease_reordered key d f alike)

theorem end_each_perm (keys other : List LeaseKey) (same : keys.Perm other) (d : Desk)
    (once : d.engine.graph.oneShot = []) : Reordered (endEach keys d) (endEach other d) := by
  -- Only the swap of two neighbours asks anything of the engine.
  induction same generalizing d with
  | nil => exact reordered_refl d
  | cons key _ ih => exact ih _ (end_lease_once key d once)
  | swap key first rest => exact end_each_reordered rest _ _ (end_lease_swap first key d once)
  | trans _ _ ih more => exact reordered_trans _ _ _ (ih d once) (more d once)

theorem reap_reordered (d f : Desk) (alike : Reordered d f) :
    Reordered { d with engine := d.engine.reapOrphans } { f with engine := f.engine.reapOrphans } := by
  cases alike with
  | engine e alike => exact .engine _ (Engine.reap_orphans_reordered d.engine e alike)

theorem sweep_reordered (keys other : List LeaseKey) (same : keys.Perm other) (d : Desk)
    (once : d.engine.graph.oneShot = []) : Reordered (d.sweepInOrder keys).2 (d.sweepInOrder other).2 :=
  reap_reordered _ _ (end_each_perm keys other same d once)

structure Matches (d f : Desk) : Prop where
  leases : f.leases = d.leases
  destinations : f.engine.destinations = d.engine.destinations
  orphans : f.engine.orphans = d.engine.orphans
  sink : f.engine.graph.sink = d.engine.graph.sink
  stages : f.engine.graph.stages = d.engine.graph.stages
  links : f.engine.graph.links = d.engine.graph.links
  signals : f.engine.graph.signals.Perm d.engine.graph.signals

theorem reordered_matches (d f : Desk) (alike : Reordered d f) : Matches d f := by
  cases alike with
  | engine e alike =>
      cases alike with
      | graph g alike =>
          cases alike with
          | relog history signals sent => exact ⟨rfl, rfl, rfl, rfl, rfl, rfl, sent⟩

theorem sweep_in_any_order (d : Desk) (once : d.engine.graph.oneShot = []) (keys other : List LeaseKey)
    (expired : keys.Perm (d.leases.expired d.now)) (too : other.Perm (d.leases.expired d.now)) :
    (d.sweepInOrder other).1 = (d.sweepInOrder keys).1 ∧
      Matches (d.sweepInOrder keys).2 (d.sweepInOrder other).2 := by
  have same := expired.trans too.symm
  exact ⟨same.length_eq.symm, reordered_matches _ _ (sweep_reordered keys other same d once)⟩

-- Two leases for one destination, and a move that got stuck on that of a third one.
def crowded : Desk :=
  run [.request "alice" ⟨"", "10.0.0.1", 5000, 9000⟩ ["1"], .request "bob" ⟨"", "10.0.0.2", 6000, 9000⟩ ["2"],
    .request "bob" ⟨"", "10.0.0.2", 6000, 9000⟩ ["3"], .request "carol" ⟨"", "10.0.0.2", 6000, 60000⟩ ["4"],
    .operate (.inject (.failOn (.signal "remove"))), .request "alice" ⟨"1", "10.0.0.2", 6000, 9000⟩ [],
    .operate (.inject .clearAll), .operate (.surroundings {} 20000)] fresh

def crowdedKeys : List LeaseKey := [("alice", "1"), ("bob", "2"), ("bob", "3")]

theorem sweep_in_any_order_crowded :
    crowded.engine.orphans = [⟨"10.0.0.2", 6000⟩] ∧
      (crowded.sweepInOrder crowdedKeys).2.engine.destinations = [⟨"10.0.0.2", 6000⟩] ∧
      Matches (crowded.sweepInOrder crowdedKeys).2 (crowded.sweepInOrder crowdedKeys.reverse).2 ∧
      (crowded.sweepInOrder crowdedKeys.reverse).2.engine.graph.signals ≠
        (crowded.sweepInOrder crowdedKeys).2.engine.graph.signals := by
  have expired : crowded.leases.expired crowded.now = crowdedKeys := by decide
  have matched := sweep_in_any_order crowded (by decide) crowdedKeys crowdedKeys.reverse (by rw [expired])
    (by rw [expired]; exact List.reverse_perm crowdedKeys)
  exact ⟨by decide, by decide, matched.2, by decide⟩

end Desk

end CameraServer
