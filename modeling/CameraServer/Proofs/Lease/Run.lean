import CameraServer.Proofs.Lease.Service
import CameraServer.Proofs.Pipeline.Settings

/-!
Runs of a desk together with the engine behind it, from a new engine on. Main statements: the engine of
such a desk is one that a run of the engine leads to, a request or a sweep neither sets the clock nor
changes the policy, and every lease is filed once, under its own user and id.
-/

set_option autoImplicit false

namespace CameraServer

namespace Desk

inductive Deed where
  | request (username : String) (body : LeaseRequest) (draws : List Guid)
  | sweep (keys : List LeaseKey)
  | setPolicy (policy : LeasePolicy)
  | operate (step : Engine.Step)

def Deed.apply : Deed → Desk → Desk
  | .request username body draws, d => (d.handleRequest username body draws).2
  | .sweep keys, d => (d.sweepInOrder keys).2
  | .setPolicy policy, d => { d with policy := policy }
  | .operate step, d => { d with engine := step.apply d.engine }

inductive Reachable (allowed : Desk → Deed → Prop) : Desk → Prop where
  | opened (config : PipelineConfig) (disk : Disk) (now : Instant) (policy : LeasePolicy) :
      Reachable allowed { engine := .new config disk now, policy }
  | deed (d : Desk) (a : Deed) (before : Reachable allowed d) (may : allowed d a) : Reachable allowed (a.apply d)

def run : List Deed → Desk → Desk
  | [], d => d
  | a :: rest, d => run rest (a.apply d)

def AllAllowed (allowed : Desk → Deed → Prop) : List Deed → Desk → Prop
  | [], _ => True
  | a :: rest, d => allowed d a ∧ AllAllowed allowed rest (a.apply d)

theorem reachable_run (allowed : Desk → Deed → Prop) (deeds : List Deed) (d : Desk) (reached : Reachable allowed d)
    (may : AllAllowed allowed deeds d) : Reachable allowed (run deeds d) := by
  induction deeds generalizing d with
  | nil => exact reached
  | cons a rest ih => exact ih _ (.deed d a reached may.1) may.2

-- While a rebuild is pending nobody constructs the pipeline by hand.
def Orderly (d : Desk) (a : Deed) : Prop := ∀ step, a = .operate step → d.engine.Orderly step

theorem orderly_run (deeds : List Deed) (d : Desk) (reached : Reachable Orderly d)
    (other : Deed.operate .construct ∉ deeds) : Reachable Orderly (run deeds d) := by
  induction deeds generalizing d with
  | nil => exact reached
  | cons a rest ih =>
      have later : Deed.operate .construct ∉ rest := fun member => other (List.mem_cons_of_mem a member)
      apply ih _ (.deed d a reached ?_) later
      rintro step rfl rfl
      exact absurd List.mem_cons_self other

def fresh : Desk := Deed.apply (.operate .construct) { engine := .new {} {} 0 }

theorem fresh_reachable : Reachable Orderly fresh := by
  refine .deed _ _ (.opened {} {} 0 {}) ?_
  rintro step ⟨⟩ _
  rfl

theorem reachable_engine (d : Desk) (reached : Reachable Orderly d) : Engine.Reachable Engine.Orderly d.engine := by
  induction reached with
  | opened config disk now policy => exact .new config disk now
  | deed d a _ may ih =>
      cases a with
      | request username body draws => exact request_reachable d ih username body draws
      | sweep keys => exact sweep_reachable d ih keys
      | setPolicy policy => exact ih
      | operate step => exact .step d.engine step ih (may step rfl)

theorem handle_request_now (username : String) (body : LeaseRequest) (draws : List Guid) (d : Desk) :
    (d.handleRequest username body draws).2.now = d.now :=
  handle_request_keeps (·.site.now = d.now)
    (fun endpoint e same => (Engine.clock_frame.flag.add_endpoint endpoint e).trans same)
    (fun endpoint e same => (Engine.clock_frame.flag.remove_endpoint endpoint e).trans same)
    (fun old new e same => (Engine.clock_frame.flag.change_endpoint old new e).trans same) d rfl username body draws

theorem sweep_now (keys : List LeaseKey) (d : Desk) : (d.sweepInOrder keys).2.now = d.now :=
  sweep_keeps (·.site.now = d.now) (fun endpoint e same => (Engine.clock_frame.flag.remove_endpoint endpoint e).trans same)
    (fun e same => (Engine.clock_frame.flag.reap_orphans e).trans same) d rfl keys

/-! ### Filing -/

structure Filed (t : LeaseTable) : Prop where
  distinct : (LeaseTable.keys t).Nodup
  named : ∀ entry ∈ t, entry.1 = (entry.2.username, entry.2.guid)

section Filed

variable (t : LeaseTable) (filed : Filed t)

include filed

theorem filed_sublist (part : LeaseTable) (sub : part.Sublist t) : Filed part :=
  ⟨filed.distinct.sublist (sub.map _), fun entry member => filed.named entry (sub.subset member)⟩

theorem filed_insert (lease : Lease) (free : t.get? (lease.username, lease.guid) = none) :
    Filed (t.insert (lease.username, lease.guid) lease) := by
  refine ⟨LeaseTable.insert_keys t _ lease filed.distinct free, ?_⟩
  intro entry member
  rcases List.mem_append.mp member with old | new
  · exact filed.named entry old
  · rw [List.mem_singleton.mp new]

theorem filed_modify (key : LeaseKey) (f : Lease → Lease) (username : ∀ l, (f l).username = l.username)
    (guid : ∀ l, (f l).guid = l.guid) : Filed (t.modify key f) := by
  refine ⟨by rw [LeaseTable.modify_keys]; exact filed.distinct, ?_⟩
  intro entry member
  obtain ⟨old, here, rfl⟩ := List.mem_map.mp member
  have named := filed.named old here
  by_cases same : old.1 = key
  · rw [if_pos same, username, guid, ← same]
    exact named
  · rw [if_neg same]
    exact named

end Filed

theorem deed_filed (a : Deed) (d : Desk) (filed : Filed d.leases) : Filed (a.apply d).leases := by
  cases a with
  | request username body draws =>
      apply exit_table Filed username body.time d _ _ _ _ filed _ (handle_request_exit username d body draws)
      · exact fun guid filed => filed_sublist _ filed _ List.filter_sublist
      · rintro lease filed rfl _ free _
        exact filed_insert _ filed lease free
      · exact fun guid expiresAt filed _ => filed_modify _ filed _ _ (fun _ => rfl) fun _ => rfl
      · exact fun t guid endpoint filed => filed_modify t filed _ _ (fun _ => rfl) fun _ => rfl
  | sweep keys =>
      have left : (Deed.apply (.sweep keys) d).leases = d.leases.filter fun entry => entry.1 ∉ keys :=
        end_each_leases keys d
      rw [left]
      exact filed_sublist d.leases filed _ List.filter_sublist
  | setPolicy policy => exact filed
  | operate step => exact filed

theorem reachable_filed (allowed : Desk → Deed → Prop) (d : Desk) (reached : Reachable allowed d) :
    Filed d.leases := by
  induction reached with
  | opened config disk now policy => exact ⟨List.nodup_nil, by simp⟩
  | deed d a _ _ ih => exact deed_filed a d ih

end Desk

end CameraServer
