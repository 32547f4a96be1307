import CameraServer.Proofs.Lease.Run

/-!
Bounds on the lease table. Main statement: under one policy and with a clock that goes forward, whatever
fails, nobody holds more leases than the policy allows, none of them ends later than the longest lease
from now, and what is granted or renewed ends exactly when it is said to.
-/

set_option autoImplicit false

namespace CameraServer.Desk

structure Within (max : Nat) (limit : Instant) (t : LeaseTable) : Prop where
  filed : Filed t
  room : ∀ username, t.count username ≤ max
  due : ∀ entry ∈ t, entry.2.expiresAt ≤ limit

section Within

variable (max : Nat) (limit : Instant) (t : LeaseTable) (within : Within max limit t)

include within

theorem within_later (later : Instant) (forward : limit ≤ later) : Within max later t :=
  ⟨within.filed, within.room, fun entry member => Int.le_trans (within.due entry member) forward⟩

theorem within_sublist (part : LeaseTable) (sub : part.Sublist t) : Within max limit part where
  filed := filed_sublist t within.filed part sub
  room := fun username => Nat.le_trans (sub.filter _).length_le (within.room username)
  due := fun entry member => within.due entry (sub.subset member)

theorem within_insert (lease : Lease) (room : t.count lease.username < max)
    (free : t.get? (lease.username, lease.guid) = none) (due : lease.expiresAt ≤ limit) :
    Within max limit (t.insert (lease.username, lease.guid) lease) := by
  refine ⟨filed_insert t within.filed lease free, ?_, ?_⟩
  · intro username
    by_cases own : lease.username = username
    · rw [LeaseTable.count, LeaseTable.insert_of_user t _ lease username own, LeaseTable.insert, List.length_append]
      rw [LeaseTable.count, own] at room
      exact room
    · rw [LeaseTable.count, LeaseTable.insert_of_other t _ lease username own]
      exact within.room username
  · intro entry member
    rcases List.mem_append.mp member with old | new
    · exact within.due entry old
    · rw [List.mem_singleton.mp new]
      exact due

theorem within_modify (key : LeaseKey) (f : Lease → Lease) (username : ∀ l, (f l).username = l.username)
    (guid : ∀ l, (f l).guid = l.guid) (due : ∀ l, l.expiresAt ≤ limit → (f l).expiresAt ≤ limit) :
    Within max limit (t.modify key f) := by
  refine ⟨filed_modify t within.filed key f username guid, ?_, ?_⟩
  · intro name
    rw [LeaseTable.count, LeaseTable.modify_of_user, LeaseTable.modify, List.length_map]
    exact within.room name
  · intro entry member
    obtain ⟨old, here, rfl⟩ := List.mem_map.mp member
    by_cases same : old.1 = key
    · rw [if_pos same]
      exact due old.2 (within.due old here)
    · rw [if_neg same]
      exact within.due old here

end Within

/-! ### Runs under one policy -/

def Forward (d : Desk) (a : Deed) : Prop :=
  (∀ policy, a ≠ .setPolicy policy) ∧ ∀ disk now, a = .operate (.surroundings disk now) → d.now ≤ now

abbrev Bounded (d : Desk) : Prop := Within d.policy.maxLeasesPerUser (d.now + d.policy.maxLease) d.leases

theorem request_bounded (username : String) (body : LeaseRequest) (draws : List Guid) (d : Desk) (bounded : d.Bounded) :
    (d.handleRequest username body draws).2.Bounded := by
  have exit := handle_request_exit username d body draws
  rw [Bounded, exit_policy username body.time d _ exit, handle_request_now]
  apply exit_table _ username body.time d _ _ _ _ bounded _ exit
  · exact fun guid within => within_sublist _ _ _ within _ List.filter_sublist
  · rintro lease within rfl room free due
    exact within_insert _ _ _ within lease room free due
  · exact fun guid expiresAt within due => within_modify _ _ _ within _ _ (fun _ => rfl) (fun _ => rfl) fun _ _ => due
  · exact fun t guid endpoint within =>
      within_modify _ _ t within _ _ (fun _ => rfl) (fun _ => rfl) fun _ due => due

theorem deed_bounded (a : Deed) (d : Desk) (forward : Forward d a) (bounded : d.Bounded) : (a.apply d).Bounded := by
  cases a with
  | request username body draws => exact request_bounded username body draws d bounded
  | sweep keys =>
      have policy : (Deed.apply (.sweep keys) d).policy = d.policy := end_each_policy keys d
      have now : (Deed.apply (.sweep keys) d).now = d.now := sweep_now keys d
      have left : (Deed.apply (.sweep keys) d).leases = d.leases.filter fun entry => entry.1 ∉ keys :=
        end_each_leases keys d
      rw [Bounded, policy, now, left]
      exact within_sublist _ _ _ bounded _ List.filter_sublist
  | setPolicy policy => exact absurd rfl (forward.1 policy)
  | operate step =>
      have onward : d.now ≤ (Deed.apply (.operate step) d).now := by
        by_cases set : ∃ disk now, step = .surroundings disk now
        · obtain ⟨disk, now, rfl⟩ := set
          exact forward.2 disk now rfl
        · have same := Engine.step_clock step d.engine fun disk now named => set ⟨disk, now, named⟩
          exact Int.le_of_eq same.symm
      exact within_later _ _ _ bounded _ (Int.add_le_add_right onward _)

theorem reachable_bounded (d : Desk) (reached : Reachable Forward d) : d.Bounded := by
  induction reached with
  | opened config disk now policy =>
      exact ⟨⟨List.nodup_nil, by simp⟩, fun _ => Nat.zero_le _, by simp⟩
  | deed d a _ may ih => exact deed_bounded a d may ih

/-! ### What is promised -/

structure Promised (username : String) (grant : LeaseGrant) (expiresAt : Instant) (next : Desk) : Prop where
  answer : grant.expiresAt = some expiresAt
  filed : ∃ lease, next.leases.get? (username, grant.guid) = some lease ∧ lease.expiresAt = expiresAt

theorem exit_promises (username : String) (time : Int) (d next : Desk) (grant : LeaseGrant) (filed : Filed d.leases)
    (exit : Exit username time d (.ok grant, next)) (lasting : grant.status = .granted ∨ grant.status = .renewed) :
    Promised username grant (d.now + min time d.policy.maxLease) next ∧
      (grant.status = .granted → d.leases.get? (username, grant.guid) = none) := by
  cases exit with
  | granted guid endpoint expiresAt engine dated room free added =>
      have again := LeaseTable.insert_keys d.leases _ ⟨guid, username, endpoint, expiresAt⟩ filed.distinct free
      have here := (LeaseTable.get_some_iff _ _ _ again).mpr (List.mem_append_right _ (List.mem_singleton.mpr rfl))
      rw [← dated.2]
      exact ⟨⟨rfl, _, here, rfl⟩, fun _ => free⟩
  | prolonged guid lease expiresAt dated found =>
      have later := LeaseTable.get_modify d.leases (username, guid) fun l => { l with expiresAt }
      rw [found] at later
      rw [← dated.2]
      exact ⟨⟨rfl, _, later, rfl⟩, nofun⟩
  | moved guid lease endpoint expiresAt engine dated found changed =>
      have later := LeaseTable.get_modify d.leases (username, guid) fun l => { l with expiresAt }
      have gone := LeaseTable.get_modify (d.leases.modify (username, guid) fun l => { l with expiresAt })
        (username, guid) fun l => { l with endpoint }
      rw [later, found] at gone
      rw [← dated.2]
      exact ⟨⟨rfl, _, gone, rfl⟩, nofun⟩
  | unknown guid absent => rcases lasting with same | same <;> cases same
  | released guid lease engine found removed => rcases lasting with same | same <;> cases same

theorem table_bounds (d : Desk) (reached : Reachable Forward d) :
    (∀ entry ∈ d.leases, entry.1 = (entry.2.username, entry.2.guid) ∧
      entry.2.expiresAt ≤ d.now + d.policy.maxLease) ∧
      (LeaseTable.keys d.leases).Nodup ∧
      (∀ username, d.leases.count username ≤ d.policy.maxLeasesPerUser) ∧
      ∀ username body draws grant next, d.handleRequest username body draws = (.ok grant, next) →
        grant.status = .granted ∨ grant.status = .renewed →
        Promised username grant (d.now + min body.time d.policy.maxLease) next ∧
          (grant.status = .granted → d.leases.get? (username, grant.guid) = none) := by
  have bounded := reachable_bounded d reached
  refine ⟨?_, bounded.filed.distinct, bounded.room, ?_⟩
  · exact fun entry member => ⟨bounded.filed.named entry member, bounded.due entry member⟩
  · intro username body draws grant next answered lasting
    have exit := handle_request_exit username d body draws
    rw [answered] at exit
    exact exit_promises username body.time d next grant bounded.filed exit lasting

-- The viewer asks for too much and gets the longest lease; a second later the viewer cannot be moved, and
-- the lease has its new end all the same.
def shortened : Desk :=
  run [.request "alice" ⟨"", "10.0.0.1", 5000, 90000⟩ ["7"], .operate (.inject (.failOn (.signal "remove"))),
    .operate (.surroundings {} 1000), .request "alice" ⟨"7", "10.0.0.2", 6000, 5000⟩ []] fresh

theorem table_bounds_shortened :
    Reachable Forward shortened ∧ shortened.now = 1000 ∧
      shortened.leases = [(("alice", "7"), ⟨"7", "alice", ⟨"10.0.0.1", 5000⟩, 6000⟩)] ∧
      shortened.leases.count "alice" ≤ shortened.policy.maxLeasesPerUser ∧
      ∀ entry ∈ shortened.leases, entry.2.expiresAt ≤ shortened.now + shortened.policy.maxLease := by
  have reached : Reachable Forward shortened := by
    apply reachable_run Forward _ _ (.deed _ _ (.opened {} {} 0 {}) ⟨by simp, by simp⟩)
    refine ⟨⟨by simp, by simp⟩, ⟨by simp, by simp⟩, ⟨by simp, ?_⟩, ⟨by simp, by simp⟩, trivial⟩
    rintro _ _ ⟨⟩
    decide
  obtain ⟨bounds, _, room, _⟩ := table_bounds shortened reached
  exact ⟨reached, by decide, by decide, room "alice", fun entry member => (bounds entry member).2⟩

end CameraServer.Desk
