import CameraServer.Proofs.Lease.Run
import CameraServer.Proofs.Pipeline.Signals

/-!
What one sweep does. Main statement: it ends the leases whose time has passed and no others, whatever the
graph does; and when nothing fails it tells the sink once for each of them, unless the destinations still
wait for a rebuild and there is no egress stage.
-/

set_option autoImplicit false

namespace CameraServer

open Media

namespace Desk

-- However the engine is used besides, its sink is in order, or down, or waits for a rebuild.
theorem reachable_sound (allowed : Desk → Deed → Prop) (d : Desk) (reached : Reachable allowed d) :
    d.engine.Sound := by
  induction reached with
  | opened config disk now policy => exact .down ⟨rfl, rfl, rfl, rfl⟩ fun _ => rfl
  | deed d a _ _ ih =>
      cases a with
      | request username body draws =>
          exact handle_request_keeps _ Engine.add_endpoint_sound Engine.remove_endpoint_sound
            Engine.change_endpoint_sound d ih username body draws
      | sweep keys => exact sweep_keeps _ Engine.remove_endpoint_sound Engine.reap_orphans_sound d ih keys
      | setPolicy policy => exact ih
      | operate step => exact Engine.step_sound step d.engine ih

structure Untroubled (d : Desk) : Prop where
  built : d.engine.constructed = true
  quiet : ∀ p, d.engine.graph.fails p = false
  quit : d.engine.orphans = []
  listed : (LeaseTable.endpoints d.leases).Subperm d.engine.destinations

def removals (ended : LeaseTable) : List (Target × Signal) :=
  (LeaseTable.endpoints ended).map Engine.removal

theorem listed_busy (t : LeaseTable) (list : List Endpoint) (listed : (LeaseTable.endpoints t).Subperm list)
    (some : t ≠ []) : list ≠ [] := by
  rintro rfl
  exact some (List.map_eq_nil_iff.mp (List.subperm_nil.mp listed))

theorem untroubled_has_egress (d : Desk) (untroubled : d.Untroubled) (sound : d.engine.Sound)
    (settled : d.engine.pending = none) (some : d.leases ≠ []) : d.engine.graph.hasStage egressName = true := by
  obtain ⟨egress, served, balanced⟩ := Engine.sound_served d.engine sound untroubled.built
  have busy := listed_busy d.leases d.engine.destinations untroubled.listed some
  have parent := Engine.balanced_has_egress d.engine egress served (balanced settled) busy
  obtain ⟨stage, read, _⟩ := Graph.parented_stage d.engine.graph egressName parent
  exact Option.isSome_iff_exists.mpr ⟨stage, read⟩

/-! ### With an egress stage -/

theorem end_lease_heard (username : String) (guid : Guid) (lease : Lease) (d : Desk) (untroubled : d.Untroubled)
    (distinct : (LeaseTable.keys d.leases).Nodup) (found : d.leases.get? (username, guid) = some lease)
    (stands : d.engine.graph.hasStage egressName = true) :
    (d.endLease username guid).2.Untroubled ∧
      (d.endLease username guid).2.engine.graph.signals =
        d.engine.graph.signals ++ [Engine.removal lease.endpoint] ∧
      ((d.endLease username guid).2.leases ≠ [] →
        (d.endLease username guid).2.engine.graph.hasStage egressName = true) := by
  have taken := LeaseTable.erase_endpoints d.leases (username, guid) lease distinct found
  have owns := taken.symm.subperm.trans untroubled.listed
  have listed : lease.endpoint ∈ d.engine.destinations := owns.subset List.mem_cons_self
  have spent := Engine.spends_frame.flag.remove_endpoint lease.endpoint d.engine
  obtain ⟨next, eq, ledger, signals, still⟩ := Engine.remove_endpoint_heard lease.endpoint d.engine
    untroubled.quiet untroubled.built untroubled.quit listed stands
  rw [eq] at spent
  have destinations : next.destinations = d.engine.destinations.erase lease.endpoint :=
    congrArg (·.destinations) ledger
  have rest : (LeaseTable.endpoints (d.leases.erase (username, guid))).Subperm next.destinations := by
    rw [destinations, ← List.erase_cons_head lease.endpoint (LeaseTable.endpoints (d.leases.erase (username, guid)))]
    exact owns.erase lease.endpoint
  rw [endLease, found]
  dsimp only
  rw [eq, on_engine_ok]
  refine ⟨⟨?_, Graph.spends_quiet _ _ spent untroubled.quiet, ?_, rest⟩, signals, ?_⟩
  · exact (congrArg (·.constructed) ledger).trans untroubled.built
  · exact (congrArg (·.orphans) ledger).trans untroubled.quit
  · exact fun some => still (listed_busy _ next.destinations rest some)

theorem end_each_heard (ended : LeaseTable) (d : Desk) (untroubled : d.Untroubled)
    (distinct : (LeaseTable.keys d.leases).Nodup) (apart : (LeaseTable.keys ended).Nodup)
    (held : ∀ entry ∈ ended, entry ∈ d.leases) (stands : ended ≠ [] → d.engine.graph.hasStage egressName = true) :
    (endEach (LeaseTable.keys ended) d).engine.graph.signals = d.engine.graph.signals ++ removals ended ∧
      (endEach (LeaseTable.keys ended) d).engine.orphans = [] := by
  induction ended generalizing d with
  | nil => exact ⟨(List.append_nil _).symm, untroubled.quit⟩
  | cons entry rest ih =>
      obtain ⟨⟨username, guid⟩, lease⟩ := entry
      have found := (LeaseTable.get_some_iff d.leases (username, guid) lease distinct).mpr (held _ List.mem_cons_self)
      obtain ⟨still, told, there⟩ :=
        end_lease_heard username guid lease d untroubled distinct found (stands (List.cons_ne_nil _ _))
      have left := end_lease_leases username guid d
      have others : ∀ other ∈ rest, other ∈ (d.endLease username guid).2.leases := by
        intro other member
        rw [left]
        refine List.mem_filter.mpr ⟨held other (List.mem_cons_of_mem _ member), ?_⟩
        have filed : other.1 ∈ LeaseTable.keys rest := List.mem_map_of_mem member
        have another : other.1 ≠ (username, guid) := fun same => (List.nodup_cons.mp apart).1 (same ▸ filed)
        simpa using another
      have distinct' : (LeaseTable.keys (d.endLease username guid).2.leases).Nodup := by
        rw [left]
        exact LeaseTable.erase_keys d.leases (username, guid) distinct
      -- While there are leases to end, the branch stays and hears of them.
      have stands' : rest ≠ [] → (d.endLease username guid).2.engine.graph.hasStage egressName = true := by
        intro more
        obtain ⟨other, member⟩ := List.exists_mem_of_ne_nil rest more
        exact there (List.ne_nil_of_mem (others other member))
      obtain ⟨signals, quit⟩ := ih _ still distinct' (List.nodup_cons.mp apart).2 others stands'
      refine ⟨?_, quit⟩
      rw [told, List.append_assoc] at signals
      exact signals

/-! ### Without one -/

theorem sweep_unheard (keys : List LeaseKey) (d : Desk) (untroubled : d.Untroubled)
    (missing : d.engine.graph.hasStage egressName = false) : (d.sweepInOrder keys).2.engine = d.engine := by
  apply sweep_keeps (· = d.engine) _ _ d rfl keys
  · rintro endpoint _ rfl
    exact Engine.remove_endpoint_unheard endpoint d.engine untroubled.quiet untroubled.built untroubled.quit missing
  · rintro _ rfl
    exact Engine.reap_orphans_none d.engine untroubled.quit

/-! ### The sweep -/

theorem sweep_heard (ended : LeaseTable) (d : Desk) (untroubled : d.Untroubled)
    (distinct : (LeaseTable.keys d.leases).Nodup) (apart : (LeaseTable.keys ended).Nodup)
    (held : ∀ entry ∈ ended, entry ∈ d.leases) (stands : ended ≠ [] → d.engine.graph.hasStage egressName = true) :
    (d.sweepInOrder (LeaseTable.keys ended)).2.engine.graph.signals = d.engine.graph.signals ++ removals ended := by
  obtain ⟨signals, quit⟩ := end_each_heard ended d untroubled distinct apart held stands
  exact (congrArg (·.graph.signals) (Engine.reap_orphans_none _ quit)).trans signals

theorem sweep_tells_each_iff (allowed : Desk → Deed → Prop) (d : Desk) (reached : Reachable allowed d)
    (ended : LeaseTable) (due : ended.Perm (d.leases.filter fun entry => entry.2.expiresAt ≤ d.now)) :
    let r := d.sweepInOrder (LeaseTable.keys ended)
    r.1 = (d.leases.filter fun entry => entry.2.expiresAt ≤ d.now).length ∧
      r.2.leases = (d.leases.filter fun entry => d.now < entry.2.expiresAt) ∧
      r.2.now = d.now ∧ r.2.sweepExpired.1 = 0 ∧
      (d.Untroubled →
        (r.2.engine.graph.signals = d.engine.graph.signals ++ removals ended ↔
          ended = [] ∨ d.engine.graph.hasStage egressName = true)) ∧
      (d.Untroubled → d.engine.pending = none →
        r.2.engine.graph.signals = d.engine.graph.signals ++ removals ended) := by
  have filed := reachable_filed allowed d reached
  have expired : (LeaseTable.keys ended).Perm (d.leases.expired d.now) := due.map _
  have held : ∀ entry ∈ ended, entry ∈ d.leases := fun entry member => (List.mem_filter.mp (due.mem_iff.mp member)).1
  have apart : (LeaseTable.keys ended).Nodup :=
    expired.nodup_iff.mpr (filed.distinct.sublist (List.filter_sublist.map _))
  have leases : (d.sweepInOrder (LeaseTable.keys ended)).2.leases = d.leases.live d.now :=
    (end_each_leases _ d).trans (LeaseTable.without_expired d.leases d.now _ filed.distinct expired)
  have now := sweep_now (LeaseTable.keys ended) d
  have heard := sweep_heard ended d
  refine ⟨?_, leases, now, ?_, fun untroubled => ⟨?_, ?_⟩, fun untroubled settled => ?_⟩
  · exact (List.length_map _).trans due.length_eq
  · rw [sweepExpired, leases, now]
    change (LeaseTable.expired (d.leases.live d.now) d.now).length = 0
    rw [List.length_eq_zero_iff, LeaseTable.expired, List.map_eq_nil_iff, List.filter_eq_nil_iff]
    intro entry member
    have later : d.now < entry.2.expiresAt := by simpa using (List.mem_filter.mp member).2
    simpa using later
  · intro told
    by_contra deaf
    rw [not_or, Bool.not_eq_true] at deaf
    rw [sweep_unheard _ d untroubled deaf.2] at told
    have nothing := List.self_eq_append_right.mp told
    exact deaf.1 (List.map_eq_nil_iff.mp (List.map_eq_nil_iff.mp nothing))
  · rintro (rfl | stands)
    · exact heard untroubled filed.distinct apart held fun some => absurd rfl some
    · exact heard untroubled filed.distinct apart held fun _ => stands
  · apply heard untroubled filed.distinct apart held
    intro some
    obtain ⟨entry, member⟩ := List.exists_mem_of_ne_nil ended some
    exact untroubled_has_egress d untroubled (reachable_sound allowed d reached) settled
      (List.ne_nil_of_mem (held entry member))

-- Two users receive at the same place, and one of them has another lease that lasts longer.
def sharing : Desk :=
  run [.request "alice" ⟨"", "10.0.0.1", 5000, 1000⟩ ["7"], .request "bob" ⟨"", "10.0.0.1", 5000, 1000⟩ ["7"],
    .request "alice" ⟨"", "10.0.0.2", 6000, 60000⟩ ["8"], .operate (.surroundings {} 1000)] fresh

theorem sweep_tells_each_iff_sharing :
    Reachable Orderly sharing ∧ sharing.Untroubled ∧
      (sharing.sweepInOrder [("bob", "7"), ("alice", "7")]).1 = 2 ∧
      (sharing.sweepInOrder [("bob", "7"), ("alice", "7")]).2.leases =
        [(("alice", "8"), ⟨"8", "alice", ⟨"10.0.0.2", 6000⟩, 60000⟩)] ∧
      (sharing.sweepInOrder [("bob", "7"), ("alice", "7")]).2.engine.graph.signals =
        sharing.engine.graph.signals ++ [Engine.removal ⟨"10.0.0.1", 5000⟩, Engine.removal ⟨"10.0.0.1", 5000⟩] := by
  have reached : Reachable Orderly sharing := orderly_run _ fresh fresh_reachable (by simp)
  have untroubled : sharing.Untroubled := ⟨by decide, fun p => rfl, by decide, by decide⟩
  obtain ⟨ended, left, _, _, _, told⟩ := sweep_tells_each_iff Orderly sharing reached
    [(("bob", "7"), ⟨"7", "bob", ⟨"10.0.0.1", 5000⟩, 1000⟩), (("alice", "7"), ⟨"7", "alice", ⟨"10.0.0.1", 5000⟩, 1000⟩)]
    (by decide)
  exact ⟨reached, untroubled, ended, left, told untroubled (by decide)⟩

-- The rebuild fails, and then the pipeline is constructed by hand.
def revived : Desk :=
  run [.request "alice" ⟨"", "10.0.0.1", 5000, 60000⟩ ["7"], .operate (.inject (.failOn (.build captureName))),
    .operate (.setConfig { width := 1280 }), .operate (.inject .clearAll), .operate .construct,
    .operate (.surroundings {} 61000)] fresh

-- The viewer is on the list and nothing fails, but the sink is not told that the lease is over.
theorem sweep_forgets_to_tell :
    Reachable (fun _ _ => True) revived ∧ revived.Untroubled ∧
      revived.leases.expired revived.now = [("alice", "7")] ∧
      (revived.sweepInOrder [("alice", "7")]).2.engine.graph.signals ≠
        revived.engine.graph.signals ++ [Engine.removal ⟨"10.0.0.1", 5000⟩] ∧
      (revived.sweepInOrder [("alice", "7")]).2.leases = [] ∧
      (revived.sweepInOrder [("alice", "7")]).2.engine.destinations = [⟨"10.0.0.1", 5000⟩] := by
  have opened : Reachable (fun _ _ => True) fresh := .deed _ (.operate .construct) (.opened {} {} 0 {}) trivial
  have reached : Reachable (fun _ _ => True) revived :=
    reachable_run _ _ fresh opened ⟨trivial, trivial, trivial, trivial, trivial, trivial, trivial⟩
  exact ⟨reached, ⟨by decide, fun p => rfl, by decide, by decide⟩, by decide, by decide, by decide, by decide⟩

end Desk

end CameraServer
