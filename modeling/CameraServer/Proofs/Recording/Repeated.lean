import CameraServer.Proofs.Recording.Pruning

/-!
Quota passes over one directory, one after the other. Main statement: together they delete what one pass
without a limit deletes, up to a hundred fragments for each of them, and then nothing changes any more.
-/

set_option autoImplicit false

namespace CameraServer.Recording

def removedUpTo (limit maxBytes : Nat) (isActive : String → Bool) (listing : Listing) : List String :=
  (QuotaPass.run {} maxBytes isActive limit ⟨listing, totalSize (fragments listing), [], 1⟩).1.removed

def enforceTimes (dir : FilePath) (maxBytes : Nat) (active : FilePath) : Nat → Disk → List String × Disk
  | 0, d => ([], d)
  | passes + 1, d =>
      let first := enforceQuota {} d dir (some maxBytes) active
      let later := enforceTimes dir maxBytes active passes first.2
      (first.1.removed ++ later.1, later.2)

/-! ### Where passes rest -/

section Rests

variable (maxBytes : Nat) (isActive : String → Bool) (queue : List Fragment)

theorem rests_least : ∃ most, IsLeast {k | Rests maxBytes isActive queue k} most ∧ most ≤ queue.length := by
  classical
  have whole : Rests maxBytes isActive queue queue.length := .inr (.inl rfl)
  have somewhere : ∃ k, Rests maxBytes isActive queue k := ⟨_, whole⟩
  exact ⟨Nat.find somewhere, ⟨Nat.find_spec somewhere, fun _ => Nat.find_min' somewhere⟩, Nat.find_min' somewhere whole⟩

theorem least_within (limit most : Nat) (least : IsLeast {k | Rests maxBytes isActive queue k} most) :
    IsLeast {k | Rests maxBytes isActive queue k ∨ k = limit} (min limit most) := by
  constructor
  · rcases le_total limit most with full | rested
    · rw [min_eq_left full]
      exact .inr rfl
    · rw [min_eq_right rested]
      exact .inl least.1
  · rintro k (rests | rfl)
    · exact (min_le_right _ _).trans (least.2 rests)
    · exact min_le_left _ _

theorem rests_drop (taken : Nat) (present : taken ≤ queue.length) (count : Nat) :
    Rests maxBytes isActive (queue.drop taken) count ↔ Rests maxBytes isActive queue (taken + count) := by
  rw [Rests, Rests, List.drop_drop, List.length_drop, List.getElem?_drop]
  have ends : count = queue.length - taken ↔ taken + count = queue.length := by omega
  rw [ends]

theorem least_drop (taken most : Nat) (least : IsLeast {k | Rests maxBytes isActive queue k} most)
    (present : most ≤ queue.length) (before : taken ≤ most) :
    IsLeast {k | Rests maxBytes isActive (queue.drop taken) k} (most - taken) := by
  constructor
  · refine (rests_drop maxBytes isActive queue taken (before.trans present) _).mpr ?_
    rw [Nat.add_sub_cancel' before]
    exact least.1
  · intro k rests
    have after := least.2 ((rests_drop maxBytes isActive queue taken (before.trans present) k).mp rests)
    omega

theorem rests_mono (larger : Nat) (more : maxBytes ≤ larger) (count : Nat)
    (rests : Rests maxBytes isActive queue count) : Rests larger isActive queue count := by
  rcases rests with within | rests
  · exact .inl (within.trans_le more)
  · exact .inr rests

theorem verdict_drop (limit count : Nat) (present : count ≤ queue.length) (allowed : 0 < limit)
    (unspent : verdict maxBytes limit queue count ≠ .iterationLimit) :
    verdict maxBytes limit (queue.drop count) 0 = verdict maxBytes limit queue count := by
  rw [verdict, verdict] at *
  rw [List.drop_zero, List.length_drop, if_neg allowed.ne]
  split
  · rfl
  · next excess =>
      rw [if_neg excess] at unspent
      have unfilled : count ≠ limit := by
        rintro rfl
        exact unspent (if_pos rfl)
      rw [if_neg unfilled]
      have ends : 0 = queue.length - count ↔ count = queue.length := by omega
      rw [if_congr ends rfl rfl]

theorem removed_up_to_takes (listing : Listing) (queued : Queue (fragments listing) queue) (limit most : Nat)
    (least : IsLeast {k | Rests maxBytes isActive queue k} most) :
    removedUpTo limit maxBytes isActive listing = (queue.take (min limit most)).map (·.name) := by
  obtain ⟨count, outcome, prunes, reports⟩ := run_prunes {} maxBytes isActive limit
    ⟨listing, totalSize (fragments listing), [], 1⟩ queue queued (total_size_perm _ queue queued.perm).symm
  have taken := (prunes_least maxBytes isActive limit queue count outcome prunes).unique
    (least_within maxBytes isActive queue limit most least)
  exact taken ▸ reports.removed

end Rests

/-! ### On the disk -/

section Passes

variable (d : Disk) (distinct : d.Distinct) (dir active : FilePath) (loc : Disk.Location)
  (found : d.stat dir = .ok (loc, .dir)) (maxBytes : Nat) (queue : List Fragment) (waiting : Waiting d loc queue)

include distinct found waiting

theorem enforce_quota_rests (most : Nat)
    (least : IsLeast {k | Rests maxBytes (fun name => (dir.join ⟨name⟩).same active) queue k} most) :
    let r := enforceQuota {} d dir (some maxBytes) active
    Enforces {} maxBytes (fun name => (dir.join ⟨name⟩).same active) d loc queue (min deletionLimit most) r ∧
      r.2.stat dir = .ok (loc, .dir) ∧ Waiting r.2 loc (queue.drop (min deletionLimit most)) := by
  obtain ⟨count, enforces, stays, rest⟩ :=
    enforce_quota_takes {} d distinct dir active loc found maxBytes queue waiting
  have taken := (prunes_least _ _ _ queue count _ enforces.prunes).unique
    (least_within _ _ queue deletionLimit most least)
  exact taken ▸ ⟨enforces, stays, rest⟩

theorem enforce_quota_settled (unspent : (enforceQuota {} d dir (some maxBytes) active).1.outcome ≠ .iterationLimit) :
    let r := enforceQuota {} d dir (some maxBytes) active
    enforceQuota {} r.2 dir (some maxBytes) active = (⟨r.1.outcome, [], r.1.totalBytes⟩, r.2) := by
  obtain ⟨count, enforces, stays, rest⟩ :=
    enforce_quota_takes {} d distinct dir active loc found maxBytes queue waiting
  have still := enforce_quota_distinct {} d distinct dir (some maxBytes) active
  have rests := prunes_rests _ _ _ queue count _ enforces.prunes unspent
  have outcome := prunes_verdict _ _ _ queue count _ enforces.prunes
  have calm := prunes_calm _ _ _ queue count _ enforces.prunes
  have present := enforces.prunes.present
  have total := enforces.total calm
  generalize enforceQuota {} d dir (some maxBytes) active = r at *
  have least := (rests_drop _ _ queue count present 0).mpr rests
  obtain ⟨again, _, _⟩ := enforce_quota_rests r.2 still dir active loc stays maxBytes (queue.drop count) rest 0
    ⟨least, fun _ _ => Nat.zero_le _⟩
  rw [Nat.min_zero] at again
  have report : (enforceQuota {} r.2 dir (some maxBytes) active).1 = ⟨r.1.outcome, [], r.1.totalBytes⟩ := by
    have same : (enforceQuota {} r.2 dir (some maxBytes) active).1.outcome = r.1.outcome := by
      rw [prunes_verdict _ _ _ _ _ _ again.prunes, outcome]
      exact verdict_drop _ queue deletionLimit count present (by decide) (outcome ▸ unspent)
    have size := again.total (same ▸ calm)
    rw [List.drop_zero] at size
    exact congr (congrArg₂ QuotaReport.mk same again.removed) (size.trans total.symm)
  exact Prod.ext report again.disk

theorem enforce_times_takes (passes most : Nat)
    (least : IsLeast {k | Rests maxBytes (fun name => (dir.join ⟨name⟩).same active) queue k} most)
    (present : most ≤ queue.length) :
    (enforceTimes dir maxBytes active passes d).1 = (queue.take (min (deletionLimit * passes) most)).map (·.name) ∧
      (enforceTimes dir maxBytes active passes d).2 =
        d.eraseEach loc (enforceTimes dir maxBytes active passes d).1 := by
  induction passes generalizing d queue most with
  | zero =>
      rw [Nat.mul_zero, Nat.zero_min, List.take_zero]
      exact ⟨rfl, rfl⟩
  | succ passes ih =>
      obtain ⟨enforces, stays, rest⟩ :=
        enforce_quota_rests d distinct dir active loc found maxBytes queue waiting most least
      have still := enforce_quota_distinct {} d distinct dir (some maxBytes) active
      have before : min deletionLimit most ≤ most := min_le_right _ _
      -- What the first pass leaves is a queue again, of which the rest of `most` is still to go.
      obtain ⟨removed, disk⟩ := ih _ still stays (queue.drop (min deletionLimit most)) rest
        (most - min deletionLimit most) (least_drop _ _ queue _ most least present before) (by
          rw [List.length_drop]
          omega)
      have together : min (deletionLimit * (passes + 1)) most =
          min deletionLimit most + min (deletionLimit * passes) (most - min deletionLimit most) := by
        rw [Nat.mul_succ]
        omega
      constructor
      · rw [enforceTimes, enforces.removed, removed, together, List.take_add, List.map_append]
      · rw [enforceTimes, Disk.eraseEach, List.foldl_append]
        exact disk.trans (by rw [enforces.disk, enforces.removed]; rfl)

end Passes

theorem repeated_passes (d : Disk) (distinct : d.Distinct) (dir active : FilePath) (loc : Disk.Location)
    (found : d.stat dir = .ok (loc, .dir)) (maxBytes : Nat) (queue : List Fragment) (waiting : Waiting d loc queue) :
    (∀ limit, queue.length ≤ limit → ∀ passes,
      let removed := (enforceTimes dir maxBytes active passes d).1
      let most := (removedUpTo limit maxBytes (fun name => (dir.join ⟨name⟩).same active) (d.children loc)).length
      removed = (queue.take (min (100 * passes) most)).map (·.name) ∧
        ∀ other, (enforceTimes dir maxBytes active passes d).2.node? other =
          if other ∈ removed.map (loc ++ [·]) then none else d.node? other) ∧
    (let once := enforceQuota {} d dir (some maxBytes) active
     once.1.outcome ≠ .iterationLimit →
      enforceQuota {} once.2 dir (some maxBytes) active = (⟨once.1.outcome, [], once.1.totalBytes⟩, once.2)) ∧
    ∀ larger, maxBytes ≤ larger → ∀ passes,
      (enforceTimes dir larger active passes d).1 <+: (enforceTimes dir maxBytes active passes d).1 := by
  obtain ⟨most, least, present⟩ := rests_least maxBytes (fun name => (dir.join ⟨name⟩).same active) queue
  have takes (passes : Nat) :=
    enforce_times_takes d distinct dir active loc found maxBytes queue waiting passes most least present
  refine ⟨?_, enforce_quota_settled d distinct dir active loc found maxBytes queue waiting, ?_⟩
  · intro limit enough passes
    have queued := (waiting_iff_queue d distinct loc queue).mp waiting
    have all : (removedUpTo limit maxBytes (fun name => (dir.join ⟨name⟩).same active) (d.children loc)).length =
        most := by
      rw [removed_up_to_takes _ _ queue _ queued limit most least, List.length_map, List.length_take]
      omega
    obtain ⟨removed, disk⟩ := takes passes
    rw [all]
    refine ⟨removed, fun other => ?_⟩
    rw [disk, Disk.erase_each_node]
  · intro larger more passes
    obtain ⟨fewer, least', present'⟩ := rests_least larger (fun name => (dir.join ⟨name⟩).same active) queue
    have stands : Rests maxBytes (fun name => (dir.join ⟨name⟩).same active) queue most := least.1
    have before : fewer ≤ most := least'.2 (rests_mono _ _ queue larger more most stands)
    rw [(takes passes).1,
      (enforce_times_takes d distinct dir active loc found larger queue waiting passes fewer least' present').1]
    exact (List.take_prefix_take_left (by omega)).map _

-- One fragment more than a pass may delete.
def crowd : List Fragment := (List.range 101).map fun i => ⟨Nat.repr i ++ ".mp4", 1, i⟩

def crowded : Disk where
  nodes := (["rec"], .dir) :: crowd.map fun f => (["rec", f.name], .file ⟨[], f.size⟩ f.mtime)

theorem crowd_queued : Queue (fragments (crowded.children ["rec"])) crowd :=
  ⟨by decide +kernel, by decide +kernel, by decide +kernel⟩

theorem crowded_distinct : crowded.Distinct := by
  have below : ((crowd.map (·.name)).map fun name => ["rec", name]).Nodup :=
    crowd_queued.named.map fun _ _ same => by simpa using same
  rw [List.map_map] at below
  rw [Disk.Distinct, crowded, List.map_cons, List.map_map]
  exact List.nodup_cons.mpr ⟨by simp, below⟩

theorem crowd_least : IsLeast {k | Rests 0 (fun name => (FilePath.join ⟨"/rec"⟩ ⟨name⟩).same ⟨"/rec/live.mp4"⟩) crowd k}
    crowd.length := by
  have inactive : ∀ f ∈ crowd, (FilePath.join ⟨"/rec"⟩ ⟨f.name⟩).same ⟨"/rec/live.mp4"⟩ = false := by decide +kernel
  constructor
  · exact .inr (.inl rfl)
  · rintro k (within | whole | ⟨f, front, active⟩)
    · exact absurd within (Nat.not_lt_zero _)
    · exact whole.ge
    · exact absurd ((inactive f (List.mem_of_getElem? front)).symm.trans active) Bool.false_ne_true

theorem repeated_passes_crowded :
    crowded.stat ⟨"/rec"⟩ = .ok (["rec"], .dir) ∧ Waiting crowded ["rec"] crowd ∧
      (enforceTimes ⟨"/rec"⟩ 0 ⟨"/rec/live.mp4"⟩ 1 crowded).1 = (crowd.take 100).map (·.name) ∧
      (enforceTimes ⟨"/rec"⟩ 0 ⟨"/rec/live.mp4"⟩ 2 crowded).1 = crowd.map (·.name) := by
  have found : crowded.stat ⟨"/rec"⟩ = .ok (["rec"], .dir) := by decide +kernel
  have waiting : Waiting crowded ["rec"] crowd :=
    (waiting_iff_queue crowded crowded_distinct ["rec"] crowd).mpr crowd_queued
  have takes := (repeated_passes crowded crowded_distinct ⟨"/rec"⟩ ⟨"/rec/live.mp4"⟩ ["rec"] found 0 crowd waiting).1
    crowd.length le_rfl
  have all := removed_up_to_takes _ _ crowd _ crowd_queued crowd.length _ crowd_least
  rw [min_self, List.take_length] at all
  rw [all, List.length_map] at takes
  exact ⟨found, waiting, (takes 1).1, (takes 2).1⟩

end CameraServer.Recording
