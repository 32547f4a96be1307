import CameraServer.Proofs.Disk.Walk
import CameraServer.Proofs.Recording.Quota
import Mathlib.Order.Bounds.Basic

/-!
Which fragments a quota pass deletes. Main statement: those at the front of the queue, up to the first
place at which one of the four reasons to stop holds, and nothing else in the directory.
-/

set_option autoImplicit false

namespace CameraServer.Recording

/-! ### The fragments of a directory -/

structure Waiting (d : Disk) (loc : Disk.Location) (queue : List Fragment) : Prop where
  files : ∀ f, f ∈ queue ↔ isFragmentName f.name = true ∧
    ∃ content, d.node? (loc ++ [f.name]) = some (.file content f.mtime) ∧ f.size = content.size
  ordered : queue.Pairwise fun f g => f.precedes g = true

theorem precedes_apart (f g : Fragment) (older : f.precedes g = true) : f ≠ g := by
  rintro rfl
  exact lt_irrefl _ ((precedes_iff f f).mp older)

theorem queue_unique (found one other : List Fragment) (first : Queue found one) (second : Queue found other) :
    one = other := by
  apply List.Perm.eq_of_pairwise _ first.ordered second.ordered (first.perm.trans second.perm.symm)
  intro f g _ _ older younger
  exact absurd ((precedes_iff f g).mp older) ((precedes_iff g f).mp younger).asymm

theorem mem_fragments (d : Disk) (distinct : d.Distinct) (loc : Disk.Location) (f : Fragment) :
    f ∈ fragments (d.children loc) ↔ isFragmentName f.name = true ∧
      ∃ content, d.node? (loc ++ [f.name]) = some (.file content f.mtime) ∧ f.size = content.size := by
  have placed := d.node_some_iff distinct (loc ++ [f.name]) (by simp)
  constructor
  · intro member
    obtain ⟨⟨name, node⟩, listed, carried⟩ := List.mem_filterMap.mp member
    obtain ⟨rfl, extension, content, rfl, size⟩ := fragment_entry _ f carried
    exact ⟨extension, content, (placed _).mpr ((d.mem_children loc _ _).mp listed), size⟩
  · rintro ⟨extension, content, file, size⟩
    have listed := (d.mem_children loc _ _).mpr ((placed _).mp file)
    refine List.mem_filterMap.mpr ⟨(f.name, .file content f.mtime), listed, ?_⟩
    rw [fragment?]
    dsimp only
    rw [if_pos extension, ← size]

theorem waiting_iff_queue (d : Disk) (distinct : d.Distinct) (loc : Disk.Location) (queue : List Fragment) :
    Waiting d loc queue ↔ Queue (fragments (d.children loc)) queue := by
  have named := fragments_named _ (d.children_distinct distinct loc)
  constructor
  · intro waiting
    have apart : queue.Nodup := waiting.ordered.imp fun older => precedes_apart _ _ older
    have perm : queue.Perm (fragments (d.children loc)) := by
      rw [List.perm_ext_iff_of_nodup apart named.of_map]
      exact fun f => (waiting.files f).trans (mem_fragments d distinct loc f).symm
    exact ⟨perm, waiting.ordered, (perm.map (·.name)).nodup_iff.mpr named⟩
  · intro queued
    exact ⟨fun f => queued.perm.mem_iff.trans (mem_fragments d distinct loc f), queued.ordered⟩

theorem waiting_exists (d : Disk) (distinct : d.Distinct) (loc : Disk.Location) : ∃ queue, Waiting d loc queue := by
  obtain ⟨queue, queued⟩ := queue_exists _ (fragments_named _ (d.children_distinct distinct loc))
  exact ⟨queue, (waiting_iff_queue d distinct loc queue).mpr queued⟩

/-! ### Where a pass stops -/

section Rests

variable (maxBytes : Nat) (isActive : String → Bool) (limit : Nat) (queue : List Fragment) (count : Nat)

def Rests : Prop :=
  totalSize (queue.drop count) < maxBytes ∨ count = queue.length ∨
    ∃ f, queue[count]? = some f ∧ isActive f.name = true

def verdict : QuotaOutcome :=
  if totalSize (queue.drop count) < maxBytes then .withinQuota
  else if count = limit then .iterationLimit
  else if count = queue.length then .noCandidate
  else .activeIsOldest

variable (outcome : QuotaOutcome) (prunes : Prunes {} maxBytes isActive limit queue count outcome)

include prunes

theorem prunes_rests (unspent : outcome ≠ .iterationLimit) : Rests maxBytes isActive queue count := by
  have ended := prunes.ended
  cases outcome with
  | withinQuota => exact .inl ended
  | iterationLimit => exact absurd rfl unspent
  | noCandidate => exact .inr (.inl ended.2.2)
  | activeIsOldest =>
      obtain ⟨f, front, active⟩ := ended.2.2
      exact .inr (.inr ⟨f, List.head?_drop ▸ front, active⟩)
  | ioFailure => exact absurd rfl ended
  | unbounded => exact ended.elim

theorem prunes_least : IsLeast {k | Rests maxBytes isActive queue k ∨ k = limit} count := by
  constructor
  · by_cases full : outcome = .iterationLimit
    · subst full
      exact .inr prunes.ended.2
    · exact .inl (prunes_rests maxBytes isActive limit queue count outcome prunes full)
  · intro k stops
    by_contra before
    rw [not_le] at before
    rcases stops with (within | whole | ⟨f, front, active⟩) | last
    · exact absurd within (not_lt.mpr (prunes.needed k before))
    · have present := prunes.present
      omega
    · obtain ⟨here, rfl⟩ := List.getElem?_eq_some_iff.mp front
      have taken := List.mem_take_iff_getElem.mpr ⟨k, lt_min before here, rfl⟩
      rw [prunes.inactive _ taken] at active
      cases active
    · have few := prunes.few
      omega

theorem prunes_calm : outcome ≠ .ioFailure := by
  rintro rfl
  exact prunes.ended rfl

theorem prunes_verdict : outcome = verdict maxBytes limit queue count := by
  have ended := prunes.ended
  rw [verdict]
  cases outcome with
  | withinQuota => rw [if_pos (show totalSize (queue.drop count) < maxBytes from ended)]
  | iterationLimit => rw [if_neg (not_lt.mpr ended.1), if_pos ended.2]
  | noCandidate => rw [if_neg (not_lt.mpr ended.1), if_neg ended.2.1.ne, if_pos ended.2.2]
  | activeIsOldest =>
      obtain ⟨excess, below, f, front, _⟩ := ended
      have more : count ≠ queue.length := by
        rintro rfl
        rw [List.drop_length] at front
        cases front
      rw [if_neg (not_lt.mpr excess), if_neg below.ne, if_neg more]
  | ioFailure => exact absurd rfl ended
  | unbounded => exact ended.elim

end Rests

/-! ### On the disk -/

theorem enforce_quota_takes (stop : Interruption) (d : Disk) (distinct : d.Distinct) (dir active : FilePath)
    (loc : Disk.Location) (found : d.stat dir = .ok (loc, .dir)) (maxBytes : Nat) (queue : List Fragment)
    (waiting : Waiting d loc queue) :
    ∃ count, Enforces stop maxBytes (fun name => (dir.join ⟨name⟩).same active) d loc queue count
        (enforceQuota stop d dir (some maxBytes) active) ∧
      (enforceQuota stop d dir (some maxBytes) active).2.stat dir = .ok (loc, .dir) ∧
      Waiting (enforceQuota stop d dir (some maxBytes) active).2 loc (queue.drop count) := by
  obtain ⟨other, count, queued, enforces⟩ := enforce_quota_enforces stop d dir maxBytes active distinct loc found
  obtain rfl := queue_unique _ _ _ ((waiting_iff_queue d distinct loc queue).mp waiting) queued
  refine ⟨count, enforces, ?_, ?_⟩
  · rw [enforces.disk]
    refine Disk.stat_dir_kept d _ (d.erase_each_tree loc _ ?_) dir loc found
    intro name gone
    obtain ⟨f, taken, rfl⟩ := List.mem_map.mp gone
    obtain ⟨_, content, file, _⟩ := (waiting.files f).mp (List.mem_of_mem_take taken)
    exact ⟨content, f.mtime, file⟩
  · have still := enforce_quota_distinct stop d distinct dir (some maxBytes) active
    exact (waiting_iff_queue _ still loc _).mpr enforces.left

theorem size_sum_drop (queue : List Fragment) (count : Nat) : sizeSum (queue.drop count) ≤ sizeSum queue := by
  induction queue generalizing count with
  | nil => simp
  | cons f rest ih =>
      cases count with
      | zero => exact le_rfl
      | succ count => exact (ih count).trans (Nat.le_add_left _ _)

theorem total_size_drop (queue : List Fragment) (small : sizeSum queue < 2 ^ 64) (count : Nat) :
    totalSize (queue.drop count) = sizeSum (queue.drop count) :=
  Nat.mod_eq_of_lt ((size_sum_drop queue count).trans_lt small)

theorem enforce_quota_exact (d : Disk) (distinct : d.Distinct) (dir active : FilePath) (loc : Disk.Location)
    (found : d.stat dir = .ok (loc, .dir)) (maxBytes : Nat) (queue : List Fragment) (waiting : Waiting d loc queue)
    (small : sizeSum queue < 2 ^ 64) :
    ∃ count, IsLeast {k | sizeSum (queue.drop k) < maxBytes ∨ k = 100 ∨ k = queue.length ∨
        ∃ f, queue[k]? = some f ∧ (dir.join ⟨f.name⟩).same active = true} count ∧
      let r := enforceQuota {} d dir (some maxBytes) active
      r.1.removed = (queue.take count).map (·.name) ∧
      r.1.outcome = (if sizeSum (queue.drop count) < maxBytes then .withinQuota
        else if count = 100 then .iterationLimit
        else if count = queue.length then .noCandidate
        else .activeIsOldest) ∧
      r.1.totalBytes = sizeSum (queue.drop count) ∧
      r.2.stat dir = .ok (loc, .dir) ∧ Waiting r.2 loc (queue.drop count) ∧
      ∀ other, r.2.node? other =
        if other ∈ (queue.take count).map (loc ++ [·.name]) then none else d.node? other := by
  obtain ⟨count, enforces, stays, rest⟩ :=
    enforce_quota_takes {} d distinct dir active loc found maxBytes queue waiting
  have size := total_size_drop queue small
  have least := prunes_least _ _ _ queue count _ enforces.prunes
  have outcome := prunes_verdict _ _ _ queue count _ enforces.prunes
  have calm := prunes_calm _ _ _ queue count _ enforces.prunes
  refine ⟨count, ?_, enforces.removed, ?_, (enforces.total calm).trans (size count), stays, rest, ?_⟩
  · have same : {k | Rests maxBytes (fun name => (dir.join ⟨name⟩).same active) queue k ∨ k = deletionLimit} =
        {k | sizeSum (queue.drop k) < maxBytes ∨ k = 100 ∨ k = queue.length ∨
          ∃ f, queue[k]? = some f ∧ (dir.join ⟨f.name⟩).same active = true} := by
      ext k
      change Rests _ _ _ _ ∨ _ ↔ _
      rw [Rests, size]
      exact or_assoc.trans (or_congr_right or_comm)
    exact same ▸ least
  · rw [outcome, verdict, size, deletionLimit]
  · intro other
    rw [enforces.disk, Disk.erase_each_node, List.map_map]
    rfl

-- Two of the fragments are of the same time, and the second one of these is empty.
def tied : Disk where
  nodes := [(["rec"], .dir), (["rec", "a.mp4"], .file ⟨[], 5⟩ 2), (["rec", "c.mp4"], .file ⟨[], 0⟩ 1),
    (["rec", "b.MP4"], .file ⟨[], 7⟩ 1), (["rec", "notes.txt"], .file ⟨[], 9⟩ 0), (["rec", "old.mp4"], .dir)]

def tiedQueue : List Fragment := [⟨"b.MP4", 7, 1⟩, ⟨"c.mp4", 0, 1⟩, ⟨"a.mp4", 5, 2⟩]

-- At the quota is not below it; the fragment that is being written stays.
theorem enforce_quota_exact_tied :
    tied.stat ⟨"/rec"⟩ = .ok (["rec"], .dir) ∧ Waiting tied ["rec"] tiedQueue ∧ sizeSum tiedQueue < 2 ^ 64 ∧
      (enforceQuota {} tied ⟨"/rec"⟩ (some 5) ⟨"/rec/a.mp4"⟩).1 = ⟨.activeIsOldest, ["b.MP4", "c.mp4"], 5⟩ ∧
      Waiting (enforceQuota {} tied ⟨"/rec"⟩ (some 5) ⟨"/rec/a.mp4"⟩).2 ["rec"] [⟨"a.mp4", 5, 2⟩] := by
  have distinct : tied.Distinct := by decide
  have found : tied.stat ⟨"/rec"⟩ = .ok (["rec"], .dir) := by rfl
  have waiting : Waiting tied ["rec"] tiedQueue :=
    (waiting_iff_queue tied distinct ["rec"] tiedQueue).mpr ⟨by decide, by decide, by decide⟩
  have small : sizeSum tiedQueue < 2 ^ 64 := by decide
  have report : (enforceQuota {} tied ⟨"/rec"⟩ (some 5) ⟨"/rec/a.mp4"⟩).1 =
      ⟨.activeIsOldest, ["b.MP4", "c.mp4"], 5⟩ := by decide +kernel
  obtain ⟨count, least, removed, _, _, _, rest, _⟩ :=
    enforce_quota_exact tied distinct ⟨"/rec"⟩ ⟨"/rec/a.mp4"⟩ ["rec"] found 5 tiedQueue waiting small
  have two : count = 2 := by
    have present : count ≤ 3 := least.2 (.inr (.inr (.inl rfl)))
    rw [report] at removed
    have taken := congrArg List.length removed
    rw [List.length_map, List.length_take] at taken
    exact (min_eq_left present).symm.trans taken.symm
  subst two
  exact ⟨found, waiting, small, report, rest⟩

end CameraServer.Recording
