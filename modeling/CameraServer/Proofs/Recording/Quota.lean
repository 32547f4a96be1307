import CameraServer.Proofs.Disk.Nodes
import CameraServer.Recording.Quota
import Mathlib.Data.List.Sort
import Mathlib.Data.Prod.Lex
import Mathlib.Data.String.Basic

/-!
The quota pass as a queue: the fragments of a directory wait in the order of their age, and a pass takes a
number of them from the front. Main statement: how many it takes, and why it takes no more.
-/

set_option autoImplicit false

namespace CameraServer.Recording

/-! ### Age -/

def Fragment.age (f : Fragment) : ℤ ×ₗ String := toLex (f.mtime, f.name)

theorem precedes_iff (f g : Fragment) : f.precedes g = true ↔ f.age < g.age := by
  rw [Fragment.age, Fragment.age, Prod.Lex.toLex_lt_toLex, Fragment.precedes]
  simp only [Bool.or_eq_true, Bool.and_eq_true, decide_eq_true_eq, beq_iff_eq]

theorem oldest_fold (first : Fragment) (rest : List Fragment) :
    rest.foldl (fun best f => if f.precedes best then f else best) first ∈ first :: rest ∧
      ∀ f ∈ first :: rest, (rest.foldl (fun best f => if f.precedes best then f else best) first).age ≤ f.age := by
  induction rest generalizing first with
  | nil => simp
  | cons next rest ih =>
      rw [List.foldl_cons]
      by_cases older : next.precedes first
      · rw [if_pos older]
        obtain ⟨member, least⟩ := ih next
        refine ⟨List.mem_cons_of_mem _ member, ?_⟩
        intro f among
        rcases List.mem_cons.mp among with rfl | among
        · exact (least next (by simp)).trans ((precedes_iff _ _).mp older).le
        · exact least f among
      · rw [if_neg older]
        obtain ⟨member, least⟩ := ih first
        rw [precedes_iff, not_lt] at older
        refine ⟨?_, ?_⟩
        · rcases List.mem_cons.mp member with here | later
          · rw [here]
            simp
          · simp [later]
        · intro f among
          rcases List.mem_cons.mp among with rfl | among
          · exact least f (by simp)
          · rcases List.mem_cons.mp among with rfl | among
            · exact (least first (by simp)).trans older
            · exact least f (by simp [among])

/-! ### The queue -/

structure Queue (found queue : List Fragment) : Prop where
  perm : queue.Perm found
  ordered : queue.Pairwise fun f g => f.precedes g = true
  named : (queue.map (·.name)).Nodup

theorem queue_exists (found : List Fragment) (named : (found.map (·.name)).Nodup) : ∃ queue, Queue found queue := by
  have perm : (found.mergeSort fun f g => f.age ≤ g.age).Perm found := List.mergeSort_perm _ _
  have named' := (perm.map (·.name)).nodup_iff.mpr named
  refine ⟨_, perm, ?_, named'⟩
  have sorted : (found.mergeSort fun f g => f.age ≤ g.age).Pairwise fun f g => decide (f.age ≤ g.age) = true := by
    apply List.pairwise_mergeSort
    · exact fun f g h first second => by simpa using le_trans (of_decide_eq_true first) (of_decide_eq_true second)
    · exact fun f g => by simpa using le_total f.age g.age
  rw [List.Nodup, List.pairwise_map] at named'
  apply (sorted.and named').imp
  rintro f g ⟨older, apart⟩
  refine (precedes_iff f g).mpr (lt_of_le_of_ne (of_decide_eq_true older) ?_)
  exact fun same => apart (congrArg (fun age => (ofLex age).2) same)

theorem oldest_of_queue (found queue : List Fragment) (waiting : Queue found queue) : oldest? found = queue.head? := by
  cases found with
  | nil =>
      rw [waiting.perm.eq_nil]
      rfl
  | cons first rest =>
      obtain ⟨member, least⟩ := oldest_fold first rest
      cases queue with
      | nil => cases waiting.perm.symm.eq_nil
      | cons f queue =>
          rw [oldest?, List.head?_cons]
          rcases List.mem_cons.mp (waiting.perm.mem_iff.mpr member) with here | later
          · rw [here]
          · have younger := (precedes_iff _ _).mp (List.rel_of_pairwise_cons waiting.ordered later)
            exact absurd (least f (waiting.perm.mem_iff.mp (by simp))) (not_le.mpr younger)

theorem fragment_entry (entry : String × Disk.Node) (f : Fragment) (carried : fragment? entry = some f) :
    f.name = entry.1 ∧ isFragmentName f.name = true ∧
      ∃ content, entry.2 = .file content f.mtime ∧ f.size = content.size := by
  rw [fragment?] at carried
  split at carried
  · next content mtime file =>
      split at carried
      · next extension =>
          cases carried
          exact ⟨rfl, extension, content, file, rfl⟩
      · cases carried
  · cases carried

theorem fragments_named (listing : Listing) (distinct : (listing.map (·.1)).Nodup) :
    ((fragments listing).map (·.name)).Nodup := by
  rw [List.Nodup, List.pairwise_map] at distinct
  rw [List.Nodup, List.pairwise_map, fragments, List.pairwise_filterMap]
  apply distinct.imp
  intro a b apart f first g second same
  rw [(fragment_entry a f first).1, (fragment_entry b g second).1] at same
  exact apart same

theorem fragments_filter (listing : Listing) (keep : String → Bool) :
    fragments (listing.filter fun entry => keep entry.1) = (fragments listing).filter fun f => keep f.name := by
  rw [fragments, fragments, List.filterMap_filter, List.filter_filterMap]
  apply List.filterMap_congr
  intro entry _
  cases carried : fragment? entry with
  | none => simp
  | some f =>
      rw [← (fragment_entry entry f carried).1]
      by_cases kept : keep f.name = true <;> simp [kept, Option.filter]

theorem queue_rest (listing : Listing) (f : Fragment) (queue : List Fragment)
    (waiting : Queue (fragments listing) (f :: queue)) :
    Queue (fragments (listing.filter fun entry => entry.1 ≠ f.name)) queue := by
  have apart := (List.nodup_cons.mp waiting.named).1
  have others : (f :: queue).filter (fun g => decide (g.name ≠ f.name)) = queue := by
    rw [List.filter_cons_of_neg (by simp), List.filter_eq_self]
    intro g member
    simpa using fun same => apart (List.mem_map.mpr ⟨g, member, same⟩)
  refine ⟨?_, waiting.ordered.of_cons, (List.nodup_cons.mp waiting.named).2⟩
  have perm := waiting.perm.filter fun g => decide (g.name ≠ f.name)
  rw [fragments_filter listing fun name => decide (name ≠ f.name)]
  rwa [others] at perm

theorem size_sum_perm (found queue : List Fragment) (perm : queue.Perm found) : sizeSum queue = sizeSum found := by
  induction perm with
  | nil => rfl
  | cons f _ ih => rw [sizeSum, sizeSum, ih]
  | swap f g rest =>
      rw [sizeSum, sizeSum, sizeSum, sizeSum]
      exact Nat.add_left_comm _ _ _
  | trans _ _ first second => exact first.trans second

theorem total_size_perm (found queue : List Fragment) (perm : queue.Perm found) :
    totalSize queue = totalSize found := by
  rw [totalSize, totalSize, size_sum_perm found queue perm]

/-! ### The pass -/

def Ended (stop : Interruption) (maxBytes : Nat) (isActive : String → Bool) (limit : Nat) (queue : List Fragment)
    (count : Nat) : QuotaOutcome → Prop
  | .withinQuota => totalSize (queue.drop count) < maxBytes
  | .iterationLimit => maxBytes ≤ totalSize (queue.drop count) ∧ count = limit
  | .noCandidate => maxBytes ≤ totalSize (queue.drop count) ∧ count < limit ∧ count = queue.length
  | .activeIsOldest =>
      maxBytes ≤ totalSize (queue.drop count) ∧ count < limit ∧
        ∃ f, (queue.drop count).head? = some f ∧ isActive f.name = true
  | .ioFailure => stop ≠ {}
  | .unbounded => False

structure Prunes (stop : Interruption) (maxBytes : Nat) (isActive : String → Bool) (limit : Nat) (queue : List Fragment)
    (count : Nat) (outcome : QuotaOutcome) : Prop where
  few : count ≤ limit
  present : count ≤ queue.length
  needed : ∀ k < count, maxBytes ≤ totalSize (queue.drop k)
  inactive : ∀ f ∈ queue.take count, isActive f.name = false
  ended : Ended stop maxBytes isActive limit queue count outcome

structure Reports (queue : List Fragment) (p : QuotaPass) (count : Nat) (outcome : QuotaOutcome)
    (r : QuotaReport × Listing) : Prop where
  said : r.1.outcome = outcome
  removed : r.1.removed = p.removed ++ (queue.take count).map (·.name)
  left : r.2 = p.listing.filter fun entry => entry.1 ∉ (queue.take count).map (·.name)
  total : outcome ≠ .ioFailure → r.1.totalBytes = totalSize (queue.drop count)

section Pass

variable (stop : Interruption) (maxBytes : Nat) (isActive : String → Bool)

theorem prunes_nothing (limit : Nat) (queue : List Fragment) (outcome : QuotaOutcome)
    (ended : Ended stop maxBytes isActive limit queue 0 outcome) :
    Prunes stop maxBytes isActive limit queue 0 outcome :=
  ⟨Nat.zero_le _, Nat.zero_le _, by simp, by simp, ended⟩

theorem reports_nothing (queue : List Fragment) (p : QuotaPass) (outcome : QuotaOutcome)
    (sized : outcome ≠ .ioFailure → p.total = totalSize queue) : Reports queue p 0 outcome (p.report outcome) where
  said := rfl
  removed := by simp [QuotaPass.report]
  left := by simp [QuotaPass.report]
  total := fun measured => by simpa [QuotaPass.report] using sized measured

theorem prunes_oldest (limit : Nat) (f : Fragment) (queue : List Fragment) (count : Nat) (outcome : QuotaOutcome)
    (excess : maxBytes ≤ totalSize (f :: queue)) (inactive : isActive f.name = false)
    (prunes : Prunes stop maxBytes isActive limit queue count outcome) :
    Prunes stop maxBytes isActive (limit + 1) (f :: queue) (count + 1) outcome where
  few := Nat.succ_le_succ prunes.few
  present := Nat.succ_le_succ prunes.present
  needed := by
    intro k before
    cases k with
    | zero => exact excess
    | succ k => exact prunes.needed k (by omega)
  inactive := by
    intro g among
    rcases List.mem_cons.mp among with rfl | later
    · exact inactive
    · exact prunes.inactive g later
  ended := by
    have ended := prunes.ended
    cases outcome with
    | unbounded => exact ended
    | withinQuota => exact ended
    | activeIsOldest => exact ⟨ended.1, Nat.succ_lt_succ ended.2.1, ended.2.2⟩
    | noCandidate => exact ⟨ended.1, Nat.succ_lt_succ ended.2.1, congrArg Nat.succ ended.2.2⟩
    | iterationLimit => exact ⟨ended.1, congrArg Nat.succ ended.2⟩
    | ioFailure => exact ended

theorem reports_oldest (f : Fragment) (queue : List Fragment) (p : QuotaPass) (total listings count : Nat)
    (outcome : QuotaOutcome) (r : QuotaReport × Listing)
    (reports : Reports queue
      ⟨p.listing.filter (·.1 ≠ f.name), total, p.removed ++ [f.name], listings⟩ count outcome r) :
    Reports (f :: queue) p (count + 1) outcome r where
  said := reports.said
  removed := by simp [reports.removed]
  left := by
    rw [reports.left, List.filter_filter]
    apply List.filter_congr
    intro entry _
    rw [Bool.eq_iff_iff]
    simp [and_comm]
  total := reports.total

theorem run_prunes (limit : Nat) (p : QuotaPass) (queue : List Fragment)
    (waiting : Queue (fragments p.listing) queue) (sized : p.total = totalSize queue) :
    ∃ count outcome, Prunes stop maxBytes isActive limit queue count outcome ∧
      Reports queue p count outcome (QuotaPass.run stop maxBytes isActive limit p) := by
  have here (limit : Nat) (p : QuotaPass) (queue : List Fragment) (sized : p.total = totalSize queue)
      (outcome : QuotaOutcome) (ended : Ended stop maxBytes isActive limit queue 0 outcome) :
      ∃ count outcome', Prunes stop maxBytes isActive limit queue count outcome' ∧
        Reports queue p count outcome' (p.report outcome) :=
    ⟨0, outcome, prunes_nothing stop maxBytes isActive limit queue outcome ended,
      reports_nothing queue p outcome fun _ => sized⟩
  induction limit generalizing p queue with
  | zero =>
      rw [QuotaPass.run]
      split
      · next within => exact here 0 p queue sized .withinQuota (by simpa [Ended, ← sized] using within)
      · next excess => exact here 0 p queue sized .iterationLimit ⟨sized ▸ Nat.le_of_not_lt excess, rfl⟩
  | succ limit ih =>
      rw [QuotaPass.run]
      split
      · next within => exact here _ p queue sized .withinQuota (by simpa [Ended, ← sized] using within)
      · next excess =>
          have excess : maxBytes ≤ totalSize queue := sized ▸ Nat.le_of_not_lt excess
          rw [oldest_of_queue _ queue waiting]
          split
          · next failed => exact here _ p queue sized .ioFailure (by rintro rfl; cases failed)
          · cases queue with
            | nil => exact here _ p [] sized .noCandidate ⟨excess, Nat.succ_pos _, rfl⟩
            | cons f queue =>
                dsimp only [List.head?_cons]
                split
                · next active =>
                  exact here _ p (f :: queue) sized .activeIsOldest ⟨excess, Nat.succ_pos _, f, rfl, active⟩
                · next inactive =>
                    have inactive : isActive f.name = false := by simpa using inactive
                    have rest := queue_rest p.listing f queue waiting
                    split
                    · next failed => exact here _ p (f :: queue) sized .ioFailure (by rintro rfl; cases failed)
                    · split
                      · next failed =>
                          have nothing := prunes_nothing stop maxBytes isActive limit queue .ioFailure
                            (by rintro rfl; cases failed)
                          exact ⟨1, .ioFailure, prunes_oldest stop maxBytes isActive limit f queue 0 .ioFailure excess
                            inactive nothing, reports_oldest f queue p _ _ 0 .ioFailure _
                              (reports_nothing queue ⟨_, _, _, _⟩ .ioFailure (absurd rfl))⟩
                      -- Behind the oldest fragment the queue is the one of what is left.
                      · have smaller := total_size_perm _ queue rest.perm
                        obtain ⟨count, outcome, prunes, reports⟩ :=
                          ih ⟨_, _, p.removed ++ [f.name], p.listings + 2⟩ queue rest smaller.symm
                        exact ⟨count + 1, outcome,
                          prunes_oldest stop maxBytes isActive limit f queue count outcome excess inactive prunes,
                          reports_oldest f queue p _ _ count outcome _ reports⟩

end Pass

/-! ### On the disk -/

theorem queue_drop (found queue : List Fragment) (waiting : Queue found queue) (count : Nat) :
    Queue (found.filter fun f => f.name ∉ (queue.take count).map (·.name)) (queue.drop count) := by
  have whole := List.take_append_drop count queue
  have named := waiting.named
  rw [← whole, List.map_append, List.nodup_append] at named
  have left : queue.filter (fun f => decide (f.name ∉ (queue.take count).map (·.name))) = queue.drop count := by
    have taken : (queue.take count).filter (fun f => decide (f.name ∉ (queue.take count).map (·.name))) = [] := by
      rw [List.filter_eq_nil_iff]
      intro f member
      simpa only [decide_eq_true_eq, not_not] using List.mem_map_of_mem member
    have kept : (queue.drop count).filter (fun f => decide (f.name ∉ (queue.take count).map (·.name))) =
        queue.drop count := by
      rw [List.filter_eq_self]
      intro f member
      rw [decide_eq_true_eq]
      exact fun gone => named.2.2 f.name gone f.name (List.mem_map_of_mem member) rfl
    have both := List.filter_append (p := fun f => decide (f.name ∉ (queue.take count).map (·.name)))
      (queue.take count) (queue.drop count)
    rwa [whole, taken, kept, List.nil_append] at both
  refine ⟨?_, waiting.ordered.sublist (List.drop_sublist _ _), named.2.1⟩
  have perm := waiting.perm.filter fun f => decide (f.name ∉ (queue.take count).map (·.name))
  rwa [left] at perm

theorem erase_in_distinct (d : Disk) (distinct : d.Distinct) (dir : FilePath) (names : List String) :
    (eraseIn d dir names).Distinct := by
  rw [eraseIn]
  split
  · next loc _ _ => exact d.erase_each_distinct distinct loc names
  · exact distinct

theorem enforce_quota_distinct (stop : Interruption) (d : Disk) (distinct : d.Distinct) (dir : FilePath)
    (maxBytes : Option Nat) (active : FilePath) : (enforceQuota stop d dir maxBytes active).2.Distinct := by
  cases maxBytes with
  | none => exact distinct
  | some quota =>
      cases listed : d.list dir with
      | error e => simpa only [enforceQuota, listed] using distinct
      | ok listing => simpa only [enforceQuota, listed] using erase_in_distinct d distinct dir _

structure Enforces (stop : Interruption) (maxBytes : Nat) (isActive : String → Bool) (d : Disk) (loc : Disk.Location)
    (queue : List Fragment) (count : Nat) (r : QuotaReport × Disk) : Prop where
  prunes : Prunes stop maxBytes isActive deletionLimit queue count r.1.outcome
  removed : r.1.removed = (queue.take count).map (·.name)
  total : r.1.outcome ≠ .ioFailure → r.1.totalBytes = totalSize (queue.drop count)
  disk : r.2 = d.eraseEach loc ((queue.take count).map (·.name))
  left : Queue (fragments (r.2.children loc)) (queue.drop count)

theorem enforce_on_prunes (stop : Interruption) (maxBytes : Nat) (isActive : String → Bool) (listing : Listing)
    (queue : List Fragment) (waiting : Queue (fragments listing) queue) :
    ∃ count outcome, Prunes stop maxBytes isActive deletionLimit queue count outcome ∧
      Reports queue ⟨listing, totalSize (fragments listing), [], 1⟩ count outcome
        (enforceOn stop (some maxBytes) isActive listing) := by
  rw [enforceOn]
  split
  · next failed =>
      refine ⟨0, .ioFailure, prunes_nothing stop maxBytes isActive _ queue .ioFailure (by rintro rfl; cases failed), ?_⟩
      exact ⟨rfl, rfl, by simp, absurd rfl⟩
  · exact run_prunes stop maxBytes isActive deletionLimit _ queue waiting (total_size_perm _ queue waiting.perm).symm

theorem enforce_quota_enforces (stop : Interruption) (d : Disk) (dir : FilePath) (maxBytes : Nat) (active : FilePath)
    (distinct : d.Distinct) (loc : Disk.Location) (found : d.stat dir = .ok (loc, .dir)) :
    ∃ queue count, Queue (fragments (d.children loc)) queue ∧
      Enforces stop maxBytes (fun name => (dir.join ⟨name⟩).same active) d loc queue count
        (enforceQuota stop d dir (some maxBytes) active) := by
  obtain ⟨queue, waiting⟩ :=
    queue_exists (fragments (d.children loc)) (fragments_named _ (d.children_distinct distinct loc))
  obtain ⟨count, outcome, prunes, reports⟩ := enforce_on_prunes stop maxBytes
    (fun name => (dir.join ⟨name⟩).same active) (d.children loc) queue waiting
  have removed :
      (enforceOn stop (some maxBytes) (fun name => (dir.join ⟨name⟩).same active) (d.children loc)).1.removed =
        (queue.take count).map (·.name) := reports.removed
  have erased :
      eraseIn d dir ((queue.take count).map (·.name)) = d.eraseEach loc ((queue.take count).map (·.name)) := by
    rw [eraseIn, found]
    rfl
  have listed : d.list dir = .ok (d.children loc) := by
    simp only [Disk.list, found]
  simp only [enforceQuota, listed]
  refine ⟨queue, count, waiting, reports.said ▸ prunes, removed, reports.said ▸ reports.total, ?_, ?_⟩
  · rw [removed, erased]
  · rw [removed, erased, Disk.erase_each_children, fragments_filter _ fun name => decide (name ∉ _)]
    exact queue_drop _ queue waiting count

end CameraServer.Recording
