import CameraServer.Pipeline.Engine
import CameraServer.Proofs.Recording.Quota

/-!
The life of a recording store among settings that change, a clock, and a disk that others write to. Main
statement: the store takes nothing from the disk but old fragments, and only on its way to a new one; what it
remembers is what it found and handed out last.
-/

set_option autoImplicit false

namespace CameraServer.RecordingStore

open Recording (Fragment Interruption fragments totalSize sizeSum isFragmentName fragmentName enforceQuota)

/-! ### What happens to a store -/

inductive Act where
  | apply (config : PipelineConfig)
  | resolve
  | next (stop : Interruption) (index : Nat)
  -- Whatever others do to the disk, and another time.
  | surroundings (disk : Disk) (now : Instant)

inductive Note where
  | configured (path : FilePath)
  | found (dir : FilePath)
  | returned (path : FilePath)

namespace Act

def perform : Act → Site → Site
  | .apply config, w => { w with store := w.store.apply config }
  | .resolve, w => { w with store := (w.store.resolveDir w.disk).2.1, disk := (w.store.resolveDir w.disk).2.2 }
  | .next stop index, w =>
      { w with
        store := (w.store.nextFragmentAmid stop w.disk w.now index).2.1
        disk := (w.store.nextFragmentAmid stop w.disk w.now index).2.2 }
  | .surroundings disk now, w => { w with disk, now }

def notes : Act → Site → List Note
  | .apply config, _ => [.configured config.recordingPath]
  | .resolve, w =>
      match (w.store.resolveDir w.disk).1 with
      | .ok dir => [.found dir]
      | .error _ => []
  | .next stop index, w =>
      match (w.store.resolveDir w.disk).1, (w.store.nextFragmentAmid stop w.disk w.now index).1 with
      | .ok dir, some path => [.returned path, .found dir]
      | _, _ => []
  | .surroundings _ _, _ => []

def Sound : Act → Prop
  | .surroundings disk _ => disk.Distinct
  | _ => True

end Act

inductive Life : List Note → Site → Prop where
  | born (config : PipelineConfig) (disk : Disk) (now : Instant) (distinct : disk.Distinct) :
      Life [.configured config.recordingPath] ⟨ofConfig config, disk, now⟩
  | act (notes : List Note) (w : Site) (a : Act) (lived : Life notes w) (sound : a.Sound) :
      Life (a.notes w ++ notes) (a.perform w)

def lastConfigured : List Note → Option FilePath
  | [] => none
  | .configured path :: _ => some path
  | _ :: earlier => lastConfigured earlier

def lastReturned : List Note → Option FilePath
  | [] => none
  | .returned path :: _ => some path
  | _ :: earlier => lastReturned earlier

def lastFound : List Note → Option FilePath
  | [] => none
  | .found dir :: _ => some dir
  | .returned _ :: earlier => lastFound earlier
  | .configured path :: earlier => if (lastConfigured earlier).any (·.same path) then lastFound earlier else none

structure Remembers (notes : List Note) (s : RecordingStore) : Prop where
  path : lastConfigured notes = some s.path
  resolved : s.resolved = lastFound notes
  active : s.active = lastReturned notes

/-! ### Finding the directory -/

section Find

variable (keep : Disk → Prop) (add : ∀ d loc, keep d → d.node? loc = none → keep (d.set loc .dir))
variable (s : RecordingStore) (d : Disk) (before : keep d)

include add before

theorem prepare_dir_keeps : keep (s.prepareDir d).2 := by
  have made : keep (d.makeDirAll s.path).2 := Disk.make_dirs_keeps keep add _ s.path d before
  rw [prepareDir]
  split
  · split <;> exact before
  · split
    · split
      · next eq => rwa [eq] at made
      · next eq => rwa [eq] at made
    · exact before

theorem resolve_dir_keeps : keep (s.resolveDir d).2.2 := by
  have prepared := prepare_dir_keeps keep add s d before
  rw [resolveDir]
  split
  · next eq => rwa [eq] at prepared
  · next eq => rwa [eq] at prepared

end Find

theorem resolve_dir_grows (s : RecordingStore) (d : Disk) : Disk.Grows d (s.resolveDir d).2.2 := by
  apply resolve_dir_keeps (Disk.Grows d)
  · exact fun next loc grown absent other node here =>
      Disk.set_grows next loc .dir absent other node (grown other node here)
  · exact fun _ _ here => here

theorem resolve_dir_distinct (s : RecordingStore) (d : Disk) (distinct : d.Distinct) :
    (s.resolveDir d).2.2.Distinct :=
  resolve_dir_keeps Disk.Distinct (fun next loc kept absent => Disk.set_distinct next loc .dir absent kept) s d distinct

theorem resolve_dir_store (s : RecordingStore) (d : Disk) :
    (∃ e, (s.resolveDir d).1 = .error e ∧ (s.resolveDir d).2.1 = s) ∨
      ∃ dir, (s.resolveDir d).1 = .ok dir ∧ (s.resolveDir d).2.1 = { s with resolved := some dir } := by
  rw [resolveDir]
  split
  · exact .inl ⟨_, rfl, rfl⟩
  · exact .inr ⟨_, rfl, rfl⟩

theorem next_fragment_cases (stop : Interruption) (s : RecordingStore) (d : Disk) (now : Instant) (index : Nat) :
    (∃ e, (s.resolveDir d).1 = .error e ∧
      s.nextFragmentAmid stop d now index = (none, s, (s.resolveDir d).2.2)) ∨
    ∃ dir path, (s.resolveDir d).1 = .ok dir ∧ path = dir.join ⟨fragmentName now index⟩ ∧
      s.nextFragmentAmid stop d now index = (some path, { s with resolved := some dir, active := some path },
        (enforceQuota stop (s.resolveDir d).2.2 dir s.maxBytes path).2) := by
  have store := resolve_dir_store s d
  rw [nextFragmentAmid]
  rcases eq : s.resolveDir d with ⟨e | dir, next, disk⟩
  · rw [eq] at store
    rcases store with ⟨_, _, rfl⟩ | ⟨_, found, _⟩
    · exact .inl ⟨e, rfl, rfl⟩
    · cases found
  · rw [eq] at store
    rcases store with ⟨_, failed, _⟩ | ⟨_, found, rfl⟩
    · cases failed
    · cases found
      exact .inr ⟨dir, _, rfl, rfl, rfl⟩

/-! ### Making room -/

structure Rotates (stop : Interruption) (maxBytes : Option Nat) (dir path : FilePath) (loc : Disk.Location)
    (found after : Disk) (removed : List Fragment) : Prop where
  few : removed.length ≤ 100
  located : ∀ other node, found.stat dir = .ok (other, node) → other = loc
  listed : removed ≠ [] → found.stat dir = .ok (loc, .dir)
  reported : (enforceQuota stop found dir maxBytes path).1.removed = removed.map (·.name)
  files : ∀ f ∈ removed, isFragmentName f.name = true ∧
    ∃ content, found.node? (loc ++ [f.name]) = some (.file content f.mtime)
  spared : ∀ f ∈ removed, (dir.join ⟨f.name⟩).same path = false
  ordered : removed.Pairwise fun f g => f.precedes g = true
  oldest : ∀ f ∈ removed, ∀ g ∈ fragments (after.children loc), f.precedes g = true
  rest : ∀ other, after.node? other = if other ∈ removed.map (loc ++ [·.name]) then none else found.node? other
  room : ∀ quota, maxBytes = some quota → 0 < quota → (fragments (found.children loc)).length ≤ 100 →
    (∀ f ∈ fragments (found.children loc), (dir.join ⟨f.name⟩).same path = false) →
    (enforceQuota stop found dir maxBytes path).1.outcome ≠ .ioFailure →
    totalSize (fragments (after.children loc)) < quota ∧
      (sizeSum (fragments (after.children loc)) < 2 ^ 64 → sizeSum (fragments (after.children loc)) < quota)

theorem rotates_nothing (stop : Interruption) (maxBytes : Option Nat) (dir path : FilePath) (loc : Disk.Location)
    (found : Disk) (located : ∀ other node, found.stat dir = .ok (other, node) → other = loc)
    (reported : (enforceQuota stop found dir maxBytes path).1.removed = [])
    (idle : ∀ quota, maxBytes = some quota → (enforceQuota stop found dir maxBytes path).1.outcome = .ioFailure) :
    Rotates stop maxBytes dir path loc found found [] where
  few := by simp
  located := located
  listed := absurd rfl
  reported := reported
  files := by simp
  spared := by simp
  ordered := .nil
  oldest := by simp
  rest := by simp
  room := fun quota limited _ _ _ calm => absurd (idle quota limited) calm

theorem total_size_small (found : List Fragment) (quota : Nat) (within : totalSize found < quota) :
    sizeSum found < 2 ^ 64 → sizeSum found < quota := by
  intro small
  have measured : sizeSum found % 2 ^ 64 < quota := within
  rwa [Nat.mod_eq_of_lt small] at measured

-- Where nothing else stops a pass over a hundred fragments or fewer, it ends within the quota.
theorem enforces_within (stop : Interruption) (quota : Nat) (isActive : String → Bool) (d : Disk) (loc : Disk.Location)
    (queue : List Fragment) (count : Nat) (r : Recording.QuotaReport × Disk)
    (enforces : Recording.Enforces stop quota isActive d loc queue count r) (limited : 0 < quota)
    (few : queue.length ≤ 100) (inactive : ∀ f ∈ queue, isActive f.name = false) (calm : r.1.outcome ≠ .ioFailure) :
    totalSize (queue.drop count) < quota := by
  have ended := enforces.prunes.ended
  have nothing_left (whole : queue.length ≤ count) (excess : quota ≤ totalSize (queue.drop count)) : False := by
    rw [List.drop_eq_nil_of_le whole] at excess
    exact Nat.lt_irrefl 0 (Nat.lt_of_lt_of_le limited excess)
  cases outcome : r.1.outcome with
  | withinQuota =>
      rw [outcome] at ended
      exact ended
  | iterationLimit =>
      rw [outcome] at ended
      obtain ⟨excess, all⟩ := ended
      exact absurd excess (nothing_left (all ▸ few))
  | noCandidate =>
      rw [outcome] at ended
      obtain ⟨excess, _, all⟩ := ended
      exact absurd excess (nothing_left all.ge)
  | activeIsOldest =>
      rw [outcome] at ended
      obtain ⟨_, _, f, front, active⟩ := ended
      have waiting := List.mem_of_mem_drop (List.mem_of_mem_head? front)
      rw [inactive f waiting] at active
      cases active
  | ioFailure => exact absurd outcome calm
  | unbounded =>
      rw [outcome] at ended
      exact ended.elim

theorem enforces_rotates (stop : Interruption) (quota : Nat) (dir path : FilePath) (found : Disk)
    (distinct : found.Distinct) (loc : Disk.Location) (listed : found.stat dir = .ok (loc, .dir)) :
    ∃ removed, Rotates stop (some quota) dir path loc found
      (enforceQuota stop found dir (some quota) path).2 removed := by
  obtain ⟨queue, count, waiting, enforces⟩ :=
    Recording.enforce_quota_enforces stop found dir quota path distinct loc listed
  have whole := waiting.ordered
  rw [← List.take_append_drop count queue, List.pairwise_append] at whole
  refine ⟨queue.take count, ?_⟩
  constructor
  · exact (List.length_take_le _ _).trans enforces.prunes.few
  · intro other node there
    rw [listed] at there
    cases there
    rfl
  · exact fun _ => listed
  · exact enforces.removed
  · intro f taken
    have found_there := waiting.perm.mem_iff.mp (List.mem_of_mem_take taken)
    obtain ⟨⟨name, node⟩, member, carried⟩ := List.mem_filterMap.mp found_there
    obtain ⟨rfl, extension, content, file, _⟩ := Recording.fragment_entry _ f carried
    refine ⟨extension, content, ?_⟩
    rw [Disk.node_some_iff found distinct _ (by simp)]
    exact file ▸ (Disk.mem_children found loc _ _).mp member
  · exact enforces.prunes.inactive
  · exact whole.1
  · exact fun f taken g left => whole.2.2 f taken g (enforces.left.perm.mem_iff.mpr left)
  · intro other
    rw [enforces.disk, Disk.erase_each_node, List.map_map]
    rfl
  · rintro _ ⟨⟩ limited few inactive calm
    have size := Recording.total_size_perm _ _ enforces.left.perm
    have within := enforces_within stop quota _ found loc queue count _ enforces limited (waiting.perm.length_eq ▸ few)
      (fun f member => inactive f (waiting.perm.mem_iff.mp member)) calm
    rw [size] at within
    exact ⟨within, total_size_small _ quota within⟩

theorem enforce_quota_rotates (stop : Interruption) (maxBytes : Option Nat) (dir path : FilePath) (found : Disk)
    (distinct : found.Distinct) :
    ∃ loc removed, Rotates stop maxBytes dir path loc found (enforceQuota stop found dir maxBytes path).2 removed := by
  obtain ⟨loc, located⟩ : ∃ loc, ∀ other node, found.stat dir = .ok (other, node) → other = loc := by
    cases found.stat dir with
    | error e => exact ⟨[], by simp⟩
    | ok place => exact ⟨place.1, by rintro _ _ ⟨⟩; rfl⟩
  cases maxBytes with
  | none =>
      exact ⟨loc, [], rotates_nothing stop none dir path loc found located rfl fun quota limited => by cases limited⟩
  | some quota =>
      cases listed : found.list dir with
      | error e =>
          refine ⟨loc, [], ?_⟩
          have idle : enforceQuota stop found dir (some quota) path = (⟨.ioFailure, [], 0⟩, found) := by
            simp only [enforceQuota, listed]
          have nothing := rotates_nothing stop (some quota) dir path loc found located (by rw [idle])
            (by rw [idle]; simp)
          rwa [idle]
      | ok listing =>
          obtain ⟨place, here⟩ := Disk.list_ok found dir listing listed
          exact ⟨place, enforces_rotates stop quota dir path found distinct place here.1⟩

/-! ### A whole life -/

theorem act_remembers (notes : List Note) (w : Site) (a : Act) (before : Remembers notes w.store) :
    Remembers (a.notes w ++ notes) (a.perform w).store := by
  cases a with
  | apply config =>
      refine ⟨rfl, ?_, before.active⟩
      simp [Act.notes, Act.perform, RecordingStore.apply, lastFound, before.path, before.resolved]
  | resolve =>
      rw [Act.notes, Act.perform]
      rcases resolve_dir_store w.store w.disk with ⟨e, failed, same⟩ | ⟨dir, found, changed⟩
      · rw [failed]
        dsimp only
        rw [same]
        exact before
      · rw [found]
        dsimp only
        rw [changed]
        exact ⟨before.path, rfl, before.active⟩
  | next stop index =>
      rw [Act.notes, Act.perform]
      rcases next_fragment_cases stop w.store w.disk w.now index with
        ⟨e, failed, none_left⟩ | ⟨dir, path, found, _, given⟩
      · rw [failed, none_left]
        exact before
      · rw [found, given]
        exact ⟨before.path, rfl, rfl⟩
  | surroundings disk now => exact before

theorem act_distinct (w : Site) (a : Act) (sound : a.Sound) (distinct : w.disk.Distinct) :
    (a.perform w).disk.Distinct := by
  have found := resolve_dir_distinct w.store w.disk distinct
  cases a with
  | apply config => exact distinct
  | resolve => exact found
  | next stop index =>
      rw [Act.perform]
      rcases next_fragment_cases stop w.store w.disk w.now index with ⟨_, _, none_left⟩ | ⟨dir, path, _, _, given⟩
      · rw [none_left]
        exact found
      · rw [given]
        exact Recording.enforce_quota_distinct stop _ found dir _ path
  | surroundings disk now => exact sound

theorem life_invariant (notes : List Note) (w : Site) (life : Life notes w) :
    Remembers notes w.store ∧ w.disk.Distinct := by
  induction life with
  | born config disk now distinct => exact ⟨⟨rfl, rfl, rfl⟩, distinct⟩
  | act notes w a _ sound ih => exact ⟨act_remembers notes w a ih.1, act_distinct w a sound ih.2⟩

theorem store_life (notes : List Note) (w : Site) (life : Life notes w) :
    w.store.active = lastReturned notes ∧ w.store.resolved = lastFound notes ∧
    (∀ config, ((Act.apply config).perform w).disk = w.disk) ∧ Disk.Grows w.disk (Act.resolve.perform w).disk ∧
    ∀ stop index,
      let next := (Act.next stop index).perform w
      match (w.store.nextFragmentAmid stop w.disk w.now index).1 with
      | none => next.store.active = w.store.active ∧ Disk.Grows w.disk next.disk
      | some path =>
          ∃ dir loc removed, (w.store.resolveDir w.disk).1 = .ok dir ∧
            Disk.Grows w.disk (w.store.resolveDir w.disk).2.2 ∧
            Rotates stop w.store.maxBytes dir path loc (w.store.resolveDir w.disk).2.2 next.disk removed := by
  obtain ⟨remembers, distinct⟩ := life_invariant notes w life
  have grown := resolve_dir_grows w.store w.disk
  refine ⟨remembers.active, remembers.resolved, fun _ => rfl, grown, ?_⟩
  intro stop index
  rw [Act.perform]
  rcases next_fragment_cases stop w.store w.disk w.now index with ⟨e, _, none_left⟩ | ⟨dir, path, found, _, given⟩
  · rw [none_left]
    exact ⟨rfl, grown⟩
  · rw [given]
    obtain ⟨loc, removed, rotates⟩ := enforce_quota_rotates stop w.store.maxBytes dir path _
      (resolve_dir_distinct w.store w.disk distinct)
    exact ⟨dir, loc, removed, found, grown, rotates⟩

-- Two fragments are more than the quota; the older one goes.
def crowded : Disk where
  nodes := [(["rec"], .dir), (["rec", "a.mp4"], .file ⟨[], 700000⟩ 900), (["rec", "b.MP4"], .file ⟨[], 700000⟩ 500),
    (["rec", "notes.txt"], .file ⟨[], 700000⟩ 100)]

def full : Site :=
  Act.perform (.surroundings crowded 0) ⟨ofConfig { recordingPath := ⟨"/rec/"⟩, maxSizeMb := 1 }, {}, 0⟩

def rotated : Site := Act.perform (.next {} 0) full

theorem store_life_rotated :
    Life [.returned ⟨"/rec/1970-01-01--00-00-00[0].mp4"⟩, .found ⟨"/rec"⟩, .configured ⟨"/rec/"⟩] rotated ∧
      rotated.store.active = some ⟨"/rec/1970-01-01--00-00-00[0].mp4"⟩ ∧ rotated.store.resolved = some ⟨"/rec"⟩ ∧
      rotated.disk.nodes.map (·.1) = [["rec"], ["rec", "a.mp4"], ["rec", "notes.txt"]] := by
  have opened : Life [.configured ⟨"/rec/"⟩] full :=
    .act _ _ (.surroundings crowded 0) (.born { recordingPath := ⟨"/rec/"⟩, maxSizeMb := 1 } {} 0 (by decide))
      (show crowded.Distinct by decide)
  have life : Life [.returned ⟨"/rec/1970-01-01--00-00-00[0].mp4"⟩, .found ⟨"/rec"⟩, .configured ⟨"/rec/"⟩] rotated :=
    .act _ full (.next {} 0) opened trivial
  obtain ⟨active, resolved, _⟩ := store_life _ rotated life
  exact ⟨life, active, resolved, by decide⟩

end CameraServer.RecordingStore
