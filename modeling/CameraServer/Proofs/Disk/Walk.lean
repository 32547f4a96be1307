import CameraServer.Proofs.Disk.Nodes

/-!
Walks and files. A walk to a directory steps through directories and links only, so taking files off a
disk leaves every directory where it was found.
-/

set_option autoImplicit false

namespace CameraServer.Disk

structure KeepsTree (d next : Disk) : Prop where
  work : next.workDir = d.workDir
  dirs : ∀ loc, d.node? loc = some .dir → next.node? loc = some .dir
  links : ∀ loc target, d.node? loc = some (.link target) → next.node? loc = some (.link target)

theorem is_dir_at_iff (d : Disk) (loc : Location) : d.isDirAt loc = true ↔ d.node? loc = some .dir := by
  rw [isDirAt, beq_iff_eq]

/-! ### Walking to a directory -/

section Leads

variable (d : Disk) (mode : WalkMode) (onLink : Location → List String → Except OsError Location) (loc : Location)

structure Names (step : String) : Prop where
  idle : step ≠ "."
  up : step ≠ ".."
  short : ¬ maxNameBytes < step.utf8ByteSize

inductive Leads (here : Location) : String → List String → Prop where
  | idle (rest : List String) (found : walkFrom d mode onLink here rest = .ok loc) : Leads here "." rest
  | up (rest : List String) (found : walkFrom d mode onLink here.dropLast rest = .ok loc) : Leads here ".." rest
  | down (step : String) (rest : List String) (named : Names step) (below : d.node? (here ++ [step]) = some .dir)
      (found : walkFrom d mode onLink (here ++ [step]) rest = .ok loc) : Leads here step rest
  | cross (step : String) (rest : List String) (target : FilePath) (named : Names step)
      (link : d.node? (here ++ [step]) = some (.link target)) (followed : ¬ (rest = [] && !mode.followLast) = true)
      (found : onLink (if target.isAbsolute then [] else here) (lookupSteps target ++ rest) = .ok loc) :
      Leads here step rest

theorem walk_from_leads (here : Location) (step : String) (rest : List String) (stands : d.isDirAt here = true)
    (leads : Leads d mode onLink loc here step rest) : walkFrom d mode onLink here (step :: rest) = .ok loc := by
  rw [walkFrom, stands, Bool.not_true, if_neg Bool.false_ne_true]
  cases leads with
  | idle _ found => rwa [if_pos rfl]
  | up _ found => rwa [if_neg (by decide), if_pos rfl]
  | down _ _ named below found => rwa [if_neg named.idle, if_neg named.up, if_neg named.short, below]
  | cross _ _ target named link followed found =>
      rw [if_neg named.idle, if_neg named.up, if_neg named.short, link]
      dsimp only
      rwa [if_neg followed]

variable (dir : d.isDirAt loc = true)

include dir

theorem walk_from_start (here : Location) (steps : List String) (found : walkFrom d mode onLink here steps = .ok loc) :
    d.isDirAt here = true := by
  cases steps with
  | nil =>
      cases found
      exact dir
  | cons step rest =>
      by_contra elsewhere
      rw [Bool.not_eq_true] at elsewhere
      rw [walkFrom, elsewhere] at found
      cases found

theorem leads_of_walk (here : Location) (step : String) (rest : List String)
    (found : walkFrom d mode onLink here (step :: rest) = .ok loc) : Leads d mode onLink loc here step rest := by
  have stands := walk_from_start d mode onLink loc dir here (step :: rest) found
  -- The walk does not end at the entry unless that is a directory.
  have ended : d.node? (here ++ [step]) ≠ some .dir → here ++ [step] ≠ loc :=
    fun other same => other ((is_dir_at_iff d _).mp (same ▸ dir))
  rw [walkFrom, stands, Bool.not_true, if_neg Bool.false_ne_true] at found
  by_cases idle : step = "."
  · subst idle
    rw [if_pos rfl] at found
    exact .idle rest found
  by_cases up : step = ".."
  · subst up
    rw [if_neg idle, if_pos rfl] at found
    exact .up rest found
  by_cases long : maxNameBytes < step.utf8ByteSize
  · rw [if_neg idle, if_neg up, if_pos long] at found
    cases found
  have named : Names step := ⟨idle, up, long⟩
  rw [if_neg idle, if_neg up, if_neg long] at found
  cases node : d.node? (here ++ [step]) with
  | none =>
      rw [node] at found
      dsimp only at found
      split at found
      · exact absurd (Except.ok.inj found) (ended (by simp [node]))
      · cases found
  | some present =>
      rw [node] at found
      cases present with
      | link target =>
          dsimp only at found
          split at found
          · exact absurd (Except.ok.inj found) (ended (by simp [node]))
          · next followed => exact .cross step rest target named node followed found
      | dir => exact .down step rest named node found
      | file content mtime =>
          have below := (is_dir_at_iff d _).mp (walk_from_start d mode onLink loc dir _ _ found)
          cases node.symm.trans below

end Leads

section Kept

variable (d next : Disk) (kept : KeepsTree d next) (mode : WalkMode)

include kept

theorem is_dir_at_kept (loc : Location) (dir : d.isDirAt loc = true) : next.isDirAt loc = true := by
  rw [is_dir_at_iff] at dir ⊢
  exact kept.dirs loc dir

theorem walk_from_kept (onLink onLink' : Location → List String → Except OsError Location) (loc : Location)
    (dir : d.isDirAt loc = true)
    (crossing : ∀ here steps, onLink here steps = .ok loc → onLink' here steps = .ok loc)
    (here : Location) (steps : List String) (found : walkFrom d mode onLink here steps = .ok loc) :
    walkFrom next mode onLink' here steps = .ok loc := by
  induction steps generalizing here with
  | nil => exact found
  | cons step rest ih =>
      have stands := walk_from_start d mode onLink loc dir here (step :: rest) found
      refine walk_from_leads next mode onLink' loc here step rest (is_dir_at_kept d next kept here stands) ?_
      cases leads_of_walk d mode onLink loc dir here step rest found with
      | idle _ found => exact .idle rest (ih here found)
      | up _ found => exact .up rest (ih here.dropLast found)
      | down _ _ named below found => exact .down step rest named (kept.dirs _ below) (ih _ found)
      | cross _ _ target named link followed found =>
          exact .cross step rest target named (kept.links _ target link) followed (crossing _ _ found)

theorem walk_kept (loc : Location) (dir : d.isDirAt loc = true) (links : Nat) (here : Location) (steps : List String)
    (found : walk d mode links here steps = .ok loc) : walk next mode links here steps = .ok loc := by
  induction links generalizing here steps with
  | zero => cases found
  | succ links ih => exact walk_from_kept d next kept mode _ _ loc dir ih here steps found

theorem stat_dir_kept (p : FilePath) (loc : Location) (found : d.stat p = .ok (loc, .dir)) :
    next.stat p = .ok (loc, .dir) := by
  rw [stat] at found ⊢
  rw [locate] at found ⊢
  cases fault : pathFault? p with
  | some e =>
      rw [fault] at found
      cases found
  | none =>
      rw [fault] at found
      dsimp only at found ⊢
      have start : next.startOf p = d.startOf p := by rw [startOf, startOf, kept.work]
      cases walked : walk d {} (maxLinks + 1) (d.startOf p) (lookupSteps p) with
      | error e =>
          rw [walked] at found
          cases found
      | ok place =>
          rw [walked] at found
          dsimp only at found
          cases node : d.node? place with
          | none =>
              rw [node] at found
              cases found
          | some present =>
              rw [node] at found
              cases found
              rw [start, walk_kept d next kept {} loc ((is_dir_at_iff d loc).mpr node) _ _ _ walked]
              dsimp only
              rw [kept.dirs loc node]

end Kept

theorem erase_each_tree (d : Disk) (loc : Location) (names : List String)
    (files : ∀ name ∈ names, ∃ content mtime, d.node? (loc ++ [name]) = some (.file content mtime)) :
    KeepsTree d (d.eraseEach loc names) := by
  have spared : ∀ other node, d.node? other = some node → (∀ content mtime, node ≠ .file content mtime) →
      (d.eraseEach loc names).node? other = some node := by
    intro other node present plain
    rw [erase_each_node, if_neg, present]
    intro gone
    obtain ⟨name, member, rfl⟩ := List.mem_map.mp gone
    obtain ⟨content, mtime, file⟩ := files name member
    rw [file] at present
    cases present
    exact plain content mtime rfl
  refine ⟨?_, ?_, ?_⟩
  · clear files spared
    induction names generalizing d with
    | nil => rfl
    | cons name rest ih => exact ih (d.erase (loc ++ [name]))
  · exact fun other dir => spared other .dir dir fun content mtime => by simp
  · exact fun other target link => spared other (.link target) link fun content mtime => by simp

end CameraServer.Disk
