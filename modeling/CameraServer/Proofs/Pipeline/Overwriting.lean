import CameraServer.Proofs.Pipeline.Footage

/-!
Recordings that are written over. Main statement: with a clock that does not go back, the fragments of a
run lie in different places unless two of one second share theirs; and that only happens in a second in
which the index of the recording begins again, as it does with each rebuilt graph.
-/

set_option autoImplicit false

namespace CameraServer.Engine

open Calendar Media Recording

def nextIndex (e : Engine) : Nat :=
  match e.graph.reels with
  | [] => 0
  | reel :: _ => reel.2.toNat

def Onward (e : Engine) (s : Step) : Prop := ∀ disk now, s = .surroundings disk now → e.site.now ≤ now

-- The index of the recording begins again: the graph is rebuilt, or the last index has been used up.
def Restarts (s : Step) (e : Engine) : Prop :=
  (∃ config, s = .setConfig config ∧ e.needsRebuild config = true) ∨
    e.nextIndex = UInt32.size - 1 ∧ (s.apply e).nextIndex = 0

def RestartsIn (second : Int) : List Step → Engine → Prop
  | [], _ => False
  | s :: rest, e => secondOf e.site.now = second ∧ Restarts s e ∨ RestartsIn second rest (s.apply e)

def opened (s : Step) (e : Engine) : List FilePath :=
  (s.apply e).graph.fragments.drop e.graph.fragments.length

def openings : List Step → Engine → List (Int × FilePath)
  | [], _ => []
  | s :: rest, e => (opened s e).map (fun path => (secondOf e.site.now, path)) ++ openings rest (s.apply e)

def openedIn (second : Int) (steps : List Step) (e : Engine) : List FilePath :=
  ((openings steps e).filter (·.1 = second)).map (·.2)

def Apart (paths : List FilePath) : Prop := paths.Pairwise fun p q => p.same q = false

instance (paths : List FilePath) : Decidable (Apart paths) :=
  inferInstanceAs (Decidable (paths.Pairwise fun p q => p.same q = false))

/-! ### One step -/

theorem opened_of_append (s : Step) (e : Engine) (paths : List FilePath)
    (grown : (s.apply e).graph.fragments = e.graph.fragments ++ paths) : opened s e = paths := by
  rw [opened, grown, List.drop_left]

theorem outside_or_inside (s : Step) :
    (∃ disk now, s = .surroundings disk now) ∨ ∀ disk now, s ≠ .surroundings disk now := by
  cases s <;> simp

theorem step_onward (s : Step) (e : Engine) (onward : Onward e s) : e.site.now ≤ (s.apply e).site.now := by
  rcases outside_or_inside s with ⟨disk, now, rfl⟩ | inside
  · exact onward disk now rfl
  · exact Int.le_of_eq (step_clock s e inside).symm

theorem step_appends (s : Step) (e : Engine) (loaded : e.graph.Loaded) :
    (s.apply e).graph.fragments = e.graph.fragments ++ opened s e ∧
      ∀ path ∈ opened s e, ∃ index, Named e.site.now index path := by
  have shown : ∃ paths, (s.apply e).graph.fragments = e.graph.fragments ++ paths ∧
      ∀ path ∈ paths, ∃ index, Named e.site.now index path := by
    rcases outside_or_inside s with ⟨disk, now, rfl⟩ | inside
    · exact ⟨[], by simp [Step.apply], by simp⟩
    · exact (step_films s e inside loaded).2.2
  obtain ⟨paths, grown, named⟩ := shown
  rw [opened_of_append s e paths grown]
  exact ⟨grown, named⟩

structure GoesOn (s : Step) (e : Engine) : Prop where
  onward : e.nextIndex ≤ (s.apply e).nextIndex
  due : opened s e = [] ∨
    ∃ path, opened s e = [path] ∧ Named e.site.now e.nextIndex path ∧ e.nextIndex < (s.apply e).nextIndex

theorem goes_on_still (s : Step) (e : Engine) (still : (s.apply e).graph.footage = e.graph.footage) : GoesOn s e := by
  have reels : (s.apply e).graph.reels = e.graph.reels := congrArg Footage.reels still
  have fragments : (s.apply e).graph.fragments = e.graph.fragments := congrArg Footage.fragments still
  have index : (s.apply e).nextIndex = e.nextIndex := by rw [nextIndex, nextIndex, reels]
  exact ⟨Nat.le_of_eq index.symm, .inl (opened_of_append s e [] (by simp [fragments]))⟩

theorem goes_on_turned (s : Step) (e : Engine) (index : UInt32)
    (turned : Graph.Turns (fun index path => Named e.site.now index.toNat path) e.graph (s.apply e).graph index)
    (left : ¬ Restarts s e) : GoesOn s e := by
  have before : e.nextIndex = index.toNat := by rw [nextIndex, turned.before]
  have after : (s.apply e).nextIndex = (index.toNat + 1) % UInt32.size := by
    rw [nextIndex, turned.after]
    exact UInt32.toNat_add index 1
  have small := index.toNat_lt
  -- The last index is followed by the first one, and then the index begins again.
  have more : index.toNat + 1 < UInt32.size := by
    by_contra none
    have last : index.toNat + 1 = UInt32.size := by
      simp only [UInt32.size] at none ⊢
      omega
    refine left (.inr ⟨?_, ?_⟩)
    · rw [before, ← last, Nat.add_sub_cancel]
    · rw [after, last, Nat.mod_self]
  rw [Nat.mod_eq_of_lt more] at after
  refine ⟨by omega, ?_⟩
  rcases turned.fragments with same | ⟨path, named, grown⟩
  · exact .inl (opened_of_append s e [] (by simp [same]))
  · refine .inr ⟨path, opened_of_append s e [path] grown, ?_, by omega⟩
    rw [before]
    exact named

theorem step_goes_on (allowed : Engine → Step → Prop) (s : Step) (e : Engine) (reached : Reachable allowed e)
    (left : ¬ Restarts s e) : GoesOn s e := by
  obtain ⟨loaded, idle⟩ := reachable_loaded allowed e reached
  rcases outside_or_inside s with ⟨disk, now, rfl⟩ | inside
  · exact goes_on_still _ e rfl
  · by_cases builds : s = .construct
    · subst builds
      cases built : e.constructed with
      | true =>
          apply goes_on_still
          rw [Step.apply, construct, if_pos built]
      | false =>
          have same := (construct_films_nothing e loaded).2
          refine ⟨?_, .inl (opened_of_append _ e [] (by simpa [Step.apply] using same))⟩
          rw [nextIndex, idle built]
          exact Nat.zero_le _
    · have kept : ∀ config, s = .setConfig config → e.needsRebuild config = false := fun config same => by
        rw [← Bool.not_eq_true]
        exact fun needed => left (.inl ⟨config, same, needed⟩)
      rcases (step_advances s e builds kept inside loaded).2 with still | ⟨index, turned⟩
      · exact goes_on_still s e still
      · exact goes_on_turned s e index turned left

/-! ### Fragments of one second -/

def Ascends (second : Int) : Nat → List FilePath → Prop
  | _, [] => True
  | least, path :: rest =>
      ∃ now index, secondOf now = second ∧ least ≤ index ∧ Named now index path ∧ Ascends second (index + 1) rest

theorem ascends_mono (second : Int) (least lower : Nat) (paths : List FilePath) (below : lower ≤ least)
    (ascends : Ascends second least paths) : Ascends second lower paths := by
  cases paths with
  | nil => trivial
  | cons path rest =>
      obtain ⟨now, index, here, above, named, later⟩ := ascends
      exact ⟨now, index, here, Nat.le_trans below above, named, later⟩

theorem ascends_named (second : Int) (least : Nat) (paths : List FilePath) (ascends : Ascends second least paths) :
    ∀ path ∈ paths, ∃ now index, secondOf now = second ∧ least ≤ index ∧ Named now index path := by
  induction paths generalizing least with
  | nil => simp
  | cons first rest ih =>
      obtain ⟨now, index, here, above, named, later⟩ := ascends
      intro path member
      rcases List.mem_cons.mp member with rfl | member
      · exact ⟨now, index, here, above, named⟩
      · obtain ⟨time, other, same, further, placed⟩ := ih (index + 1) later path member
        exact ⟨time, other, same, by omega, placed⟩

theorem ascends_apart (second : Int) (least : Nat) (paths : List FilePath) (ascends : Ascends second least paths) :
    Apart paths := by
  induction paths generalizing least with
  | nil => exact .nil
  | cons first rest ih =>
      obtain ⟨now, index, here, above, named, later⟩ := ascends
      refine List.pairwise_cons.mpr ⟨fun path member => ?_, ih (index + 1) later⟩
      obtain ⟨time, other, same, further, placed⟩ := ascends_named second _ rest later path member
      rw [← Bool.not_eq_true]
      intro equal
      have indices := (named_apart now time index other first path named placed equal).2
      omega

/-! ### A run -/

theorem opened_in_cons (second : Int) (s : Step) (rest : List Step) (e : Engine) :
    openedIn second (s :: rest) e =
      (if secondOf e.site.now = second then opened s e else []) ++ openedIn second rest (s.apply e) := by
  rw [openedIn, openings, List.filter_append, List.map_append, openedIn]
  by_cases here : secondOf e.site.now = second <;> simp [here, List.filter_map, Function.comp_def]

section Run

variable (steps : List Step) (e : Engine) (reached : Reachable Onward e) (may : AllAllowed Onward steps e)

include reached may

theorem run_fragments : (run steps e).graph.fragments = e.graph.fragments ++ (openings steps e).map (·.2) := by
  induction steps generalizing e with
  | nil => simp [run, openings]
  | cons s rest ih =>
      have grown := (step_appends s e (reachable_loaded Onward e reached).1).1
      rw [run, ih _ (.step e s reached may.1) may.2, grown]
      simp [openings, Function.comp_def]

theorem openings_named :
    ∀ entry ∈ openings steps e, secondOf e.site.now ≤ entry.1 ∧
      ∃ now index, secondOf now = entry.1 ∧ Named now index entry.2 := by
  induction steps generalizing e with
  | nil => simp [openings]
  | cons s rest ih =>
      intro entry member
      rcases List.mem_append.mp member with now | later
      · obtain ⟨path, here, rfl⟩ := List.mem_map.mp now
        obtain ⟨index, named⟩ := (step_appends s e (reachable_loaded Onward e reached).1).2 path here
        exact ⟨Int.le_refl _, e.site.now, index, rfl, named⟩
      · obtain ⟨after, named⟩ := ih _ (.step e s reached may.1) may.2 entry later
        have onward := second_of_mono _ _ (step_onward s e may.1)
        exact ⟨Int.le_trans onward after, named⟩

theorem opened_in_past (second : Int) (past : second < secondOf e.site.now) : openedIn second steps e = [] := by
  rw [openedIn, List.map_eq_nil_iff, List.filter_eq_nil_iff]
  intro entry member
  have after := (openings_named steps e reached may entry member).1
  simp only [decide_eq_true_eq]
  omega

theorem run_ascends (second : Int) (calm : ¬ RestartsIn second steps e) :
    Ascends second (if secondOf e.site.now = second then e.nextIndex else 0) (openedIn second steps e) := by
  induction steps generalizing e with
  | nil => trivial
  | cons s rest ih =>
      have later := fun restarts => calm (.inr restarts)
      have after : Reachable Onward (s.apply e) := .step e s reached may.1
      have rises := ih (s.apply e) after may.2 later
      rw [opened_in_cons]
      by_cases here : secondOf e.site.now = second
      · rw [if_pos here, if_pos here]
        -- In the same second the index is where this step has left it; in a later one nothing is added.
        have tail : Ascends second (s.apply e).nextIndex (openedIn second rest (s.apply e)) := by
          by_cases same : secondOf (s.apply e).site.now = second
          · rw [if_pos same] at rises
            exact rises
          · have onward := second_of_mono _ _ (step_onward s e may.1)
            rw [opened_in_past rest _ after may.2 second (by omega)]
            trivial
        have goes := step_goes_on Onward s e reached fun restarts => calm (.inl ⟨here, restarts⟩)
        rcases goes.due with none | ⟨path, one, named, further⟩
        · rw [none]
          exact ascends_mono second _ _ _ goes.onward tail
        · rw [one]
          exact ⟨e.site.now, e.nextIndex, here, Nat.le_refl _, named, ascends_mono second _ _ _ further tail⟩
      · rw [if_neg here, if_neg here]
        exact ascends_mono second _ _ _ (Nat.zero_le _) rises

end Run

theorem apart_by_second (list : List (Int × FilePath))
    (different : ∀ a ∈ list, ∀ b ∈ list, a.2.same b.2 = true → a.1 = b.1) :
    Apart (list.map (·.2)) ↔ ∀ second, Apart ((list.filter (·.1 = second)).map (·.2)) := by
  simp only [Apart, List.pairwise_map]
  constructor
  · exact fun apart second => apart.filter _
  · intro apart
    induction list with
    | nil => exact .nil
    | cons first rest ih =>
        refine List.pairwise_cons.mpr ⟨fun other member => ?_, ih ?_ fun second => ?_⟩
        · rw [← Bool.not_eq_true]
          intro same
          have seconds := different first List.mem_cons_self other (List.mem_cons_of_mem _ member) same
          have near := apart first.1
          rw [List.filter_cons_of_pos (by simp)] at near
          have here := (List.pairwise_cons.mp near).1 other (List.mem_filter.mpr ⟨member, by simp [seconds]⟩)
          cases here.symm.trans same
        · exact fun a first b second => different a (List.mem_cons_of_mem _ first) b (List.mem_cons_of_mem _ second)
        · exact (apart second).sublist ((List.sublist_cons_self first rest).filter _)

theorem fragments_apart_iff (config : PipelineConfig) (disk : Disk) (now : Instant) (steps : List Step)
    (onward : AllAllowed Onward steps (Engine.new config disk now)) :
    Apart (run steps (Engine.new config disk now)).graph.fragments ↔
      ∀ second, RestartsIn second steps (Engine.new config disk now) →
        Apart (openedIn second steps (Engine.new config disk now)) := by
  have reached : Reachable Onward (Engine.new config disk now) := .new config disk now
  have grown : (run steps (Engine.new config disk now)).graph.fragments =
      (openings steps (Engine.new config disk now)).map (·.2) :=
    run_fragments steps _ reached onward
  have named := openings_named steps _ reached onward
  rw [grown, apart_by_second]
  · constructor
    · exact fun apart second _ => apart second
    · intro restarted second
      by_cases restarts : RestartsIn second steps (Engine.new config disk now)
      · exact restarted second restarts
      · exact ascends_apart second _ _ (run_ascends steps _ reached onward second restarts)
  · intro a first b second same
    obtain ⟨_, time, index, here, placed⟩ := named a first
    obtain ⟨_, later, other, there, found⟩ := named b second
    rw [← here, ← there]
    exact (named_apart time later index other a.2 b.2 placed found same).1

-- A recording that is split, and split again after the graph has been rebuilt a second later.
def rebuiltLater : List Step :=
  [.construct, .start, .splitNow, .surroundings {} 1000, .setConfig { width := 1280 }, .splitNow]

theorem fragments_apart_iff_rebuilt :
    AllAllowed Onward rebuiltLater (Engine.new {} {} 0) ∧ RestartsIn 1 rebuiltLater (Engine.new {} {} 0) ∧
      Apart (run rebuiltLater (Engine.new {} {} 0)).graph.fragments := by
  have onward : AllAllowed Onward rebuiltLater (Engine.new {} {} 0) := by
    refine ⟨?_, ?_, ?_, ?_, ?_, ?_, trivial⟩
    all_goals
      rintro disk now same
      cases same
    decide +kernel
  have restarts : RestartsIn 1 rebuiltLater (Engine.new {} {} 0) :=
    .inr (.inr (.inr (.inr (.inl ⟨by decide +kernel, .inl ⟨_, rfl, by decide +kernel⟩⟩))))
  refine ⟨onward, restarts, (fragments_apart_iff {} {} 0 rebuiltLater onward).mpr ?_⟩
  have goes (s : Step) (e : Engine) (other : ∀ config, s ≠ .setConfig config) (early : e.nextIndex ≠ UInt32.size - 1) :
      ¬ Restarts s e := by
    rintro (⟨config, same, _⟩ | ⟨last, _⟩)
    · exact other config same
    · exact early last
  intro second begins
  have one : second = 1 := by
    rcases begins with ⟨_, begins⟩ | ⟨_, begins⟩ | ⟨_, begins⟩ | ⟨_, begins⟩ | ⟨here, _⟩ | ⟨here, _⟩ | never
    · exact absurd begins (goes _ _ (by simp) (by decide +kernel))
    · exact absurd begins (goes _ _ (by simp) (by decide +kernel))
    · exact absurd begins (goes _ _ (by simp) (by decide +kernel))
    · exact absurd begins (goes _ _ (by simp) (by decide +kernel))
    · rw [← here]
      decide +kernel
    · rw [← here]
      decide +kernel
    · exact never.elim
  rw [one]
  decide +kernel

-- The rebuilt recording begins with the index that the first one has begun with in the same second.
theorem rebuild_writes_over :
    AllAllowed Onward [.construct, .start, .setConfig { width := 1280 }] (Engine.new {} {} 0) ∧
      ¬ Apart (run [.construct, .start, .setConfig { width := 1280 }] (Engine.new {} {} 0)).graph.fragments := by
  refine ⟨⟨?_, ?_, ?_, trivial⟩, by decide +kernel⟩
  all_goals
    rintro disk now same
    cases same

end CameraServer.Engine
