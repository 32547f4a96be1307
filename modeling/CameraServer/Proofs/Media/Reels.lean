import CameraServer.Proofs.Media.InStep
import Mathlib.Data.List.Basic

/-!
What the graph records. Main statements: as long as the only recording stage is the one of the pipeline,
no call on another stage opens a fragment or moves the index of the recording; and splitting it, or moving
the graph to play, uses up one index at most, for the one fragment that is opened.
-/

set_option autoImplicit false

namespace CameraServer.Media

def reel? (entry : String × Stage) : Option (String × UInt32) :=
  if entry.2.kind = .recording then some (entry.1, entry.2.nextFragment) else none

structure Footage where
  reels : List (String × UInt32)
  fragments : List FilePath

namespace Graph

def reels (g : Graph) : List (String × UInt32) := g.stages.filterMap reel?

def footage (g : Graph) : Footage := ⟨g.reels, g.fragments⟩

def Loaded (g : Graph) : Prop := g.reels = [] ∨ ∃ index, g.reels = [(recordingName, index)]

section Footage

variable (g next : Graph) (name : String)

theorem footage_ext (reels : next.reels = g.reels) (fragments : next.fragments = g.fragments) :
    next.footage = g.footage := by
  rw [footage, reels, fragments, footage]

theorem loaded_of_footage (same : next.footage = g.footage) (loaded : g.Loaded) : next.Loaded := by
  rw [Loaded, show next.reels = g.reels from congrArg Footage.reels same]
  exact loaded

theorem mem_reels (stage : Stage) (member : (name, stage) ∈ g.stages) (records : stage.kind = .recording) :
    (name, stage.nextFragment) ∈ g.reels :=
  List.mem_filterMap.mpr ⟨(name, stage), member, by simp [reel?, records]⟩

theorem loaded_other (loaded : g.Loaded) (other : name ≠ recordingName) (stage : Stage)
    (member : (name, stage) ∈ g.stages) : stage.kind ≠ .recording := by
  intro records
  have here := mem_reels g name stage member records
  rcases loaded with empty | ⟨index, single⟩
  · rw [empty] at here
    cases here
  · rw [single, List.mem_singleton, Prod.mk.injEq] at here
    exact other here.1

theorem loaded_reels (loaded : g.Loaded) (stage : Stage) (read : g.stage? recordingName = some stage)
    (records : stage.kind = .recording) : g.reels = [(recordingName, stage.nextFragment)] := by
  have here := mem_reels g recordingName stage (stage_member recordingName g stage read) records
  rcases loaded with empty | ⟨index, single⟩
  · rw [empty] at here
    cases here
  · rw [single, List.mem_singleton, Prod.mk.injEq] at here
    rw [single, here.2]

theorem map_reels (f : String × Stage → String × Stage) (same : ∀ entry ∈ g.stages, reel? (f entry) = reel? entry) :
    (g.stages.map f).filterMap reel? = g.reels := by
  rw [List.filterMap_map, reels]
  exact List.filterMap_congr same

theorem modify_footage (f : Stage → Stage)
    (same : ∀ stage, (name, stage) ∈ g.stages → reel? (name, f stage) = reel? (name, stage)) :
    (g.modifyStage name f).footage = g.footage := by
  refine footage_ext g _ (map_reels g _ ?_) rfl
  intro entry member
  by_cases named : entry.1 = name
  · subst named
    rw [if_pos rfl]
    exact same entry.2 member
  · rw [if_neg named]

theorem spend_footage (p : FailPoint) : (g.spend p).footage = g.footage := by
  rw [spend]
  split <;> rfl

theorem refused_footage (p : FailPoint) (refused : g.Refused p next) : next.footage = g.footage := by
  rcases refused with rfl | rfl
  · rfl
  · exact spend_footage g p

/-! ### Calls on stages and links -/

theorem build_footage (spec : StageSpec) (plain : spec.kind ≠ .recording) :
    (g.build spec).2.footage = g.footage := by
  apply state_of_ends _ _ _ (·.footage = g.footage) (g.build_changes spec)
  · rintro _ ⟨_, rfl⟩
    refine footage_ext g _ ?_ rfl
    simp [reels, reel?, plain]
  · exact fun next refused => refused_footage g next _ refused

theorem build_fragments (spec : StageSpec) : (g.build spec).2.fragments = g.fragments := by
  apply state_of_ends _ _ _ (·.fragments = g.fragments) (g.build_changes spec)
  · rintro _ ⟨_, rfl⟩
    rfl
  · exact fun next refused => congrArg Footage.fragments (refused_footage g next _ refused)

theorem loaded_vacant (loaded : g.Loaded) (vacant : g.hasStage recordingName = false) : g.reels = [] := by
  rcases loaded with empty | ⟨index, single⟩
  · exact empty
  · have here : (recordingName, index) ∈ g.reels := by simp [single]
    obtain ⟨⟨name, stage⟩, member, reel⟩ := List.mem_filterMap.mp here
    simp only [reel?, Option.ite_none_right_eq_some, Option.some.injEq, Prod.mk.injEq] at reel
    have found : g.hasStage recordingName = true := by
      rw [hasStage, stage?, Option.isSome_map]
      exact List.find?_isSome.mpr ⟨(name, stage), member, by simpa using reel.2.1⟩
    cases found.symm.trans vacant

theorem build_recording_loaded (loaded : g.Loaded) : (g.build ⟨recordingName, .recording⟩).2.Loaded := by
  apply state_of_ends _ _ _ Loaded (g.build_changes ⟨recordingName, .recording⟩)
  · rintro _ ⟨vacant, rfl⟩
    have empty := loaded_vacant g loaded vacant
    refine .inr ⟨0, ?_⟩
    rw [reels] at empty ⊢
    simp [empty, reel?]
  · exact fun next refused => loaded_of_footage g next (refused_footage g next _ refused) loaded

theorem add_footage : (g.add name).2.footage = g.footage := by
  apply state_of_ends _ _ _ (·.footage = g.footage) (g.add_changes name)
  · rintro _ rfl
    exact modify_footage g name _ fun _ _ => rfl
  · exact fun next refused => refused_footage g next _ refused

theorem remove_footage : (g.remove name).2.footage = g.footage := by
  apply state_of_ends _ _ _ (·.footage = g.footage) (g.remove_changes name)
  · rintro _ rfl
    have floats := modify_footage g name (fun s => { s with parented := false }) fun _ _ => rfl
    exact floats
  · exact fun next refused => refused_footage g next _ refused

theorem release_footage (loaded : g.Loaded) (other : name ≠ recordingName) :
    (g.release name).2.footage = g.footage := by
  apply state_of_ends _ _ _ (·.footage = g.footage) (g.release_changes name)
  · rintro _ ⟨_, rfl⟩
    refine footage_ext g _ ?_ rfl
    rw [reels, List.filterMap_filter, reels]
    apply List.filterMap_congr
    intro entry member
    by_cases named : entry.1 = name
    · have plain := loaded_other g name loaded other entry.2 (named ▸ member)
      simp [named, reel?, plain]
    · simp [named]
  · rintro _ rfl
    rfl

theorem link_footage (up down : String) : (g.link up down).2.footage = g.footage := by
  apply state_of_ends _ _ _ (·.footage = g.footage) (g.link_changes up down)
  · rintro _ ⟨_, rfl⟩
    rfl
  · exact fun next refused => refused_footage g next _ refused

theorem unlink_footage (up down : String) : (g.unlink up down).2.footage = g.footage := by
  apply state_of_ends _ _ _ (·.footage = g.footage) (g.unlink_changes up down)
  · rintro _ rfl
    rfl
  · exact fun next refused => refused_footage g next _ refused

theorem query_footage : g.query.2.footage = g.footage := by
  apply state_of_ends _ _ _ (·.footage = g.footage) g.query_changes
  · rintro _ rfl
    rfl
  · exact fun next refused => refused_footage g next _ refused

theorem pop_event_footage : g.popEvent.2.footage = g.footage := by
  obtain ⟨events, popped⟩ := g.pop_event_changes
  rw [popped]
  rfl

theorem set_stage_state_footage (state : PlayState) : (g.setStageState name state).2.footage = g.footage := by
  apply state_of_ends _ _ _ (·.footage = g.footage) (g.set_stage_state_changes name state)
  · rintro _ rfl
    exact modify_footage g name _ fun _ _ => rfl
  · rintro _ rfl
    rfl

theorem moved_footage (state : PlayState) : (g.moved state).footage = g.footage := by
  refine footage_ext g _ (map_reels g _ ?_) rfl
  intro entry _
  split <;> rfl

/-! ### Other stages -/

section Other

variable {σ : Type} (sink : FragmentSink σ) (s : σ)

theorem open_first_fragment_other (loaded : g.Loaded) (other : name ≠ recordingName) :
    (openFirstFragment sink (g, s) name).1 = g := by
  rcases open_first_fragment_changes name sink (g, s) with same | opened
  · rw [same]
  · rw [opened]
    rcases g.open_fragment_changes name sink s with same | ⟨stage, read, records, _⟩
    · exact same
    · exact absurd records (loaded_other g name loaded other stage (stage_member name g stage read))

theorem sync_footage (loaded : g.Loaded) (other : name ≠ recordingName) :
    (sync sink name g s).2.1.footage = g.footage := by
  have synced := modify_footage g name (fun st => { st with state := g.state }) fun _ _ => rfl
  apply state_of_ends _ _ _ (·.1.footage = g.footage) (g.sync_changes name sink s)
  · rintro _ (rfl | rfl)
    · exact synced
    · rw [open_first_fragment_other _ name sink s (loaded_of_footage g _ synced loaded) other]
      exact synced
  · exact fun next refused => refused_footage g next.1 _ refused.1

theorem change_destinations_footage (stage : Stage) (list : List Endpoint) (loaded : g.Loaded)
    (other : name ≠ recordingName) (read : g.stage? name = some stage) :
    (g.changeDestinations name stage list).footage = g.footage := by
  have plain := loaded_other g name loaded other
  have changed := modify_footage g name (fun _ => { stage with destinations := list }) fun old member => by
    simp [reel?, plain old member, plain stage (stage_member name g stage read)]
  exact changed

theorem emit_footage (target : Target) (signal : Signal) (loaded : g.Loaded) (quiet : signal ≠ .splitAfter)
    (other : target ≠ .stage recordingName) : (emit sink target signal g s).2.1.footage = g.footage := by
  apply state_of_ends _ _ _ (·.1.footage = g.footage) (g.emit_changes sink s target signal)
  · rintro next (⟨_, changed⟩ | ⟨name, stage, list, rfl, _, read, changed⟩ | ⟨_, _, split, _⟩)
    · rw [changed]
      rfl
    · rw [changed]
      exact change_destinations_footage g name stage list loaded (fun same => other (same ▸ rfl)) read
    · exact absurd split quiet
  · exact fun next refused => refused_footage g next.1 _ refused.1

end Other

/-! ### The recording stage -/

theorem advance_reels :
    (g.advance name).reels =
      g.reels.map fun reel => if reel.1 = name then (reel.1, reel.2 + 1) else reel := by
  rw [reels, advance, modifyStage, List.filterMap_map, reels, List.map_filterMap]
  apply List.filterMap_congr
  intro entry _
  by_cases named : entry.1 = name
  · by_cases records : entry.2.kind = .recording <;> simp [reel?, named, records]
  · by_cases records : entry.2.kind = .recording <;> simp [reel?, named, records]

theorem insert_by_name_perm (entry : String × Stage) (list : List (String × Stage)) :
    (insertByName entry list).Perm (entry :: list) := by
  induction list with
  | nil => exact .refl _
  | cons other rest ih =>
      rw [insertByName]
      split
      · exact .refl _
      · exact (ih.cons other).trans (.swap entry other rest)

theorem parented_stages_perm : g.parentedStages.Perm (g.stages.filter (·.2.parented)) := by
  rw [parentedStages]
  generalize g.stages.filter (·.2.parented) = list
  induction list with
  | nil => exact .refl _
  | cons entry rest ih => exact (insert_by_name_perm entry _).trans (ih.cons entry)

theorem recording_stages_loaded (loaded : g.Loaded) :
    g.recordingStages = [] ∨ g.recordingStages = [recordingName] := by
  have names (list : List (String × Stage)) :
      (list.filter (·.2.kind = .recording)).map (·.1) = (list.filterMap reel?).map (·.1) := by
    induction list with
    | nil => rfl
    | cons entry rest ih =>
        by_cases records : entry.2.kind = .recording <;> simp [reel?, records, ih]
  have sorted := (g.parented_stages_perm.filter (·.2.kind = .recording)).map (·.1)
  have placed : (((g.stages.filter (·.2.parented)).filter (·.2.kind = .recording)).map (·.1)).Sublist
      (g.reels.map (·.1)) := by
    rw [reels, ← names]
    exact (List.filter_sublist.filter _).map _
  rcases loaded with empty | ⟨index, single⟩
  · rw [empty, List.map_nil, List.sublist_nil] at placed
    rw [placed] at sorted
    exact .inl sorted.eq_nil
  · rw [single, List.map_singleton, List.sublist_singleton] at placed
    rcases placed with none | one
    · rw [none] at sorted
      exact .inl sorted.eq_nil
    · rw [one] at sorted
      exact .inr (List.perm_singleton.mp sorted)

structure Turns (named : UInt32 → FilePath → Prop) (g next : Graph) (index : UInt32) : Prop where
  before : g.reels = [(recordingName, index)]
  after : next.reels = [(recordingName, index + 1)]
  fragments : next.fragments = g.fragments ∨
    ∃ path, named index path ∧ next.fragments = g.fragments ++ [path]

def Rolls (named : UInt32 → FilePath → Prop) (g next : Graph) : Prop :=
  next.footage = g.footage ∨ ∃ index, Turns named g next index

section Rolls

variable (named : UInt32 → FilePath → Prop)

theorem rolls_before (start : Graph) (same : start.footage = g.footage) (rolls : Rolls named start next) :
    Rolls named g next := by
  have reels : start.reels = g.reels := congrArg Footage.reels same
  have fragments : start.fragments = g.fragments := congrArg Footage.fragments same
  rcases rolls with still | ⟨index, turned⟩
  · exact .inl (still.trans same)
  · exact .inr ⟨index, reels ▸ turned.before, turned.after, fragments ▸ turned.fragments⟩

theorem rolls_after (last : Graph) (rolls : Rolls named g next) (same : last.footage = next.footage) :
    Rolls named g last := by
  have reels : last.reels = next.reels := congrArg Footage.reels same
  have fragments : last.fragments = next.fragments := congrArg Footage.fragments same
  rcases rolls with still | ⟨index, turned⟩
  · exact .inl (same.trans still)
  · exact .inr ⟨index, turned.before, reels.trans turned.after, fragments ▸ turned.fragments⟩

theorem rolls_loaded (loaded : g.Loaded) (rolls : Rolls named g next) : next.Loaded := by
  rcases rolls with still | ⟨index, turned⟩
  · exact loaded_of_footage g next still loaded
  · exact .inr ⟨index + 1, turned.after⟩

section Sink

variable {σ : Type} (sink : FragmentSink σ) (s : σ)
variable (placed : ∀ index path, (sink.locate recordingName index s).1 = some path → named index path)

include placed

theorem open_fragment_turns (stage : Stage) (read : g.stage? recordingName = some stage)
    (records : stage.kind = .recording) (single : g.reels = [(recordingName, stage.nextFragment)]) :
    Turns named g (openFragment sink recordingName g s).1 stage.nextFragment := by
  have numbered := advance_reels g recordingName
  rw [single, List.map_singleton, if_pos rfl] at numbered
  rw [openFragment, read]
  dsimp only
  rw [if_pos records]
  split
  · exact ⟨single, numbered, .inl rfl⟩
  · next path site found => exact ⟨single, numbered, .inr ⟨path, placed _ path (by rw [found]), rfl⟩⟩

theorem open_fragment_rolls (loaded : g.Loaded) : Rolls named g (openFragment sink recordingName g s).1 := by
  rcases g.open_fragment_changes recordingName sink s with same | ⟨stage, read, records, _⟩
  · rw [same]
    exact .inl rfl
  · have single := loaded_reels g loaded stage read records
    exact .inr ⟨stage.nextFragment, open_fragment_turns g named sink s placed stage read records single⟩

theorem open_first_fragment_rolls (loaded : g.Loaded) :
    Rolls named g (openFirstFragment sink (g, s) recordingName).1 := by
  rcases open_first_fragment_changes recordingName sink (g, s) with same | opened
  · rw [same]
    exact .inl rfl
  · rw [opened]
    exact open_fragment_rolls g named sink s placed loaded

theorem open_recordings_rolls (same : next.footage = g.footage) (loaded : g.Loaded) :
    Rolls named g (next.recordingStages.foldl (openFirstFragment sink) (next, s)).1 := by
  have ready := loaded_of_footage g next same loaded
  apply rolls_before g _ named next same
  rcases recording_stages_loaded next ready with none | one
  · rw [none]
    exact .inl rfl
  · rw [one]
    exact open_first_fragment_rolls next named sink s placed ready

theorem set_state_rolls (state : PlayState) (loaded : g.Loaded) :
    (setState sink state g s).2.1.footage = g.footage ∨
      state = .playing ∧ Rolls named g (setState sink state g s).2.1 := by
  have moved := moved_footage g state
  apply state_of_ends _ _ _ (fun next => next.1.footage = g.footage ∨ state = .playing ∧ Rolls named g next.1)
    (g.set_state_changes sink s state)
  · rintro _ (rfl | ⟨plays, rfl⟩)
    · exact .inl moved
    · exact .inr ⟨plays, open_recordings_rolls g _ named sink s placed moved loaded⟩
  · exact fun next refused => .inl (refused_footage g next.1 _ refused.1)

theorem emit_split_rolls (loaded : g.Loaded) :
    Rolls named g (emit sink (.stage recordingName) .splitAfter g s).2.1 := by
  apply state_of_ends _ _ _ (Rolls named g ·.1) (g.emit_changes sink s (.stage recordingName) .splitAfter)
  · rintro next (⟨ends, _⟩ | ⟨_, _, _, _, others, _⟩ | ⟨name, here, _, changed⟩)
    · cases ends
    · cases others
    · cases here
      rw [changed]
      exact rolls_after g _ named _ (open_fragment_rolls g named sink s placed loaded) rfl
  · exact fun next refused => .inl (refused_footage g next.1 _ refused.1)

end Sink

end Rolls

end Footage

end Graph

end CameraServer.Media
