import CameraServer.Proofs.Media.Reels
import CameraServer.Proofs.Pipeline.Topology
import CameraServer.Proofs.Pipeline.Settings
import CameraServer.Proofs.Recording.FragmentName

/-!
What the engine records. Main statements: whatever an operation opens is named after the second it is
made in; and one that does not rebuild the graph uses up one index of the recording at most, for the one
fragment that it opens.
-/

set_option autoImplicit false

namespace CameraServer.Engine

open Media Recording

def Idles (e next : Engine) : Prop :=
  e.graph.Loaded → next.site.now = e.site.now ∧ next.graph.footage = e.graph.footage

def Advances (e next : Engine) : Prop :=
  e.graph.Loaded → next.site.now = e.site.now ∧
    Graph.Rolls (fun index path => Named e.site.now index.toNat path) e.graph next.graph

def Films (e next : Engine) : Prop :=
  e.graph.Loaded → next.graph.Loaded ∧ next.site.now = e.site.now ∧
    ∃ paths, next.graph.fragments = e.graph.fragments ++ paths ∧
      ∀ path ∈ paths, ∃ index, Named e.site.now index path

theorem idles_advances (e next : Engine) (idles : Idles e next) : Advances e next := by
  intro loaded
  obtain ⟨now, still⟩ := idles loaded
  exact ⟨now, .inl still⟩

theorem advances_films (e next : Engine) (advances : Advances e next) : Films e next := by
  intro loaded
  obtain ⟨now, rolls⟩ := advances loaded
  refine ⟨Graph.rolls_loaded _ _ _ loaded rolls, now, ?_⟩
  have nothing (same : next.graph.fragments = e.graph.fragments) :
      ∃ paths, next.graph.fragments = e.graph.fragments ++ paths ∧
        ∀ path ∈ paths, ∃ index, Named e.site.now index path :=
    ⟨[], by simp [same], by simp⟩
  rcases rolls with still | ⟨index, turned⟩
  · exact nothing (congrArg Footage.fragments still)
  · rcases turned.fragments with same | ⟨path, named, one⟩
    · exact nothing same
    · exact ⟨[path], one, by simpa using ⟨_, named⟩⟩

theorem idles_course : Course Idles where
  refl := fun _ _ => ⟨rfl, rfl⟩
  trans := fun e middle next first second loaded => by
    obtain ⟨now, still⟩ := first loaded
    obtain ⟨later, kept⟩ := second (Graph.loaded_of_footage _ _ still loaded)
    exact ⟨later.trans now, kept.trans still⟩

theorem advances_wrap : Wraps Idles Advances where
  quiet := idles_advances
  before := fun e middle next first second loaded => by
    obtain ⟨now, still⟩ := first loaded
    obtain ⟨later, rolls⟩ := second (Graph.loaded_of_footage _ _ still loaded)
    rw [now] at rolls
    exact ⟨later.trans now, Graph.rolls_before _ _ _ _ still rolls⟩
  after := fun e middle next first second loaded => by
    obtain ⟨now, rolls⟩ := first loaded
    obtain ⟨later, still⟩ := second (Graph.rolls_loaded _ _ _ loaded rolls)
    exact ⟨later.trans now, Graph.rolls_after _ _ _ _ rolls still⟩

theorem films_course : Course Films where
  refl := fun _ loaded => ⟨loaded, rfl, [], by simp, by simp⟩
  trans := fun e middle next first second loaded => by
    obtain ⟨ready, now, paths, grown, named⟩ := first loaded
    obtain ⟨last, later, more, added, other⟩ := second ready
    rw [now] at other
    refine ⟨last, later.trans now, paths ++ more, by rw [added, grown, List.append_assoc], ?_⟩
    intro path member
    rcases List.mem_append.mp member with old | new
    · exact named path old
    · exact other path new

/-! ### Reachable engines -/

theorem shaped_loaded (g : Graph) (attached linked : Bool) (shaped : g.Shaped attached linked) : g.Loaded := by
  have names : g.reels.map (·.1) = [recordingName] := by
    have kinds : g.reels.map (·.1) = (g.stages.map fun entry => (entry.1, entry.2.kind)).filterMap fun entry =>
        if entry.2 = .recording then some entry.1 else none := by
      rw [Graph.reels, List.map_filterMap, List.filterMap_map]
      apply List.filterMap_congr
      intro entry _
      by_cases records : entry.2.kind = .recording <;> simp [reel?, records]
    rw [kinds, shaped.stages]
    cases attached <;> rfl
  obtain ⟨reel, single, name⟩ := List.map_eq_singleton_iff.mp names
  exact .inr ⟨reel.2, by rw [single, ← name]⟩

theorem reachable_loaded (allowed : Engine → Step → Prop) (e : Engine) (reached : Reachable allowed e) :
    e.graph.Loaded ∧ (e.constructed = false → e.graph.reels = []) := by
  cases reachable_sound allowed e reached with
  | down down _ =>
      have empty : e.graph.reels = [] := by rw [Graph.reels, e.graph.bare_stages down.bare, List.filterMap_nil]
      exact ⟨.inl empty, fun _ => empty⟩
  | up egress served _ =>
      refine ⟨shaped_loaded _ _ _ (served_shaped e egress served), fun idle => ?_⟩
      cases served.built.symm.trans idle

/-! ### Calls -/

theorem locate_named (name : String) (index : UInt32) (s : Site) (path : FilePath)
    (found : (Site.sink.locate name index s).1 = some path) : Named s.now index.toNat path := by
  have placed : (s.store.nextFragment s.disk s.now index.toNat).1 = some path := found
  rw [RecordingStore.nextFragment, RecordingStore.nextFragmentAmid] at placed
  split at placed
  · cases placed
  · next dir _ _ _ =>
    cases placed
    exact ⟨dir, rfl⟩

theorem idles_egress : StageFrame .egress Idles where
  toCourse := idles_course
  build := fun e _ => ⟨clock_calls.build .egress e, e.graph.build_footage .egress (by decide)⟩
  add := fun e _ => ⟨rfl, e.graph.add_footage egressName⟩
  remove := fun e _ => ⟨rfl, e.graph.remove_footage egressName⟩
  release := fun e loaded => by
    refine ⟨clock_calls.release egressName e, ?_⟩
    rw [releaseStage]
    split
    · rfl
    · exact e.graph.release_footage egressName loaded (by decide)
  link := fun e _ => ⟨rfl, e.graph.link_footage fanOutName egressName⟩
  unlink := fun e _ => ⟨rfl, e.graph.unlink_footage fanOutName egressName⟩
  setStage := fun state e _ => by
    refine ⟨clock_calls.setStage egressName state e trivial, ?_⟩
    rw [setStageState]
    split
    · rfl
    · exact e.graph.set_stage_state_footage egressName state
  sync := fun e loaded =>
    ⟨clock_calls.sync egressName e trivial, e.graph.sync_footage egressName Site.sink e.site loaded (by decide)⟩
  dump := fun _ _ _ => ⟨rfl, rfl⟩

theorem emit_idles (target : Target) (signal : Signal) (quiet : signal ≠ .splitAfter)
    (other : target ≠ .stage recordingName) (e : Engine) : Idles e (e.emit target signal).2 := by
  intro loaded
  refine ⟨clock_calls.emit target signal e, ?_⟩
  rw [emit]
  split
  · rfl
  · exact e.graph.emit_footage Site.sink e.site target signal loaded quiet other

theorem idles_frame : QuietFrame Idles where
  toCourse := idles_course
  ledger := fun e next graph site _ _ _ => ⟨by rw [site], by rw [graph]⟩
  attach := idles_egress.attach_branch
  detach := idles_egress.detach_branch
  emitAdd := fun endpoint => emit_idles _ (.addDestination endpoint) (by simp) (by decide)
  emitRemove := fun endpoint => emit_idles _ (.removeDestination endpoint) (by simp) (by decide)
  emitEnd := emit_idles _ .endOfStream (by simp) (by simp)
  query := fun e _ => ⟨rfl, e.graph.query_footage⟩
  resolve := fun e _ => ⟨resolve_recordings_now e, by rw [resolve_recordings_graph]⟩
  dump := idles_egress.dump
  pop := fun e _ => ⟨rfl, e.graph.pop_event_footage⟩

theorem split_advances (e : Engine) : Advances e (e.emit (.stage recordingName) .splitAfter).2 := by
  intro loaded
  refine ⟨clock_calls.emit _ _ e, ?_⟩
  rw [emit]
  split
  · exact .inl rfl
  · exact e.graph.emit_split_rolls _ Site.sink e.site (fun index path => locate_named _ index e.site path) loaded

theorem set_graph_state_advances (state : PlayState) (e : Engine) : Advances e (e.setGraphState state).2 := by
  intro loaded
  refine ⟨set_graph_state_site (·.now) locate_now open_file_now state e, ?_⟩
  rw [setGraphState]
  split
  · exact .inl rfl
  · rcases e.graph.set_state_rolls _ Site.sink e.site (fun index path => locate_named _ index e.site path) state loaded
      with still | ⟨_, rolls⟩
    · exact .inl still
    · exact rolls

theorem set_graph_state_idles (state : PlayState) (rests : state ≠ .playing) (e : Engine) :
    Idles e (e.setGraphState state).2 := by
  intro loaded
  refine ⟨set_graph_state_site (·.now) locate_now open_file_now state e, ?_⟩
  rw [setGraphState]
  split
  · rfl
  · rcases e.graph.set_state_rolls _ Site.sink e.site (fun _ _ _ => trivial) state loaded with still | ⟨plays, _⟩
    · exact still
    · exact absurd plays rests

/-! ### Rebuilding -/

theorem reset_loaded (e : Engine) (loaded : e.graph.Loaded) : e.resetGraph.graph.Loaded := by
  rw [resetGraph]
  split
  · exact loaded
  · exact .inl rfl

theorem reset_fragments (e : Engine) : e.resetGraph.graph.fragments = e.graph.fragments := by
  rw [resetGraph]
  split <;> rfl

theorem films_frame : BranchFrame Films where
  toQuietFrame := quiet_frame_mono Idles Films idles_frame films_course fun e next idles =>
    advances_films e next (idles_advances e next idles)
  emitSplit := fun e => advances_films e _ (split_advances e)

theorem construct_films_nothing (e : Engine) (loaded : e.graph.Loaded) :
    e.construct.2.graph.Loaded ∧ e.construct.2.graph.fragments = e.graph.fragments := by
  have still (middle next : Engine) (same : next.graph.footage = middle.graph.footage)
      (kept : middle.graph.Loaded ∧ middle.graph.fragments = e.graph.fragments) :
      next.graph.Loaded ∧ next.graph.fragments = e.graph.fragments :=
    ⟨Graph.loaded_of_footage _ _ same kept.1, (congrArg Footage.fragments same).trans kept.2⟩
  have built : (runSteps fixedStages e).2.graph.Loaded ∧
      (runSteps fixedStages e).2.graph.fragments = e.graph.fragments := by
    apply run_steps_keeps (fun next => next.graph.Loaded ∧ next.graph.fragments = e.graph.fragments) fixedStages _ e
      ⟨loaded, rfl⟩
    intro step member next kept
    simp only [fixedStages, List.mem_cons, List.not_mem_nil, or_false] at member
    rcases member with rfl | rfl | rfl | rfl | rfl | rfl | rfl | rfl | rfl
    · exact still next _ (next.graph.build_footage _ (by decide)) kept
    · exact still next _ (next.graph.add_footage _) kept
    · exact still next _ (next.graph.build_footage _ (by decide)) kept
    · exact still next _ (next.graph.add_footage _) kept
    · exact ⟨next.graph.build_recording_loaded kept.1, (next.graph.build_fragments _).trans kept.2⟩
    · exact still next _ (next.graph.add_footage _) kept
    · exact still next _ (next.graph.link_footage _ _) kept
    · exact still next _ (next.graph.link_footage _ _) kept
    · exact still next _ (set_graph_state_idles .ready (by decide) next kept.1).2 kept
  rw [construct]
  split
  · exact ⟨loaded, rfl⟩
  · rcases keeps_cases _ (fun next : Engine => next.graph.Loaded ∧ next.graph.fragments = e.graph.fragments) built with
      ⟨u, next, eq, kept⟩ | ⟨x, next, eq, kept⟩
    · rw [eq]
      exact kept
    · rw [eq]
      exact ⟨reset_loaded next kept.1, (reset_fragments next).trans kept.2⟩

theorem construct_films (e : Engine) : Films e e.construct.2 := by
  intro loaded
  obtain ⟨ready, same⟩ := construct_films_nothing e loaded
  exact ⟨ready, step_clock .construct e (by simp), [], by simp [same], by simp⟩

theorem teardown_films (e : Engine) : Films e e.teardown := fun loaded =>
  ⟨reset_loaded e loaded, reset_graph_site (·.now) e, [], by simp [teardown, reset_fragments], by simp⟩

/-! ### Steps -/

theorem step_films (s : Step) (e : Engine) (inside : ∀ disk now, s ≠ .surroundings disk now) :
    Films e (s.apply e) := by
  have move : ∀ state e, Films e (e.setGraphState state).2 := fun state e =>
    advances_films e _ (set_graph_state_advances state e)
  rcases films_frame.step move construct_films s e with ⟨config, rfl⟩ | ⟨injection, rfl⟩ | ⟨disk, now, rfl⟩ | films
  · exact films_frame.set_config move construct_films teardown_films
      (fun _ _ loaded => ⟨loaded, rfl, [], by simp [adopt], by simp⟩) config e
  · obtain ⟨lasting, once, same⟩ := injection.apply_points e.graph
    intro loaded
    rw [Step.apply, same]
    exact ⟨loaded, rfl, [], by simp, by simp⟩
  · exact absurd rfl (inside disk now)
  · exact films

theorem step_advances (s : Step) (e : Engine) (builds : s ≠ .construct)
    (kept : ∀ config, s = .setConfig config → e.needsRebuild config = false)
    (inside : ∀ disk now, s ≠ .surroundings disk now) : Advances e (s.apply e) := by
  have quiet (next : Engine) : Idles e next → Advances e next := idles_advances e next
  have halt := idles_frame.halt (set_graph_state_idles .null (by decide))
  cases s with
  | construct => exact absurd rfl builds
  | start => exact idles_frame.flag.start advances_wrap (set_graph_state_advances .playing) e
  | pause => exact quiet _ (idles_frame.flag.pause (set_graph_state_idles .paused (by decide)) e)
  | stop => exact quiet _ (idles_frame.flag.stop halt e)
  | splitNow => exact idles_frame.flag.split_now advances_wrap split_advances e
  | shutdown patient => exact idles_frame.flag.shutdown halt advances_wrap split_advances patient e
  | isRunning => exact quiet _ (idles_frame.flag.is_running e)
  | state => exact quiet _ (idles_frame.flag.state e)
  | poll => exact quiet _ (idles_frame.poll e)
  | setConfig config =>
      rw [Step.apply, set_config_stages, kept config rfl]
      exact quiet _ fun _ => ⟨rfl, rfl⟩
  | addEndpoint endpoint => exact quiet _ (idles_frame.flag.add_endpoint endpoint e)
  | removeEndpoint endpoint => exact quiet _ (idles_frame.flag.remove_endpoint endpoint e)
  | changeEndpoint old new => exact quiet _ (idles_frame.flag.change_endpoint old new e)
  | reapOrphans => exact quiet _ (idles_frame.flag.reap_orphans e)
  | inject injection =>
      obtain ⟨lasting, once, same⟩ := injection.apply_points e.graph
      rw [Step.apply, same]
      exact quiet _ fun _ => ⟨rfl, rfl⟩
  | surroundings disk now => exact absurd rfl (inside disk now)

end CameraServer.Engine
