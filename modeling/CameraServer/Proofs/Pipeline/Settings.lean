import CameraServer.Proofs.Pipeline.Frame

/-!
The settings of the recording store, and the clock. Main statements: what placing and opening fragments
keeps of the site, every call on the graph keeps; so the store keeps its path, quota and mkdir flag, they
are always those of the configuration in force, a change of the configuration that fails leaves them as
they were, and nothing but the surroundings sets the clock.
-/

set_option autoImplicit false

namespace CameraServer

open Media

structure RecordingSettings where
  path : FilePath
  maxSizeMb : Int
  forceMkdirs : Bool
deriving DecidableEq, Repr

def RecordingStore.settings (s : RecordingStore) : RecordingSettings := ⟨s.path, s.maxSizeMb, s.forceMkdirs⟩

def PipelineConfig.recordingSettings (c : PipelineConfig) : RecordingSettings :=
  ⟨c.recordingPath, c.maxSizeMb, c.forceMkdirs⟩

namespace RecordingStore

theorem resolve_dir_settings (s : RecordingStore) (d : Disk) :
    (s.resolveDir d).2.1.settings = s.settings := by
  rw [resolveDir]
  split <;> rfl

theorem next_fragment_settings (s : RecordingStore) (d : Disk) (now : Instant) (index : Nat) :
    (s.nextFragment d now index).2.1.settings = s.settings := by
  have resolved := resolve_dir_settings s d
  rw [nextFragment, nextFragmentAmid]
  rcases eq : s.resolveDir d with ⟨x | dir, t, disk⟩
  · rw [eq] at resolved
    exact resolved
  · rw [eq] at resolved
    exact resolved

end RecordingStore

/-! ### What the graph does with the recording -/

namespace Media.Graph

section Sink

variable {σ : Type} (sink : FragmentSink σ) (keep : σ → Prop)
variable (located : ∀ name index s, keep s → keep (sink.locate name index s).2)
variable (opened : ∀ path s, keep s → keep (sink.openFile path s))

include located opened

theorem open_fragment_keeps (name : String) (g : Graph) (s : σ) (before : keep s) :
    keep (openFragment sink name g s).2 := by
  rw [openFragment]
  split
  · exact before
  · split
    · rename_i stage _ _
      have placed := located name stage.nextFragment s before
      rcases eq : sink.locate name stage.nextFragment s with ⟨none | path, t⟩
      · rw [eq] at placed
        exact placed
      · rw [eq] at placed
        exact opened path t placed
    · exact before

theorem open_first_fragment_keeps (gs : Graph × σ) (name : String) (before : keep gs.2) :
    keep (openFirstFragment sink gs name).2 := by
  rw [openFirstFragment]
  split
  · split
    · exact open_fragment_keeps sink keep located opened name gs.1 gs.2 before
    · exact before
  · exact before

theorem open_each_keeps (names : List String) (gs : Graph × σ) (before : keep gs.2) :
    keep (names.foldl (openFirstFragment sink) gs).2 := by
  induction names generalizing gs with
  | nil => exact before
  | cons name rest ih => exact ih _ (open_first_fragment_keeps sink keep located opened gs name before)

theorem set_state_keeps (state : PlayState) (g : Graph) (s : σ) (before : keep s) :
    keep (setState sink state g s).2.2 := by
  rw [setState]
  split
  · exact before
  · dsimp only
    split
    · exact open_each_keeps sink keep located opened _ _ before
    · exact before

theorem sync_keeps (name : String) (g : Graph) (s : σ) (before : keep s) :
    keep (sync sink name g s).2.2 := by
  rw [sync]
  split
  · exact before
  · split
    · exact before
    · split
      · exact before
      · dsimp only
        split
        · exact open_first_fragment_keeps sink keep located opened _ name before
        · exact before

theorem emit_keeps (target : Target) (signal : Signal) (g : Graph) (s : σ) (before : keep s) :
    keep (emit sink target signal g s).2.2 := by
  unfold emit
  split
  · exact before
  · split
    · exact before
    · exact before
    · split <;> exact before
    · split <;> exact before
    · split
      · exact before
      · exact open_fragment_keeps sink keep located opened _ g s before

end Sink

end Media.Graph

/-! ### What the engine does with the recording -/

namespace Engine

section Site

variable {α : Type} (view : Site → α)
variable (located : ∀ name index s, view (Site.sink.locate name index s).2 = view s)
variable (opened : ∀ path s, view (Site.sink.openFile path s) = view s)

include located opened

theorem set_graph_state_site (state : PlayState) (e : Engine) :
    view (e.setGraphState state).2.site = view e.site := by
  rw [setGraphState]
  split
  · rfl
  · exact Graph.set_state_keeps Site.sink (fun s => view s = view e.site)
      (fun name index s before => (located name index s).trans before)
      (fun path s before => (opened path s).trans before) state e.graph e.site rfl

theorem site_calls (resolved : ∀ e : Engine, view e.resolveRecordings.2.site = view e.site) :
    Frame (fun _ => True) fun e next => view next.site = view e.site where
  refl := fun _ => rfl
  ledger := fun _ _ _ site => by rw [site]
  trans := fun _ _ _ first second => second.trans first
  build := fun _ _ => rfl
  add := fun _ _ _ => rfl
  remove := fun _ _ => rfl
  release := fun name e => by
    rw [releaseStage]
    split <;> rfl
  link := fun _ _ _ => rfl
  unlink := fun _ _ _ => rfl
  setStage := fun name state e _ => by
    rw [setStageState]
    split <;> rfl
  sync := fun name e _ =>
    Graph.sync_keeps Site.sink (fun s => view s = view e.site)
      (fun name index s before => (located name index s).trans before)
      (fun path s before => (opened path s).trans before) name e.graph e.site rfl
  query := fun _ => rfl
  emit := fun target signal e => by
    rw [emit]
    split
    · rfl
    · exact Graph.emit_keeps Site.sink (fun s => view s = view e.site)
        (fun name index s before => (located name index s).trans before)
        (fun path s before => (opened path s).trans before) target signal e.graph e.site rfl
  resolve := resolved
  dump := fun _ _ => rfl
  pop := fun _ => rfl

omit located opened

theorem reset_graph_site (e : Engine) : view e.resetGraph.site = view e.site := by
  rw [resetGraph]
  split <;> rfl

end Site

def recordingSettings (e : Engine) : RecordingSettings := e.site.store.settings

theorem locate_settings (name : String) (index : UInt32) (s : Site) :
    (Site.sink.locate name index s).2.store.settings = s.store.settings :=
  RecordingStore.next_fragment_settings s.store s.disk s.now index.toNat

theorem open_file_settings (path : FilePath) (s : Site) :
    (Site.sink.openFile path s).store.settings = s.store.settings := by
  simp only [Site.sink]
  split <;> rfl

theorem set_graph_state_settings (state : PlayState) (e : Engine) :
    (e.setGraphState state).2.recordingSettings = e.recordingSettings :=
  set_graph_state_site (·.store.settings) locate_settings open_file_settings state e

theorem resolve_recordings_settings (e : Engine) :
    e.resolveRecordings.2.recordingSettings = e.recordingSettings := by
  have resolved := RecordingStore.resolve_dir_settings e.site.store e.site.disk
  rw [resolveRecordings]
  dsimp only
  split
  · exact resolved
  · exact resolved

theorem settings_calls : Frame (fun _ => True) fun e next => next.recordingSettings = e.recordingSettings :=
  site_calls (·.store.settings) locate_settings open_file_settings resolve_recordings_settings

theorem settings_frame : BranchFrame fun e next => next.recordingSettings = e.recordingSettings :=
  settings_calls.branches trivial

theorem construct_settings (e : Engine) : e.construct.2.recordingSettings = e.recordingSettings :=
  settings_calls.construct (fun _ => trivial) (set_graph_state_settings .ready) (reset_graph_site (·.store.settings)) e

theorem teardown_settings (e : Engine) : e.teardown.recordingSettings = e.recordingSettings :=
  settings_calls.teardown (reset_graph_site (·.store.settings)) e

def Follows (e : Engine) : Prop := e.recordingSettings = e.config.recordingSettings

theorem set_config_settings (config : PipelineConfig) (e : Engine) (follows : e.Follows) :
    Ends (e.setConfig config) (fun next => next.recordingSettings = config.recordingSettings)
      (fun next => next.recordingSettings = e.recordingSettings) := by
  have asked := settings_frame.flag.resumes e
  have down := settings_frame.dismantle set_graph_state_settings teardown_settings e.resumes.2
  have same : e.resumes.2.roster = e.roster := congrArg (·.ledger.toRoster) (resumes_books e)
  rw [set_config_stages]
  split
  · rcases ends_cases _ _ _ (dismantle_roster e.resumes.2) with ⟨gone, eq, bare⟩ | ⟨x, next, eq, _⟩
    · rw [eq] at down ⊢
      have told : gone.config = e.config := (congrArg Roster.config bare).trans (congrArg Roster.config same)
      have rebuilt :
          (rebuild e.resumes.1 (adopt config { gone with pending := some e.resumes.1 })).2.recordingSettings =
            config.recordingSettings :=
        settings_frame.flag.rebuild set_graph_state_settings construct_settings teardown_settings _ _
      dsimp only [Outcome.next]
      rw [retryRebuild]
      rcases keeps_cases _ (fun next : Engine => next.recordingSettings = config.recordingSettings) rebuilt with
        ⟨u, next, eq, done⟩ | ⟨y, next, eq, _⟩
      · rw [eq]
        exact done
      · rw [eq]
        -- The store is told the previous configuration again, and that is what it went by.
        change gone.config.recordingSettings = _
        rw [told]
        exact follows.symm
    · rw [eq] at down ⊢
      exact down.trans asked
  · exact rfl

theorem set_config_follows (config : PipelineConfig) (e : Engine) (follows : e.Follows) :
    (e.setConfig config).2.Follows := by
  have settings := set_config_settings config e follows
  have roster := set_config_roster config e
  rcases eq : e.setConfig config with ⟨x | u, next⟩
  · rw [eq] at settings roster
    have told : next.config = e.config := by
      rcases roster with same | idle
      · exact congrArg Roster.config same
      · exact congrArg Roster.config idle
    exact settings.trans (follows.trans (congrArg _ told.symm))
  · rw [eq] at settings roster
    have told : next.config = config := by
      rcases roster with ⟨_, kept⟩ | ⟨start, _, rebuilt⟩
      · exact congrArg Roster.config kept
      · exact congrArg Roster.config rebuilt
    exact Eq.trans settings (congrArg _ told.symm)

theorem step_config (s : Step) (e : Engine) (changes : ∀ config, s ≠ .setConfig config) :
    (s.apply e).config = e.config := by
  by_cases builds : s = .construct
  · subst builds
    exact state_of_ends _ _ _ (·.config = e.config) (construct_ledger e)
      (fun _ built => congrArg (·.config) built) fun _ kept => congrArg (·.config) kept
  · obtain ⟨list, relisted⟩ := step_relists s e builds changes
    exact congrArg Roster.config relisted

theorem step_follows (s : Step) (e : Engine) (follows : e.Follows) : (s.apply e).Follows := by
  by_cases changes : ∃ config, s = .setConfig config
  · obtain ⟨config, rfl⟩ := changes
    exact set_config_follows config e follows
  have told := step_config s e fun config same => changes ⟨config, same⟩
  rcases settings_frame.step set_graph_state_settings construct_settings s e with
    changed | ⟨injection, rfl⟩ | ⟨disk, now, rfl⟩ | settings
  · exact absurd changed changes
  · exact follows
  · exact follows
  · exact settings.trans (follows.trans (congrArg _ told.symm))

theorem reachable_follows (allowed : Engine → Step → Prop) (e : Engine) (reached : Reachable allowed e) :
    e.Follows := by
  induction reached with
  | new config disk now => rfl
  | step e s _ _ ih => exact step_follows s e ih

/-! ### The clock -/

theorem locate_now (name : String) (index : UInt32) (s : Site) : (Site.sink.locate name index s).2.now = s.now := rfl

theorem open_file_now (path : FilePath) (s : Site) : (Site.sink.openFile path s).now = s.now := by
  simp only [Site.sink]
  split <;> rfl

theorem resolve_recordings_now (e : Engine) : e.resolveRecordings.2.site.now = e.site.now := by
  rw [resolveRecordings]
  dsimp only
  split <;> rfl

theorem clock_calls : Frame (fun _ => True) fun e next => next.site.now = e.site.now :=
  site_calls (·.now) locate_now open_file_now resolve_recordings_now

theorem clock_frame : BranchFrame fun e next => next.site.now = e.site.now := clock_calls.branches trivial

theorem step_clock (s : Step) (e : Engine) (inside : ∀ disk now, s ≠ .surroundings disk now) :
    (s.apply e).site.now = e.site.now := by
  have move := set_graph_state_site (·.now) locate_now open_file_now
  have reset := reset_graph_site (·.now)
  have construct := clock_calls.construct (fun _ => trivial) (move .ready) reset
  rcases clock_frame.step move construct s e with ⟨config, rfl⟩ | ⟨injection, rfl⟩ | ⟨disk, now, rfl⟩ | same
  · exact clock_frame.set_config move construct (clock_calls.teardown reset) (fun _ _ => rfl) config e
  · rfl
  · exact absurd rfl (inside disk now)
  · exact same

end Engine

end CameraServer
