import CameraServer.Proofs.Text.Split
import CameraServer.Service.Process

/-!
Mount points and routes. Main statement: a path that the settings accept can be registered beside the routes
that every server has just when no segment of it begins with a colon; a server whose settings have such a path
breaks off where it would open its listeners, at the start as well as at a reload.
-/

set_option autoImplicit false

namespace CameraServer

open Text

/-! ### What the settings accept -/

namespace Settings

structure Mountable (path : String) : Prop where
  root : path.toList.head? = some '/'
  below : path ≠ "/"
  free : path ≠ "/status" ∧ path ≠ "/index.html"
  plain : ∀ c ∈ path.toList, c ≠ '\x7b' ∧ c ≠ '\x7d' ∧ c ≠ '*'

def AcceptsMount (path : String) : Prop :=
  ∃ line file base settings, resolve line file base = .ok settings ∧ settings.server.mountPoint = path

theorem check_mount_point_iff (path : String) : checkMountPoint path = .ok () ↔ Mountable path := by
  have plain : path.toList.any isCaptureChar = false ↔ ∀ c ∈ path.toList, c ≠ '\x7b' ∧ c ≠ '\x7d' ∧ c ≠ '*' := by
    simp [isCaptureChar, and_assoc]
  have free : path ∉ reservedPaths ↔ path ≠ "/status" ∧ path ≠ "/index.html" := by simp [reservedPaths]
  constructor
  · intro accepted
    rw [checkMountPoint] at accepted
    split at accepted
    · cases accepted
    · next rooted =>
        rw [not_or, Decidable.not_not] at rooted
        split at accepted
        · cases accepted
        · next other =>
            split at accepted
            · cases accepted
            · next letters => exact ⟨rooted.1, rooted.2, free.mp other, plain.mp (by simpa using letters)⟩
  · intro mountable
    rw [checkMountPoint, if_neg (by simp [mountable.root, mountable.below]), if_neg (free.mpr mountable.free),
      if_neg (by simp [plain.mpr mountable.plain])]

theorem resolve_checks (line : CommandLine) (file : Choices) (base : Option FilePath) (settings : Settings)
    (accepted : resolve line file base = .ok settings) : checkMountPoint settings.server.mountPoint = .ok () := by
  simp only [resolve, bind, Except.bind] at accepted
  split at accepted
  · cases accepted
  · split at accepted
    · cases accepted
    · cases mounted : mountPointOf line.choices file with
      | error fault =>
          rw [mounted] at accepted
          cases accepted
      | ok path =>
          rw [mounted] at accepted
          cases accepted
          rw [mountPointOf] at mounted
          cases checked : checkMountPoint ((line.choices.mountPoint.or file.mountPoint).getD defaultMountPoint) with
          | error fault =>
              rw [checked] at mounted
              cases mounted
          | ok u =>
              rw [checked] at mounted
              cases mounted
              exact checked

theorem accepts_mount_iff (path : String) : AcceptsMount path ↔ Mountable path := by
  constructor
  · rintro ⟨line, file, base, settings, accepted, rfl⟩
    exact (check_mount_point_iff _).mp (resolve_checks line file base settings accepted)
  · intro mountable
    have checked := (check_mount_point_iff path).mpr mountable
    have mounted : mountPointOf { mountPoint := some path } {} = .ok path :=
      congrArg (Except.map fun _ => path) checked
    -- Nothing but the mount point is chosen, and what is built in passes.
    have listening : listenersOf { mountPoint := some path } {} = listenersOf {} {} := rfl
    rcases built : listenersOf {} {} with fault | listeners
    · cases built
    · refine ⟨{ choices := { mountPoint := some path } }, {}, none, ?_⟩
      simp only [resolve, bind, Except.bind, listening, built, mounted]
      exact ⟨_, rfl, rfl⟩

end Settings

/-! ### What can be registered -/

namespace Http

def ColonSegment (path : String) : Prop := ∃ segment ∈ splitAt '/' path.toList, segment.head? = some ':'

theorem braces_close_plain (cs : List Char) (plain : ∀ c ∈ cs, c ≠ '\x7b' ∧ c ≠ '\x7d') : bracesClose 0 cs = true := by
  induction cs with
  | nil => rfl
  | cons c rest ih =>
      have own := plain c List.mem_cons_self
      rw [bracesClose, if_neg own.1, if_neg own.2]
      exact ih fun d inside => plain d (List.mem_cons_of_mem c inside)

section Mountable

variable (path : String) (mountable : Settings.Mountable path)

include mountable

theorem starts_capture_iff : (splitAt '/' path.toList).any startsCapture = true ↔ ColonSegment path := by
  rw [List.any_eq_true]
  constructor
  · rintro ⟨segment, member, starts⟩
    refine ⟨segment, member, ?_⟩
    simp only [startsCapture, Bool.or_eq_true, beq_iff_eq] at starts
    rcases starts with colon | star
    · exact colon
    · have inside := mem_of_split_at '/' _ segment member '*' (List.mem_of_head? star)
      exact absurd rfl (mountable.plain '*' inside).2.2
  · rintro ⟨segment, member, colon⟩
    exact ⟨segment, member, by simp [startsCapture, colon]⟩

theorem build_routes_cases :
    (¬ ColonSegment path ∧ buildRoutes path = .ok (path :: builtInRoutes)) ∨
      (ColonSegment path ∧ buildRoutes path = .error .captureMark) := by
  have braces := braces_close_plain path.toList fun c inside =>
    ⟨(mountable.plain c inside).1, (mountable.plain c inside).2.1⟩
  have free : builtInRoutes.contains path = false := by simp [builtInRoutes, mountable.free]
  rw [buildRoutes, checkRoute, if_neg (by simp [mountable.root]), braces, free]
  by_cases colon : ColonSegment path
  · refine .inr ⟨colon, ?_⟩
    rw [if_pos ((starts_capture_iff path mountable).mpr colon)]
    rfl
  · refine .inl ⟨colon, ?_⟩
    rw [if_neg (mt (starts_capture_iff path mountable).mp colon)]
    rfl

end Mountable

end Http

/-! ### What a server does with it -/

namespace Service

namespace Server

open Http

theorem open_listeners_route (env : Environment) (s : Server) :
    (∃ fault next, s.openListeners env = (.error (.route fault), next)) ↔
      ∃ fault, buildRoutes s.settings.server.mountPoint = .error fault := by
  rw [openListeners]
  cases buildRoutes s.settings.server.mountPoint with
  | error fault => simp
  | ok routes =>
      dsimp only
      cases startListeners env.network s.disk s.settings.server <;> simp

theorem start_engine_route (settings : Settings) (d : Disk) (now : Instant) (fault : RouteFault) :
    startEngine settings d now ≠ .error (.route fault) := by
  rw [startEngine]
  split
  · simp
  · rcases (Engine.new settings.pipeline d now).construct with ⟨cause | _, built⟩
    · simp
    · dsimp only
      rcases built.start with ⟨cause | _, started⟩ <;> simp

theorem start_route (env : Environment) (line : Settings.CommandLine) (settings : Settings) (filter : LogFilter)
    (d : Disk) (now : Instant) :
    (∃ fault, start env line settings filter d now = .error (.route fault)) ↔
      (∃ engine, startEngine settings d now = .ok engine) ∧ (∃ table, openUserTable settings = .ok table) ∧
        ∃ fault, buildRoutes settings.server.mountPoint = .error fault := by
  have other := start_engine_route settings d now
  simp only [start, bind, Except.bind]
  cases started : startEngine settings d now with
  | error e =>
      rw [started] at other
      simp only [Except.error.injEq, reduceCtorEq, exists_false, false_and, iff_false]
      rintro ⟨fault, rfl⟩
      exact other fault rfl
  | ok engine =>
      dsimp only
      cases found : openUserTable settings with
      | error e =>
          rw [openUserTable] at found
          split at found
          · cases found
          · cases found
            simp
      | ok table =>
          dsimp only
          have opened := open_listeners_route env
            { line, settings, userTable := table, filter, desk := { engine, policy := settings.lease } }
          dsimp only at opened
          rw [← opened]
          rcases openListeners env _ with ⟨e | u, s⟩
          · simp
          · simp [pure, Except.pure]

theorem reload_route (env : Environment) (s : Server) (settings : Settings)
    (loaded : Settings.load s.disk s.line = .ok settings) :
    (∃ fault next, s.reload env = (.error (.route fault), next)) ↔
      (LogFilter.build env.logOverride settings.logging.level).isSome = true ∧
        (s.desk.engine.setConfig settings.pipeline).1 = .ok () ∧
        ∃ fault, buildRoutes settings.server.mountPoint = .error fault := by
  rw [reload, loaded]
  dsimp only
  cases LogFilter.build env.logOverride settings.logging.level with
  | none => simp
  | some filter =>
      simp only [applyPipeline, closeListeners]
      rcases s.desk.engine.setConfig settings.pipeline with ⟨cause | _, engine⟩
      · simp [Except.mapError]
      · have opened : (∃ fault next, openListeners env (applyLimits settings
            { s with listeners := [], filter := filter, desk := { s.desk with engine } }) =
              (.error (.route fault), next)) ↔ ∃ fault, buildRoutes settings.server.mountPoint = .error fault :=
          open_listeners_route env _
        simp only [Except.mapError, Option.isSome_some, true_and]
        rw [← opened]
        rcases openListeners env _ with ⟨e | u, s⟩
        · simp
        · simp

theorem mount_point_routes_iff (path : String) (accepted : Settings.AcceptsMount path) :
    Settings.Mountable path ∧
      (buildRoutes path = .ok (path :: builtInRoutes) ↔ ¬ ColonSegment path) ∧
      (∀ env line settings filter d now, settings.server.mountPoint = path →
        ((∃ fault, start env line settings filter d now = .error (.route fault)) ↔
          (∃ engine, startEngine settings d now = .ok engine) ∧ (∃ table, openUserTable settings = .ok table) ∧
            ColonSegment path)) ∧
      ∀ env (s : Server) settings, Settings.load s.disk s.line = .ok settings → settings.server.mountPoint = path →
        ((∃ fault next, s.reload env = (.error (.route fault), next)) ↔
          (LogFilter.build env.logOverride settings.logging.level).isSome = true ∧
            (s.desk.engine.setConfig settings.pipeline).1 = .ok () ∧ ColonSegment path) := by
  have mountable := (Settings.accepts_mount_iff path).mp accepted
  have registered : buildRoutes path = .ok (path :: builtInRoutes) ↔ ¬ ColonSegment path := by
    rcases build_routes_cases path mountable with ⟨plain, built⟩ | ⟨colon, broken⟩
    · simp [built, plain]
    · simp [broken, colon]
  have faulty : (∃ fault, buildRoutes path = .error fault) ↔ ColonSegment path := by
    rcases build_routes_cases path mountable with ⟨plain, built⟩ | ⟨colon, broken⟩
    · simp [built, plain]
    · simp [broken, colon]
  refine ⟨mountable, registered, ?_, ?_⟩
  · rintro env line settings filter d now rfl
    rw [start_route, faulty]
  · rintro env s settings loaded rfl
    rw [reload_route env s settings loaded, faulty]

-- A colon inside of a segment does no harm, nor does an empty segment.
theorem mount_point_routes_iff_inner :
    Settings.AcceptsMount "/cam:1//live" ∧
      buildRoutes "/cam:1//live" = .ok ["/cam:1//live", "/status", "/index.html"] := by
  have accepted : Settings.AcceptsMount "/cam:1//live" :=
    ⟨{ choices := { mountPoint := some "/cam:1//live" } }, {}, none, _, rfl, rfl⟩
  have inner : ¬ ColonSegment "/cam:1//live" := by
    rw [ColonSegment]
    decide
  obtain ⟨_, registered, _⟩ := mount_point_routes_iff "/cam:1//live" accepted
  exact ⟨accepted, registered.mpr inner⟩

end Server

def openHost : Environment where
  network := ⟨fun _ => true, true⟩

theorem colon_segment_breaks_off :
    Settings.AcceptsMount "/:x" ∧ Http.buildRoutes "/:x" = .error .captureMark ∧
      (run openHost (fun _ => "7") ["--simulate-graph", "--mount-point", "/:x"] {} 0 []).map (·.exitCode) =
        some (some 101) :=
  ⟨⟨{ choices := { mountPoint := some "/:x" } }, {}, none, _, rfl, rfl⟩, rfl, by decide +kernel⟩

end Service

end CameraServer
