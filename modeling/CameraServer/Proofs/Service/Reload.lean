import CameraServer.Proofs.Lease.Faithful
import CameraServer.Service.Process

/-!
Reloads while viewers are watching. Main statements: a configuration that cannot be loaded changes nothing; one
that is taken on leaves the leases and the sink as they were and the graph playing, also when the graph has been
rebuilt; and the servers this holds for are all that a running process comes to.
-/

set_option autoImplicit false

namespace CameraServer.Service

namespace Server

/-! ### Runs of a server -/

def surrounded (disk : Disk) (now : Instant) (s : Server) : Server :=
  { s with desk := Desk.Step.apply (.surroundings disk now) s.desk }

inductive Reached : Server → Prop where
  | started (env : Environment) (line : Settings.CommandLine) (settings : Settings) (filter : LogFilter) (disk : Disk)
      (now : Instant) (s : Server) (up : start env line settings filter disk now = .ok s) : Reached s
  | answered (env : Environment) (r : Http.Request) (draws : List Guid) (s : Server) (response : Http.Response)
      (next : Server) (before : Reached s) (answer : s.exchange env r draws = some (response, next)) : Reached next
  | drained (s : Server) (before : Reached s) : Reached s.drain
  | swept (keys : List LeaseKey) (s : Server) (before : Reached s)
      (expired : keys.Perm (s.desk.leases.expired s.desk.now)) :
      Reached { s with desk := (s.desk.sweepInOrder keys).2 }
  | surrounded (disk : Disk) (now : Instant) (s : Server) (before : Reached s) : Reached (s.surrounded disk now)
  | reloaded (env : Environment) (s : Server) (outcome : Reload) (next : Server) (before : Reached s)
      (done : s.reload env = (.ok outcome, next)) : Reached next

theorem start_engine_smooth (settings : Settings) (disk : Disk) (now : Instant) (e : Engine)
    (up : startEngine settings disk now = .ok e) : e.Smooth ∧ e.destinations = [] := by
  rw [startEngine] at up
  split at up
  · cases up
  · have begun := Engine.construct_smooth (Engine.new settings.pipeline disk now) (.new _ _ _) rfl
    generalize (Engine.new settings.pipeline disk now).construct = built at up begun
    rcases built with ⟨cause | _, fresh⟩
    · cases up
    · obtain ⟨smooth, vacant⟩ := begun fresh rfl
      obtain ⟨playing, still⟩ := Engine.start_smooth fresh smooth
      dsimp only at up
      rcases eq : fresh.start with ⟨cause | _, last⟩
      · rw [eq] at up
        cases up
      · rw [eq] at up playing still
        cases up
        exact ⟨playing, still.trans vacant⟩

theorem open_listeners_iff (env : Environment) (s next : Server) :
    s.openListeners env = (.ok (), next) ↔
      ∃ routes listeners, Http.buildRoutes s.settings.server.mountPoint = .ok routes ∧
        startListeners env.network s.disk s.settings.server = .ok listeners ∧ next = { s with listeners } := by
  rw [openListeners]
  cases Http.buildRoutes s.settings.server.mountPoint with
  | error fault => simp
  | ok routes =>
      dsimp only
      cases startListeners env.network s.disk s.settings.server with
      | error fault => simp
      | ok listeners => simp [eq_comm]

theorem start_faithful (env : Environment) (line : Settings.CommandLine) (settings : Settings) (filter : LogFilter)
    (disk : Disk) (now : Instant) (s : Server) (up : start env line settings filter disk now = .ok s) :
    s.desk.Faithful := by
  simp only [start, bind, Except.bind] at up
  cases started : startEngine settings disk now with
  | error cause =>
      rw [started] at up
      cases up
  | ok e =>
      obtain ⟨smooth, vacant⟩ := start_engine_smooth settings disk now e started
      rw [started] at up
      dsimp only at up
      cases found : openUserTable settings with
      | error cause =>
          rw [found] at up
          cases up
      | ok table =>
          rw [found] at up
          dsimp only at up
          generalize begun :
            Server.mk line settings { engine := e, policy := settings.lease } table [] filter = first at up
          rcases opened : first.openListeners env with ⟨cause | _, last⟩
          · rw [opened] at up
            cases up
          · obtain ⟨_, listeners, _, _, same⟩ := (open_listeners_iff env first last).mp opened
            rw [opened] at up
            cases up
            rw [same, ← begun]
            refine ⟨smooth, by simp [LeaseTable.keys], ?_⟩
            rw [vacant]
            exact List.Perm.refl []

theorem respond_faithful (site : Http.Site) (r : Http.Request) (draws : List Guid) (d : Desk) (faithful : d.Faithful) :
    (Http.respond site r draws d).2.Faithful := by
  rw [Http.respond]
  split
  · exact faithful
  · split
    · split <;> exact faithful
    · split
      · split
        · exact faithful
        · next body _ =>
          change (Http.lease site r body draws d).2.Faithful
          rw [Http.lease]
          split
          · exact faithful
          · split
            · exact faithful
            · split
              · exact faithful
              · exact Desk.handle_request_faithful d faithful _ _ draws
      · exact faithful

theorem exchange_faithful (env : Environment) (r : Http.Request) (draws : List Guid) (s : Server)
    (response : Http.Response) (next : Server) (faithful : s.desk.Faithful)
    (answer : s.exchange env r draws = some (response, next)) : next.desk.Faithful := by
  have responded := respond_faithful (s.site env) r draws s.desk faithful
  rw [exchange] at answer
  split at answer
  · cases answer
  · cases answer
    exact responded

theorem reload_done_iff (env : Environment) (s : Server) (settings : Settings) (outcome : Reload) (next : Server)
    (loaded : Settings.load s.disk s.line = .ok settings) :
    s.reload env = (.ok outcome, next) ↔
      outcome = .done ∧ ∃ filter engine routes listeners,
        LogFilter.build env.logOverride settings.logging.level = some filter ∧
        s.desk.engine.setConfig settings.pipeline = (.ok (), engine) ∧
        Http.buildRoutes settings.server.mountPoint = .ok routes ∧
        startListeners env.network engine.site.disk settings.server = .ok listeners ∧
        next =
          { s with
            settings, filter, listeners
            desk := { s.desk with engine, policy := settings.lease }
            userTable := (Accounts.tablePath? settings.server.userDb).getD s.userTable } := by
  rw [reload, loaded]
  dsimp only
  cases LogFilter.build env.logOverride settings.logging.level with
  | none => simp
  | some filter =>
      simp only [applyPipeline, closeListeners]
      rcases s.desk.engine.setConfig settings.pipeline with ⟨cause | _, engine⟩
      · simp [Except.mapError]
      · simp only [Except.mapError]
        generalize limited : applyLimits settings _ = last
        constructor
        · intro done
          rcases opened : last.openListeners env with ⟨cause | _, final⟩
          · rw [opened] at done
            cases done
          · obtain ⟨routes, listeners, routed, bound, same⟩ := (open_listeners_iff env last final).mp opened
            rw [opened] at done
            cases done
            subst limited
            exact ⟨rfl, filter, engine, routes, listeners, rfl, rfl, routed, bound, same⟩
        · rintro ⟨rfl, _, _, routes, listeners, ⟨⟩, ⟨⟩, routed, bound, rfl⟩
          have chosen : last.settings = settings := limited ▸ rfl
          have disk : last.disk = engine.site.disk := limited ▸ rfl
          rw [← chosen] at routed
          rw [← disk, ← chosen] at bound
          rw [(open_listeners_iff env last { last with listeners }).mpr ⟨routes, listeners, routed, bound, rfl⟩]
          subst limited
          rfl

theorem reload_kept (env : Environment) (s : Server) (cause : Settings.ConfigError)
    (refused : Settings.load s.disk s.line = .error cause) : s.reload env = (.ok (.kept cause), s) := by
  rw [reload, refused]

theorem reload_faithful (env : Environment) (s : Server) (outcome : Reload) (next : Server)
    (faithful : s.desk.Faithful) (done : s.reload env = (.ok outcome, next)) : next.desk.Faithful := by
  cases loaded : Settings.load s.disk s.line with
  | error cause =>
      rw [reload_kept env s cause loaded] at done
      cases done
      exact faithful
  | ok settings =>
      obtain ⟨_, _, engine, _, _, _, changed, _, _, same⟩ :=
        (reload_done_iff env s settings outcome next loaded).mp done
      rw [same]
      exact Desk.set_config_faithful s.desk faithful settings.pipeline settings.lease engine changed

theorem reached_faithful (s : Server) (reached : Reached s) : s.desk.Faithful := by
  induction reached with
  | started env line settings filter disk now s up => exact start_faithful env line settings filter disk now s up
  | answered env r draws s response next _ answer ih =>
      exact exchange_faithful env r draws s response next ih answer
  | drained s _ ih => exact Desk.poll_faithful s.desk ih maxEventsPerTick
  | swept keys s _ expired ih => exact Desk.sweep_faithful s.desk ih keys expired
  | surrounded disk now s _ ih => exact Desk.surroundings_faithful s.desk ih disk now
  | reloaded env s outcome next _ done ih => exact reload_faithful env s outcome next ih done

end Server

/-! ### Running processes -/

namespace Process

open Server (Reached)

-- A reload that fails ends the process, at once or at the end of the turn.
theorem reload_reached (env : Environment) (p : Process) (reached : Reached p.server) :
    Reached (p.reload env).server ∨ (p.reload env).report.exitCode.isSome = true ∨
      (p.reload env).control.terminate = true := by
  rw [reload]
  rcases done : p.server.reload env with ⟨cause | outcome, next⟩
  · dsimp only
    split
    · exact .inr (.inl rfl)
    · exact .inr (.inr rfl)
  · exact .inl (.reloaded env p.server outcome next reached done)

theorem closing_reached (p : Process)
    (closes : Reached p.server ∨ p.report.exitCode.isSome = true ∨ p.control.terminate = true)
    (running : (if p.report.exitCode.isSome then p else if p.control.terminate then p.finish else p).report.exitCode =
      none) :
    Reached (if p.report.exitCode.isSome then p else if p.control.terminate then p.finish else p).server := by
  split
  · next ended =>
      rw [if_pos ended] at running
      simp [running] at ended
  · next going =>
      rw [if_neg going] at running
      split
      · next ending =>
          rw [if_pos ending] at running
          cases running
      · next staying => exact closes.resolve_right fun ended => ended.elim going staying

theorem turn_reached (env : Environment) (p : Process) (reached : Reached p.server)
    (running : (p.turn env).report.exitCode = none) : Reached (p.turn env).server := by
  have swept : Reached p.server.drain.sweep.2 :=
    .swept _ p.server.drain (.drained p.server reached) (List.Perm.refl _)
  rw [turn] at running ⊢
  split
  · next ending =>
      rw [if_pos ending] at running
      cases running
  · next going =>
      rw [if_neg going] at running
      apply closing_reached _ _ running
      split
      · exact reload_reached env _ swept
      · exact .inl swept

theorem step_reached (env : Environment) (ids : Nat → Guid) (p next : Process) (stimulus : Stimulus)
    (reached : Reached p.server) (went : p.step env ids stimulus = some next) (running : next.report.exitCode = none) :
    Reached next.server := by
  cases stimulus with
  | place path node =>
      cases went
      exact .surrounded _ p.server.now p.server reached
  | signal s =>
      cases went
      exact turn_reached env _ reached running
  | request r =>
      simp only [step, request] at went
      cases answer : p.server.exchange env r [ids p.granted] with
      | none =>
          rw [answer] at went
          cases went
      | some answered =>
          rw [answer] at went
          cases went
          exact .answered env r _ p.server answered.1 answered.2 reached answer
  | advance ms =>
      cases went
      exact turn_reached env _ (.surrounded p.server.disk (p.server.now + ms) p.server reached) running

theorem steps_reached (env : Environment) (ids : Nat → Guid) (stimuli : List Stimulus) (p last : Process)
    (reached : p.report.exitCode = none → Reached p.server) (went : p.steps env ids stimuli = some last)
    (running : last.report.exitCode = none) : Reached last.server := by
  induction stimuli generalizing p with
  | nil =>
      cases went
      exact reached running
  | cons stimulus rest ih =>
      rw [steps] at went
      split at went
      · cases went
        exact reached running
      · next going =>
          obtain ⟨next, stepped, later⟩ := Option.bind_eq_some_iff.mp went
          apply ih next _ later
          exact step_reached env ids p next stimulus (reached (by simpa using going)) stepped

theorem running_reached (env : Environment) (ids : Nat → Guid) (args : List String) (d : Disk) (now : Instant)
    (begun last : Process) (stimuli : List Stimulus) (up : boot env args d now = .ok begun)
    (went : begun.steps env ids stimuli = some last) (running : last.report.exitCode = none) : Reached last.server := by
  apply steps_reached env ids stimuli begun last _ went running
  intro _
  simp only [boot, bind, Except.bind] at up
  cases ready : prepare env args d now with
  | error report =>
      rw [ready] at up
      cases up
  | ok prepared =>
      rw [ready] at up
      dsimp only at up
      split at up
      · cases started : Server.start env prepared.line prepared.settings prepared.filter prepared.disk now with
        | error cause =>
            rw [started] at up
            cases up
        | ok server =>
            rw [started] at up
            cases up
            exact .started env _ _ _ _ now server started
      · cases up

end Process

/-! ### Reloads -/

namespace Server

theorem reload_keeps_viewers (env : Environment) (s : Server) (reached : Reached s) :
    (∀ cause, Settings.load s.disk s.line = .error cause → s.reload env = (.ok (.kept cause), s)) ∧
      ∀ settings outcome next, Settings.load s.disk s.line = .ok settings → s.reload env = (.ok outcome, next) →
        next.desk.leases = s.desk.leases ∧
        next.desk.engine.graph.sink.Perm s.desk.engine.graph.sink ∧
        next.desk.engine.graph.sink.Perm (LeaseTable.endpoints next.desk.leases) ∧
        (s.desk.engine.graph.state = .playing → next.desk.engine.graph.state = .playing) ∧
        next.desk.engine.config = settings.pipeline ∧ next.desk.policy = settings.lease ∧
        next.settings = settings ∧
        next.userTable = (Accounts.tablePath? settings.server.userDb).getD s.userTable := by
  refine ⟨reload_kept env s, ?_⟩
  intro settings outcome next loaded done
  have smooth := (reached_faithful s reached).smooth
  have served := Desk.faithful_sink next.desk (reached_faithful next (.reloaded env s outcome next reached done))
  obtain ⟨_, _, engine, _, _, _, changed, _, _, same⟩ :=
    (reload_done_iff env s settings outcome next loaded).mp done
  have sink := Engine.set_config_same_sink s.desk.engine smooth settings.pipeline engine changed
  subst same
  exact ⟨rfl, List.Perm.of_eq sink, served,
    Engine.set_config_plays_on s.desk.engine smooth settings.pipeline engine changed,
    (Engine.set_config_smooth s.desk.engine smooth settings.pipeline engine changed).2, rfl, rfl, rfl⟩

end Server

-- Alice is watching when the picture is made wider, leases are no longer given out, and the users are to be looked
-- up where the server cannot.
def textFile (text : String) : Disk.Node := .file { bytes := Text.encodeUtf8 text } 0

def household : Disk where
  nodes :=
    [(["usernames.txt"], textFile "username,password,role\nalice,secret,user\n"), (["camera.toml"], textFile "")]

def quietHost : Environment where
  network := ⟨fun _ => true, true⟩

def arrival : Http.Request where
  method := "POST"
  target := "/camera"
  headers := [("Authorization", "Basic YWxpY2U6c2VjcmV0")]
  body := Text.encodeUtf8 "[\"\",\"10.0.0.1\",5000,60000]"

def revised : String := "video-width = 1280\nmax-leases-per-user = 0\nuser-db = \"ldap://directory\"\n"

def visit : Option Process :=
  (boot quietHost ["--simulate-graph", "--config", "camera.toml"] household 0).toOption.bind
    (·.steps quietHost (fun _ => "7") [.request arrival, .place ⟨"camera.toml"⟩ (textFile revised)])

theorem visit_reached (p : Process) (visited : visit = some p) (running : p.report.exitCode = none) :
    Server.Reached p.server := by
  rw [visit] at visited
  obtain ⟨begun, up, went⟩ := Option.bind_eq_some_iff.mp visited
  cases booted : boot quietHost ["--simulate-graph", "--config", "camera.toml"] household 0 with
  | error report =>
      rw [booted] at up
      cases up
  | ok p =>
      rw [booted] at up
      cases up
      exact Process.running_reached quietHost _ _ household 0 begun _ _ booted went running

theorem reload_keeps_viewers_rebuilt :
    ∃ s settings next, Server.Reached s ∧ Settings.load s.disk s.line = .ok settings ∧
      s.desk.engine.config.requiresRebuild settings.pipeline = true ∧ settings.lease.maxLeasesPerUser = 0 ∧
      Accounts.tablePath? settings.server.userDb = none ∧ s.reload quietHost = (.ok .done, next) ∧
      next.desk.leases.length = 1 ∧ next.desk.engine.graph.sink.Perm [⟨"10.0.0.1", 5000⟩] ∧
      next.desk.engine.graph.state = .playing := by
  have before : visit.map (fun p =>
      (p.report.exitCode, p.server.desk.leases.length, p.server.desk.engine.graph.sink,
        p.server.desk.engine.graph.state)) = some (none, 1, [⟨"10.0.0.1", 5000⟩], .playing) := by decide +kernel
  have after : visit.map (fun p =>
      ((p.server.reload quietHost).1.toOption,
        (Settings.load p.server.disk p.server.line).toOption.map fun settings =>
          (p.server.desk.engine.config.requiresRebuild settings.pipeline, settings.lease.maxLeasesPerUser,
            Accounts.tablePath? settings.server.userDb))) =
      some (some .done, some (true, 0, none)) := by decide +kernel
  obtain ⟨p, visited, facts⟩ := Option.map_eq_some_iff.mp before
  rw [visited] at after
  simp only [Option.map_some, Option.some.injEq, Prod.mk.injEq] at facts after
  obtain ⟨running, single, watching, playing⟩ := facts
  obtain ⟨taken, read⟩ := after
  have reached := visit_reached p visited running
  obtain ⟨_, kept⟩ := Server.reload_keeps_viewers quietHost p.server reached
  cases loaded : Settings.load p.server.disk p.server.line with
  | error cause =>
      rw [loaded] at read
      cases read
  | ok settings =>
      rw [loaded] at read
      rcases done : p.server.reload quietHost with ⟨cause | outcome, next⟩
      · rw [done] at taken
        cases taken
      · rw [done] at taken
        cases taken
        obtain ⟨leases, sink, _, plays, _⟩ := kept settings .done next loaded done
        simp only [Except.toOption, Option.map_some, Option.some.injEq, Prod.mk.injEq] at read
        rw [watching] at sink
        exact ⟨p.server, settings, next, reached, loaded, read.1, read.2.1, read.2.2, done,
          (congrArg List.length leases).trans single, sink, plays playing⟩

end CameraServer.Service
