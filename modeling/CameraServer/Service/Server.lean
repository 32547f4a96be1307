import CameraServer.Http.ControlPlane
import CameraServer.Service.Error
import CameraServer.Service.LogFilter

/-!
The running server: how it comes up, what it does at each tick, and how it takes on a changed
configuration.
-/

set_option autoImplicit false

namespace CameraServer.Service

structure Environment where
  network : Network
  logOverride : Option String := none
  hasEventLoop : Bool := true
  readings : Host.Readings := {}

structure Server where
  line : Settings.CommandLine
  settings : Settings
  desk : Desk
  userTable : FilePath
  listeners : List Net.ListenUrl := []
  filter : LogFilter

abbrev ServerOutcome (α : Type) := Except ServiceError α × Server

namespace Server

def disk (s : Server) : Disk :=
  s.desk.engine.site.disk

def withDisk (s : Server) (disk : Disk) : Server :=
  let engine := s.desk.engine
  { s with desk := { s.desk with engine := { engine with site := { engine.site with disk } } } }

def now (s : Server) : Instant :=
  s.desk.now

def advance (s : Server) (ms : Int) : Server :=
  let engine := s.desk.engine
  { s with
    desk :=
      { s.desk with engine := { engine with site := { engine.site with now := s.now + ms } } } }

/-! ### Coming up -/

def startEngine (settings : Settings) (d : Disk) (now : Instant) : Except ServiceError Engine :=
  if !settings.simulateGraph then .error (.construction .noMediaLibrary)
  else
    match (Engine.new settings.pipeline d now).construct with
    | (.error cause, _) => .error (.construction (.engine cause))
    | (.ok (), e) =>
        match e.start with
        | (.error cause, _) => .error (.pipeline cause)
        | (.ok (), e) => .ok e

/-- The disk after an attempt to start the engine, which may have opened a fragment. -/
def diskAfterStart (settings : Settings) (d : Disk) (now : Instant) : Disk :=
  if !settings.simulateGraph then d
  else ((Engine.new settings.pipeline d now).construct.2.start).2.site.disk

def openUserTable (settings : Settings) : Except ServiceError FilePath :=
  match Accounts.tablePath? settings.server.userDb with
  | some path => .ok path
  | none => .error (.config (.unsupportedUserDb settings.server.userDb))

def openListeners (env : Environment) (s : Server) : ServerOutcome Unit :=
  match Http.buildRoutes s.settings.server.mountPoint with
  | .error fault => (.error (.route fault), s)
  | .ok _ =>
      match startListeners env.network s.disk s.settings.server with
      | .error fault => (.error (.listen fault), s)
      | .ok listeners => (.ok (), { s with listeners })

def closeListeners (s : Server) : Server :=
  { s with listeners := [] }

def start (env : Environment) (line : Settings.CommandLine) (settings : Settings)
    (filter : LogFilter) (d : Disk) (now : Instant) : Except ServiceError Server := do
  let engine ← startEngine settings d now
  let userTable ← openUserTable settings
  let server : Server :=
    { line, settings, userTable, filter
      desk := { engine, policy := settings.lease } }
  let (result, server) := server.openListeners env
  result
  return server

/-! ### Ticks -/

def maxEventsPerTick : Nat := 64

def drain (s : Server) : Server :=
  { s with desk := { s.desk with engine := s.desk.engine.pollUpTo maxEventsPerTick } }

def sweep (s : Server) : Nat × Server :=
  let (count, desk) := s.desk.sweepExpired
  (count, { s with desk })

/-! ### Requests -/

def site (env : Environment) (s : Server) : Http.Site :=
  { mountPoint := s.settings.server.mountPoint
    recordingDir := s.settings.server.recordingDir
    accounts := fun d name => Accounts.lookupIn d s.userTable name
    readings := env.readings }

def exchange (env : Environment) (r : Http.Request) (draws : List Guid) (s : Server) :
    Option (Http.Response × Server) :=
  if s.listeners.isEmpty || !env.network.canReach then none
  else
    let (response, desk) := Http.respond (s.site env) r draws s.desk
    some (response, { s with desk })

/-! ### A changed configuration -/

inductive Reload where
  | kept (cause : Settings.ConfigError)
  | done
deriving DecidableEq, Repr

def applyPipeline (config : PipelineConfig) (s : Server) : ServerOutcome Unit :=
  let (result, engine) := s.desk.engine.setConfig config
  let s := { s with desk := { s.desk with engine } }
  (result.mapError fun cause => .construction (.engine cause), s)

/-- Takes on the limits and the user table; one that cannot be opened leaves the previous one. -/
def applyLimits (settings : Settings) (s : Server) : Server :=
  { s with
    desk := { s.desk with policy := settings.lease }
    userTable := (Accounts.tablePath? settings.server.userDb).getD s.userTable
    settings }

def reload (env : Environment) (s : Server) : ServerOutcome Reload :=
  match Settings.load s.disk s.line with
  | .error cause => (.ok (.kept cause), s)
  | .ok settings =>
      match LogFilter.build env.logOverride settings.logging.level with
      | none => (.error .logFilter, s)
      | some filter =>
          match applyPipeline settings.pipeline { s.closeListeners with filter } with
          | (.error e, s) => (.error e, s)
          | (.ok (), s) =>
              match (applyLimits settings s).openListeners env with
              | (.error e, s) => (.error e, s)
              | (.ok (), s) => (.ok .done, s)

def stop (s : Server) : Server :=
  let s := s.closeListeners
  { s with desk := { s.desk with engine := (s.desk.engine.shutdown true).2 } }

end Server

end CameraServer.Service
