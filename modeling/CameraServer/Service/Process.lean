import CameraServer.Disk.Entry
import CameraServer.Service.Control
import CameraServer.Service.Server

/-!
The life of the server process, from its command line to its exit code.
-/

set_option autoImplicit false

namespace CameraServer.Service

inductive ProcessSignal where
  | terminate
  | interrupt
  | hangup
deriving DecidableEq, Repr

/-- A termination signal ends the process with its number, an interrupt with zero. -/
def Control.signal (c : Control) : ProcessSignal → Control
  | .terminate => c.requestTerminate 15
  | .interrupt => c.requestTerminate 0
  | .hangup => c.requestReload

inductive Stimulus where
  | place (path : FilePath) (node : Disk.Node)
  | signal (s : ProcessSignal)
  | request (r : Http.Request)
  | advance (ms : Int)

structure Report where
  exitCode : Option Nat := none
  complaint : Option ServiceError := none
  notices : List String := []
  fatal : List String := []
  reloads : List Bool := []
  replies : List Http.Response := []
  swept : List Nat := []
  disk : Disk := {}

def processTarget : String := "pitv_server"
def loopTarget : String := "pitv::driver"

def Report.logFatal (r : Report) (filter : LogFilter) (target message : String) : Report :=
  if filter.showsError ⟨target, ["message", "error"]⟩ then { r with fatal := r.fatal ++ [message] }
  else r

structure Process where
  server : Server
  control : Control := {}
  granted : Nat := 0
  report : Report := {}

def brokenOff : Nat := 101

namespace Process

def exitByte (code : Int) : Nat :=
  if 0 ≤ code ∧ code ≤ 255 then code.toNat else 1

def finish (p : Process) : Process :=
  let server := p.server.stop
  { p with
    server
    report :=
      { p.report with exitCode := some (exitByte p.control.exitCode), disk := server.disk } }

def reload (env : Environment) (p : Process) : Process :=
  let (result, server) := p.server.reload env
  let p := { p with server }
  match result with
  | .ok kept =>
      { p with report := { p.report with reloads := p.report.reloads ++ [kept == .done] } }
  | .error e =>
      if e.breaksOff then
        { p with report := { p.report with exitCode := some brokenOff, disk := server.disk } }
      else
        { p with
          control := p.control.requestTerminate 1
          report := p.report.logFatal server.filter loopTarget e.message }

/-- One turn of the main loop: events, the sweep, then a reload if one was asked for, and the end
if that was. -/
def turn (env : Environment) (p : Process) : Process :=
  if p.control.terminate then p.finish
  else
    let (count, server) := p.server.drain.sweep
    let swept := if count = 0 then p.report.swept else p.report.swept ++ [count]
    let (asked, control) := p.control.takeReload
    let p := { p with server, control, report := { p.report with swept } }
    let p := if asked then p.reload env else p
    if p.report.exitCode.isSome then p
    else if p.control.terminate then p.finish
    else p

def request (env : Environment) (ids : Nat → Guid) (r : Http.Request) (p : Process) :
    Option Process :=
  match p.server.exchange env r [ids p.granted] with
  | none => none
  | some (response, server) =>
      let grew := p.server.desk.leases.length < server.desk.leases.length
      some
        { p with
          server
          granted := if grew then p.granted + 1 else p.granted
          report := { p.report with replies := p.report.replies ++ [response] } }

def step (env : Environment) (ids : Nat → Guid) (p : Process) : Stimulus → Option Process
  | .place path node => some { p with server := p.server.withDisk (p.server.disk.place path node).2 }
  | .signal s => some ({ p with control := p.control.signal s }.turn env)
  | .request r => p.request env ids r
  | .advance ms => some ({ p with server := p.server.advance ms }.turn env)

def steps (env : Environment) (ids : Nat → Guid) : List Stimulus → Process → Option Process
  | [], p => some p
  | s :: rest, p =>
      if p.report.exitCode.isSome then some p else (p.step env ids s).bind (steps env ids rest)

end Process

def stopCode : Settings.Stop → Nat
  | .help => 0
  | .version => 0
  | .usage _ => 2

def complaintLine (e : ServiceError) : String :=
  "pitv-server: " ++ e.message

def Report.errorLines (r : Report) : List String :=
  r.notices ++ (r.complaint.map complaintLine).toList

structure Prepared where
  line : Settings.CommandLine
  settings : Settings
  filter : LogFilter
  notices : List String
  disk : Disk

def prepare (env : Environment) (args : List String) (d : Disk) (now : Instant) :
    Except Report Prepared := do
  let line ← (Settings.CommandLine.parse args).mapError fun stop =>
    ({ exitCode := some (stopCode stop), disk := d } : Report)
  let settings ← (Settings.load d line).mapError fun cause =>
    ({ exitCode := some 1, complaint := some (.config cause), disk := d } : Report)
  match LogFilter.build env.logOverride settings.logging.level with
  | none => .error { exitCode := some brokenOff, disk := d }
  | some filter =>
      let log := openLog d settings.logging now
      let () ← log.result.mapError fun fault =>
        ({ exitCode := some 1, complaint := some (.log fault), notices := log.notices,
           disk := log.disk } : Report)
      return { line, settings, filter, notices := log.notices, disk := log.disk }

def failedStart (p : Prepared) (now : Instant) (e : ServiceError) : Report :=
  let report : Report :=
    { exitCode := some 1
      notices := p.notices
      disk := Server.diskAfterStart p.settings p.disk now }
  if e.breaksOff then { report with exitCode := some brokenOff }
  else report.logFatal p.filter processTarget e.message

def boot (env : Environment) (args : List String) (d : Disk) (now : Instant) :
    Except Report Process := do
  let p ← prepare env args d now
  if env.hasEventLoop then
    match Server.start env p.line p.settings p.filter p.disk now with
    | .ok server => return { server, report := { notices := p.notices, disk := server.disk } }
    | .error e => .error (failedStart p now e)
  else
    .error
      (Report.logFatal { exitCode := some 1, notices := p.notices, disk := p.disk } p.filter
        processTarget (ServiceError.eventLoop .tooManyOpen).message)

def run (env : Environment) (ids : Nat → Guid) (args : List String) (d : Disk) (now : Instant)
    (stimuli : List Stimulus) : Option Report :=
  match boot env args d now with
  | .error report => some report
  | .ok p => (p.steps env ids stimuli).map (·.report)

end CameraServer.Service
