import CameraServer.Service.Process
import CameraServer.Version

/-!
The command line. The server runs over the graph in memory and over copies of the files that its
settings name; what happens to it is read from standard input, one line each: `TERM`, `INT`, `HUP`,
`ADVANCE` with milliseconds, or a method and a path. Replies go to standard output.
-/

set_option autoImplicit false

namespace CameraServer.Main

open Service

def usageLines : List String :=
  ["Camera streaming server with leased viewers and rolling recordings", "",
    "Usage: pitv-server [OPTIONS]", "", "Options:", "      --config <FILE>", "      --simulate-graph"]
    ++ Settings.Key.all.map (fun key => "      --" ++ key.name ++ " <VALUE>")
    ++ ["  -h, --help", "  -V, --version"]

def environment : Environment :=
  { network := { canBind := fun _ => true, canReach := true } }

def fetch (d : Disk) (path : FilePath) : IO Disk := do
  try
    let bytes ← IO.FS.readBinFile path.text
    return (d.place path (.file ⟨bytes.toList, 0⟩ 0)).2
  catch _ =>
    return d

def fetchAll (d : Disk) (line : Settings.CommandLine) : IO Disk := do
  let d ← fetch d line.config
  match Settings.load d line with
  | .error _ => return d
  | .ok settings =>
      let table := (Accounts.tablePath? settings.server.userDb).toList
      let files := table ++ [settings.server.tlsCert, settings.server.tlsKey]
      files.foldlM fetch d

def stimulus? (line : String) : Option Stimulus :=
  let words := (Text.splitAt ' ' (Text.trimChars line.toList)).filter (· ≠ [])
  match words.map String.ofList with
  | ["TERM"] => some (.signal .terminate)
  | ["INT"] => some (.signal .interrupt)
  | ["HUP"] => some (.signal .hangup)
  | ["ADVANCE", ms] => (Text.integer? ms.toList).map .advance
  | [method, target] => some (.request { method, target })
  | _ => none

def leaseId (before : Nat) : Guid :=
  "lease-" ++ Text.decimal (before + 1)

def showReport (r : Report) : IO Unit := do
  for line in r.fatal ++ r.errorLines do
    IO.eprintln line

partial def loop (input : IO.FS.Stream) (p : Process) : IO UInt32 := do
  match p.report.exitCode with
  | some code =>
      showReport p.report
      return UInt32.ofNat code
  | none =>
      let text ← input.getLine
      if text.isEmpty then return 0
      match stimulus? text with
      | none => loop input p
      | some stimulus =>
          let disk ← fetchAll p.server.disk p.server.line
          match { p with server := p.server.withDisk disk }.step environment leaseId stimulus with
          | none => return 1
          | some next =>
              for reply in next.report.replies.drop p.report.replies.length do
                IO.println reply.statusLine
              loop input next

end CameraServer.Main

open CameraServer in
def main (args : List String) : IO UInt32 := do
  match Settings.CommandLine.parse args with
  | .error .help =>
      Main.usageLines.forM IO.println
      return 0
  | .error .version =>
      IO.println ("pitv-server " ++ Version.package)
      return 0
  | .error (.usage _) =>
      IO.eprintln "error: invalid arguments; try --help"
      return 2
  | .ok line =>
      let disk ← Main.fetchAll {} line
      match Service.boot Main.environment args disk 0 with
      | .error report =>
          Main.showReport report
          return UInt32.ofNat (report.exitCode.getD 1)
      | .ok p => Main.loop (← IO.getStdin) p
