import CameraServer.Pipeline.Engine

/-!
Events of the graph: what the engine does with them and what it writes to the log.
-/

set_option autoImplicit false

namespace CameraServer

open Media

inductive LogLevel where
  | debug
  | info
  | warn
  | error
deriving DecidableEq, Repr

def LogLevel.name : LogLevel → String
  | .debug => "DEBUG"
  | .info => "INFO"
  | .warn => "WARN"
  | .error => "ERROR"

structure LogLine where
  level : LogLevel
  message : String
deriving DecidableEq, Repr

namespace Engine

def snapshotTag? : PlayState → Option String
  | .null => none
  | .ready => some "pipeline-ready"
  | .paused => some "pipeline-paused"
  | .playing => some "pipeline-playing"

def handle (event : Event) (e : Engine) : Engine :=
  match event with
  | .stateChanged _ _ new true =>
      let e := { e with playing := new = .playing }
      match snapshotTag? new with
      | some tag => e.dump tag
      | none => e
  | _ => e

def severityLevel : Severity → LogLevel
  | .info => .info
  | .warning => .warn
  | .error => .error

def eventLog (event : Event) (e : Engine) : List LogLine :=
  match event with
  | .note severity _ message _ => [⟨severityLevel severity, message⟩]
  | .endOfStream => [⟨.error, "End of stream reached"⟩]
  | .stateChanged _ _ _ false => [⟨.debug, "Element state changed"⟩]
  | .stateChanged _ _ _ true =>
      ⟨.info, "Pipeline state changed"⟩ ::
        e.graph.parentedStages.map fun _ => ⟨.debug, "Element state"⟩

def poll (e : Engine) : Option Event × Engine :=
  if e.constructed then
    match e.graph.popEvent with
    | (none, _) => (none, e)
    | (some event, graph) => (some event, handle event { e with graph })
  else (none, e)

def pollLog (e : Engine) : List LogLine :=
  if e.constructed then
    match e.graph.events with
    | [] => []
    | event :: _ => eventLog event e
  else [⟨.error, "Cannot poll events of a pipeline that is not constructed"⟩]

def pollUpTo : Nat → Engine → Engine
  | 0, e => e
  | count + 1, e =>
      match e.poll with
      | (none, e) => e
      | (some _, e) => pollUpTo count e

def pollToEnd : Nat → Engine → Engine
  | 0, e => e
  | count + 1, e =>
      match e.poll with
      | (none, e) => e
      | (some .endOfStream, e) => e
      | (some _, e) => pollToEnd count e

end Engine

end CameraServer
