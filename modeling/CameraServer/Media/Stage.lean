import CameraServer.Net.Endpoint
import CameraServer.Text.Quoted

/-!
Stages of the media graph, their states, and the signals and events that pass between them and the
engine.
-/

set_option autoImplicit false

namespace CameraServer.Media

def graphName : String := "main-pipeline"

def captureName : String := "video-source"

def fanOutName : String := "subpipes_tee"

def recordingName : String := "recording-branch"

def egressName : String := "rtp-branch"

inductive PlayState where
  | null
  | ready
  | paused
  | playing
deriving DecidableEq, Repr

def PlayState.name : PlayState → String
  | .null => "NULL"
  | .ready => "READY"
  | .paused => "PAUSED"
  | .playing => "PLAYING"

inductive StageKind where
  | capture
  | fanOut
  | recording
  | egress
deriving DecidableEq, Repr

def StageKind.label : StageKind → String
  | .capture => "capture"
  | .fanOut => "fan-out"
  | .recording => "recording"
  | .egress => "egress"

structure StageSpec where
  name : String
  kind : StageKind
deriving DecidableEq, Repr

def StageSpec.egress : StageSpec := ⟨egressName, .egress⟩

def StageSpec.text (spec : StageSpec) : String :=
  "StageSpec \x7b name: " ++ Text.quoted spec.name ++ ", kind: " ++ Text.quoted spec.kind.label
    ++ " \x7d"

inductive Target where
  | graph
  | stage (name : String)
deriving DecidableEq, Repr

def Target.text : Target → String
  | .graph => graphName
  | .stage name => name

inductive Signal where
  | addDestination (endpoint : Endpoint)
  | removeDestination (endpoint : Endpoint)
  | splitAfter
  | endOfStream
deriving DecidableEq, Repr

def Signal.name : Signal → String
  | .addDestination _ => "add"
  | .removeDestination _ => "remove"
  | .splitAfter => "split-after"
  | .endOfStream => "eos"

inductive Severity where
  | info
  | warning
  | error
deriving DecidableEq, Repr

inductive Event where
  | note (severity : Severity) (source message : String) (details : Option String)
  | endOfStream
  | stateChanged (source : String) (old new : PlayState) (topLevel : Bool)
deriving DecidableEq, Repr

end CameraServer.Media
