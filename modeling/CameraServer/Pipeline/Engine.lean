import CameraServer.Media.Graph
import CameraServer.Pipeline.Error

/-!
The pipeline engine: its state and the calls it makes on the media graph.

The capture, fan-out and recording stages live as long as the pipeline. The egress branch is
attached with the first destination and detached with the last one.
-/

set_option autoImplicit false

namespace CameraServer

open Media

structure Site where
  store : RecordingStore
  disk : Disk
  now : Instant

namespace Site

def sink : FragmentSink Site where
  locate _ index s :=
    let (path, store, disk) := s.store.nextFragment s.disk s.now index.toNat
    (path, { s with store, disk })
  openFile path s :=
    match s.disk.openAppend path with
    | .ok disk => { s with disk }
    | .error _ => s

end Site

/-- Calls of a media library that fail or have no effect although the graph is sound. -/
structure Refusals where
  reset : Bool := false
  release : Bool := false
  stageState : Bool := false
  stuck : Bool := false
  endOfStreamLost : Bool := false
deriving DecidableEq, Repr

structure Engine where
  config : PipelineConfig
  graph : Graph := {}
  site : Site
  refusals : Refusals := {}
  constructed : Bool := false
  playing : Bool := false
  destinations : List Endpoint := []
  /-- Destinations left on the sink by a failed move; nobody owns them. -/
  orphans : List Endpoint := []
  /-- After a failed rebuild: whether to play again once rebuilt. -/
  pending : Option Bool := none

abbrev Outcome (α : Type) := Except PipelineError α × Engine

namespace Outcome

def next {α : Type} (r : Outcome Unit) (f : Engine → Outcome α) : Outcome α :=
  match r with
  | (.ok (), e) => f e
  | (.error x, e) => (.error x, e)

end Outcome

namespace Engine

def new (config : PipelineConfig) (disk : Disk) (now : Instant) : Engine :=
  { config, site := { store := .ofConfig config, disk, now } }

def rebuildPending (e : Engine) : Bool :=
  e.pending.isSome

/-! ### Calls on the graph -/

def withGraph {α : Type} (e : Engine) (r : Except GraphError α × Graph) : Outcome α :=
  (r.1.mapError .graph, { e with graph := r.2 })

def withSite {α : Type} (e : Engine) (r : Except GraphError α × Graph × Site) : Outcome α :=
  (r.1.mapError .graph, { e with graph := r.2.1, site := r.2.2 })

def buildStage (spec : StageSpec) (e : Engine) : Outcome Unit :=
  e.withGraph (e.graph.build spec)

def addStage (name : String) (e : Engine) : Outcome Unit :=
  e.withGraph (e.graph.add name)

def removeStage (name : String) (e : Engine) : Outcome Unit :=
  e.withGraph (e.graph.remove name)

def releaseStage (name : String) (e : Engine) : Outcome Unit :=
  if e.refusals.release then (.error (.graph (.removeFailed name .refused)), e)
  else e.withGraph (e.graph.release name)

def link (up down : String) (e : Engine) : Outcome Unit :=
  e.withGraph (e.graph.link up down)

def unlink (up down : String) (e : Engine) : Outcome Unit :=
  e.withGraph (e.graph.unlink up down)

def setGraphState (state : PlayState) (e : Engine) : Outcome Unit :=
  if e.refusals.stuck ∧ state = .null then (.ok (), e)
  else e.withSite (e.graph.setState Site.sink state e.site)

def setStageState (name : String) (state : PlayState) (e : Engine) : Outcome Unit :=
  if e.refusals.stageState then (.error (.graph (.stateChange (.stage name) state)), e)
  else e.withGraph (e.graph.setStageState name state)

def syncStage (name : String) (e : Engine) : Outcome Unit :=
  e.withSite (e.graph.sync Site.sink name e.site)

def queryState (e : Engine) : Outcome PlayState :=
  e.withGraph e.graph.query

def emit (target : Target) (signal : Signal) (e : Engine) : Outcome Unit :=
  if e.refusals.endOfStreamLost ∧ signal = .endOfStream then (.ok (), e)
  else e.withSite (e.graph.emit Site.sink target signal e.site)

def resetGraph (e : Engine) : Engine :=
  if e.refusals.reset then e else { e with graph := e.graph.reset }

def dump (tag : String) (e : Engine) : Engine :=
  { e with graph := e.graph.dump tag }

def ifConstructed {α : Type} (e : Engine) (operation : PipelineOperation) (r : Outcome α) :
    Outcome α :=
  if e.constructed then r else (.error (.notConstructed operation), e)

end Engine

end CameraServer
