import CameraServer.Pipeline.Events

/-!
The life of a pipeline: construction, play and pause, splitting the recording, and shutdown.
-/

set_option autoImplicit false

namespace CameraServer

open Media

inductive PipelineState where
  | unconstructed
  | stopped
  | paused
  | playing
deriving DecidableEq, Repr

def PipelineState.ofPlayState : PlayState → PipelineState
  | .null => .stopped
  | .ready => .stopped
  | .paused => .paused
  | .playing => .playing

namespace Engine

def runSteps : List (Engine → Outcome Unit) → Engine → Outcome Unit
  | [], e => (.ok (), e)
  | step :: rest, e => (step e).next (runSteps rest)

def fixedStages : List (Engine → Outcome Unit) :=
  [buildStage ⟨captureName, .capture⟩, addStage captureName,
    buildStage ⟨fanOutName, .fanOut⟩, addStage fanOutName,
    buildStage ⟨recordingName, .recording⟩, addStage recordingName,
    link captureName fanOutName, link fanOutName recordingName,
    setGraphState .ready]

def construct (e : Engine) : Outcome Unit :=
  if e.constructed then (.ok (), e)
  else
    match runSteps fixedStages e with
    | (.error x, e) => (.error x, e.resetGraph)
    | (.ok (), e) => (.ok (), dump "pipeline-start" { e with constructed := true })

def resolveRecordings (e : Engine) : Outcome Unit :=
  let (found, store, disk) := e.site.store.resolveDir e.site.disk
  let e := { e with site := { e.site with store, disk } }
  match found with
  | .ok _ => (.ok (), e)
  | .error cause => (.error (.storage cause), e)

def moveTo (state : PlayState) (e : Engine) : Outcome Unit :=
  match e.queryState with
  | (.ok current, e) => if current = state then (.ok (), e) else e.setGraphState state
  | (.error _, e) => e.setGraphState state

def start (e : Engine) : Outcome Unit :=
  e.ifConstructed .start (e.resolveRecordings.next (moveTo .playing))

def pause (e : Engine) : Outcome Unit :=
  e.ifConstructed .pause (e.moveTo .paused)

def halt (e : Engine) : Outcome Unit :=
  (e.setGraphState .null).next fun e => (.ok (), { e with playing := false })

def stop (e : Engine) : Outcome Unit :=
  e.ifConstructed .stop e.halt

def isRunning (e : Engine) : Outcome Bool :=
  if e.constructed then
    match e.queryState with
    | (.ok state, e) => (.ok (decide (state = .playing)), e)
    | (.error x, e) => (.error x, e)
  else (.ok false, e)

def runs (e : Engine) : Bool × Engine :=
  match e.isRunning with
  | (.ok running, e) => (running, e)
  | (.error _, e) => (false, e)

def state (e : Engine) : Outcome PipelineState :=
  if e.constructed then
    match e.queryState with
    | (.ok state, e) => (.ok (.ofPlayState state), e)
    | (.error x, e) => (.error x, e)
  else (.ok .unconstructed, e)

def splitNow (e : Engine) : Outcome Unit :=
  e.ifConstructed .splitRecording (e.emit (.stage recordingName) .splitAfter)

def finish (patient : Bool) (e : Engine) : Engine :=
  let e := e.splitNow.2
  match e.emit .graph .endOfStream with
  | (.ok (), e) => if patient then pollToEnd e.graph.events.length e else e
  | (.error _, e) => e

def settle (patient : Bool) : Nat → Engine → Engine
  | 0, e => e
  | tries + 1, e =>
      match e.queryState with
      | (.ok .null, e) => e
      | (_, e) => if patient then settle patient tries e.poll.2 else e

/-- Finalises the recording and brings the graph down. Without patience nothing is waited for;
with it, a wait that cannot end handles all events and gives up. -/
def shutdown (patient : Bool) (e : Engine) : Outcome Unit :=
  if e.constructed then
    let (running, e) := e.runs
    let e := if running then e.finish patient else e
    e.halt.next fun e => (.ok (), settle patient (e.graph.events.length + 2) e)
  else (.ok (), e)

def drop (e : Engine) : Engine :=
  if e.constructed then (e.setGraphState .null).2 else e

end Engine

end CameraServer
