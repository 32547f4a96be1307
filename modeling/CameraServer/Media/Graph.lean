import CameraServer.Disk.Path
import CameraServer.Media.Failure

/-!
The media graph in memory: stages with their links, states and destinations, and a record of what
happened to it. A stage is built floating, added to the graph, linked, and taken out again.
-/

set_option autoImplicit false

namespace CameraServer.Media

structure Stage where
  kind : StageKind
  parented : Bool := false
  state : PlayState := .null
  destinations : List Endpoint := []
  nextFragment : UInt32 := 0
deriving DecidableEq, Repr

/-- What recording stages reach outside the graph: where a fragment goes, and opening it there. -/
structure FragmentSink (σ : Type) where
  locate : String → UInt32 → σ → Option FilePath × σ
  openFile : FilePath → σ → σ

structure Graph where
  stages : List (String × Stage) := []
  links : List (String × String) := []
  state : PlayState := .null
  events : List Event := []
  signals : List (Target × Signal) := []
  history : List (List Endpoint) := []
  diagnostics : List String := []
  fragments : List FilePath := []
  failures : List FailPoint := []
  oneShot : List FailPoint := []
deriving DecidableEq, Repr

namespace Graph

/-! ### Failure points -/

def failOn (g : Graph) (p : FailPoint) : Graph :=
  if p ∈ g.failures then g else { g with failures := g.failures ++ [p] }

def failOnce (g : Graph) (p : FailPoint) : Graph :=
  if p ∈ g.oneShot then g else { g with oneShot := g.oneShot ++ [p] }

def clearFailure (g : Graph) (p : FailPoint) : Graph :=
  { g with failures := g.failures.filter (· ≠ p) }

def clearFailures (g : Graph) : Graph :=
  { g with failures := [], oneShot := [] }

def fails (g : Graph) (p : FailPoint) : Bool :=
  p ∈ g.failures || p ∈ g.oneShot

/-- The graph after the operation at `p` has failed: unless it fails for good, it will not do so
again. -/
def spend (g : Graph) (p : FailPoint) : Graph :=
  if p ∈ g.failures then g else { g with oneShot := g.oneShot.filter (· ≠ p) }

/-! ### Views -/

def stage? (g : Graph) (name : String) : Option Stage :=
  (g.stages.find? (·.1 = name)).map (·.2)

def hasStage (g : Graph) (name : String) : Bool :=
  (g.stage? name).isSome

def hasParent (g : Graph) (name : String) : Bool :=
  (g.stage? name).any (·.parented)

def isLinked (g : Graph) (up down : String) : Bool :=
  g.links.contains (up, down)

def sink (g : Graph) : List Endpoint :=
  ((g.stage? egressName).map (·.destinations)).getD []

def insertByName (entry : String × Stage) : List (String × Stage) → List (String × Stage)
  | [] => [entry]
  | other :: rest =>
      if entry.1 ≤ other.1 then entry :: other :: rest else other :: insertByName entry rest

def parentedStages (g : Graph) : List (String × Stage) :=
  (g.stages.filter (·.2.parented)).foldr insertByName []

def describe (g : Graph) : List String :=
  g.parentedStages.map fun entry =>
    entry.1 ++ " (" ++ entry.2.kind.label ++ ") " ++ entry.2.state.name

def recordingStages (g : Graph) : List String :=
  (g.parentedStages.filter (·.2.kind = .recording)).map (·.1)

/-! ### Updates -/

def modifyStage (g : Graph) (name : String) (f : Stage → Stage) : Graph :=
  { g with stages := g.stages.map fun entry => if entry.1 = name then (name, f entry.2) else entry }

def pushEvent (g : Graph) (e : Event) : Graph :=
  { g with events := g.events ++ [e] }

def logSignal (g : Graph) (target : Target) (signal : Signal) : Graph :=
  { g with signals := g.signals ++ [(target, signal)] }

def dump (g : Graph) (tag : String) : Graph :=
  { g with diagnostics := g.diagnostics ++ [tag] }

/-! ### Operations. One that fails leaves the graph as it was but for a spent failure. -/

def build (g : Graph) (spec : StageSpec) : Except GraphError Unit × Graph :=
  if g.fails (.build spec.name) then
    (.error (.buildFailed spec.name (.build spec.name)), g.spend (.build spec.name))
  else if g.hasStage spec.name then (.error (.stageExists spec.name), g)
  else (.ok (), { g with stages := g.stages ++ [(spec.name, { kind := spec.kind })] })

def add (g : Graph) (name : String) : Except GraphError Unit × Graph :=
  if g.fails (.add name) then (.error (.backend (.injected (.add name))), g.spend (.add name))
  else
    match g.stage? name with
    | none => (.error (.stageNotFound name), g)
    | some stage =>
        if stage.parented then (.error (.addFailed name), g)
        else (.ok (), g.modifyStage name fun s => { s with parented := true })

def remove (g : Graph) (name : String) : Except GraphError Unit × Graph :=
  if g.fails (.remove name) then
    (.error (.backend (.injected (.remove name))), g.spend (.remove name))
  else
    match g.stage? name with
    | none => (.error (.stageNotFound name), g)
    | some stage =>
        if stage.parented then
          let g := g.modifyStage name fun s => { s with parented := false }
          (.ok (), { g with links := g.links.filter fun l => l.1 ≠ name && l.2 ≠ name })
        else (.error (.removeFailed name .notInGraph), g)

def release (g : Graph) (name : String) : Except GraphError Unit × Graph :=
  match g.stage? name with
  | none => (.error (.stageNotFound name), g)
  | some stage =>
      if stage.parented then (.error (.removeFailed name .stillInGraph), g)
      else (.ok (), { g with stages := g.stages.filter (·.1 ≠ name) })

def reset (g : Graph) : Graph :=
  { g with stages := [], links := [], events := [], state := .null }

def link (g : Graph) (up down : String) : Except GraphError Unit × Graph :=
  if g.fails (.link down) then (.error (.linkFailed up down), g.spend (.link down))
  else
    match g.stage? up with
    | none => (.error (.stageNotFound up), g)
    | some upper =>
        if !upper.parented then (.error (.linkFailed up down), g)
        else
          match g.stage? down with
          | none => (.error (.stageNotFound down), g)
          | some lower =>
              if !lower.parented || g.isLinked up down then (.error (.linkFailed up down), g)
              else (.ok (), { g with links := g.links ++ [(up, down)] })

def unlink (g : Graph) (up down : String) : Except GraphError Unit × Graph :=
  if g.fails (.unlink down) then (.error (.unlinkFailed up down), g.spend (.unlink down))
  else if g.isLinked up down then
    (.ok (), { g with links := g.links.filter (· ≠ (up, down)) })
  else (.error (.unlinkFailed up down), g)

def query (g : Graph) : Except GraphError PlayState × Graph :=
  if g.fails .stateQuery then (.error .stateQuery, g.spend .stateQuery) else (.ok g.state, g)

def popEvent (g : Graph) : Option Event × Graph :=
  match g.events with
  | [] => (none, g)
  | e :: rest => (some e, { g with events := rest })

variable {σ : Type}

def openFragment (sink : FragmentSink σ) (name : String) (g : Graph) (s : σ) : Graph × σ :=
  match g.stage? name with
  | none => (g, s)
  | some stage =>
      if stage.kind = .recording then
        let g := g.modifyStage name fun st => { st with nextFragment := st.nextFragment + 1 }
        match sink.locate name stage.nextFragment s with
        | (none, s) => (g, s)
        | (some path, s) =>
            ({ g with fragments := g.fragments ++ [path] }, sink.openFile path s)
      else (g, s)

def openFirstFragment (sink : FragmentSink σ) (gs : Graph × σ) (name : String) : Graph × σ :=
  match gs.1.stage? name with
  | some stage => if stage.nextFragment = 0 then openFragment sink name gs.1 gs.2 else gs
  | none => gs

/-- Moves the graph and every stage in it to a state. Recording stages open their first fragment
when the graph begins to play. -/
def setState (sink : FragmentSink σ) (state : PlayState) (g : Graph) (s : σ) :
    Except GraphError Unit × Graph × σ :=
  if g.fails (.setState state) then
    (.error (.stateChange .graph state), g.spend (.setState state), s)
  else
    let moved : Graph :=
      { g with
        state := state
        stages := g.stages.map fun entry =>
          if entry.2.parented then (entry.1, { entry.2 with state := state }) else entry
        events :=
          if g.state = state then g.events
          else g.events ++ [.stateChanged graphName g.state state true] }
    if g.state ≠ .playing ∧ state = .playing then
      (.ok (), moved.recordingStages.foldl (openFirstFragment sink) (moved, s))
    else (.ok (), moved, s)

def setStageState (g : Graph) (name : String) (state : PlayState) :
    Except GraphError Unit × Graph :=
  match g.stage? name with
  | none => (.error (.stageNotFound name), g)
  | some _ => (.ok (), g.modifyStage name fun s => { s with state := state })

def sync (sink : FragmentSink σ) (name : String) (g : Graph) (s : σ) :
    Except GraphError Unit × Graph × σ :=
  if g.fails (.sync name) then
    (.error (.backend (.injected (.sync name))), g.spend (.sync name), s)
  else
    match g.stage? name with
    | none => (.error (.stageNotFound name), g, s)
    | some stage =>
        if !stage.parented then (.error (.stateChange (.stage name) g.state), g, s)
        else
          let synced := g.modifyStage name fun st => { st with state := g.state }
          if g.state = .playing then
            (.ok (), openFirstFragment sink (synced, s) name)
          else (.ok (), synced, s)

def changeDestinations (g : Graph) (name : String) (stage : Stage) (list : List Endpoint) : Graph :=
  let g := g.modifyStage name fun _ => { stage with destinations := list }
  { g with history := g.history ++ [list] }

def emit (sink : FragmentSink σ) (target : Target) (signal : Signal) (g : Graph) (s : σ) :
    Except GraphError Unit × Graph × σ :=
  if g.fails (.signal signal.name) then
    (.error (.signal target signal.name .injected), g.spend (.signal signal.name), s)
  else
    match signal, target with
    | .endOfStream, _ => (.ok (), (g.pushEvent .endOfStream).logSignal target signal, s)
    | _, .graph => (.error (.signal target signal.name .needsStage), g, s)
    | .addDestination endpoint, .stage name =>
        match g.stage? name with
        | none => (.error (.stageNotFound name), g, s)
        | some stage =>
            let g := g.changeDestinations name stage (stage.destinations ++ [endpoint])
            (.ok (), g.logSignal target signal, s)
    | .removeDestination endpoint, .stage name =>
        match g.stage? name with
        | none => (.error (.stageNotFound name), g, s)
        | some stage =>
            let g := g.changeDestinations name stage (stage.destinations.erase endpoint)
            (.ok (), g.logSignal target signal, s)
    | .splitAfter, .stage name =>
        match g.stage? name with
        | none => (.error (.stageNotFound name), g, s)
        | some _ =>
            let (g, s) := openFragment sink name g s
            (.ok (), g.logSignal target signal, s)

end Graph

end CameraServer.Media
