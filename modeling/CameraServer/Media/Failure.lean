import CameraServer.Media.Stage
import CameraServer.Text.Quoted

/-!
Points at which the graph can be made to fail, and the errors it reports.
-/

set_option autoImplicit false

namespace CameraServer.Media

/-- An operation that is to fail. Links are named by their lower end, signals by their name. -/
inductive FailPoint where
  | build (stage : String)
  | add (stage : String)
  | remove (stage : String)
  | link (down : String)
  | unlink (down : String)
  | sync (stage : String)
  | setState (state : PlayState)
  | signal (name : String)
  | stateQuery
deriving DecidableEq, Repr

def FailPoint.text : FailPoint → String
  | .build stage => "BuildStage(" ++ Text.quoted stage ++ ")"
  | .add stage => "AddStage(" ++ Text.quoted stage ++ ")"
  | .remove stage => "RemoveStage(" ++ Text.quoted stage ++ ")"
  | .link down => "Link(" ++ Text.quoted down ++ ")"
  | .unlink down => "Unlink(" ++ Text.quoted down ++ ")"
  | .sync stage => "SyncState(" ++ Text.quoted stage ++ ")"
  | .setState .null => "SetState(Null)"
  | .setState .ready => "SetState(Ready)"
  | .setState .paused => "SetState(Paused)"
  | .setState .playing => "SetState(Playing)"
  | .signal name => "Signal(" ++ Text.quoted name ++ ")"
  | .stateQuery => "StateQuery"

inductive RemovalObstacle where
  | notInGraph
  | stillInGraph
  | refused
deriving DecidableEq, Repr

def RemovalObstacle.text : RemovalObstacle → String
  | .notInGraph => "not in the graph"
  | .stillInGraph => "still in the graph"
  | .refused => "refused"

inductive SignalObstacle where
  | injected
  | needsStage
deriving DecidableEq, Repr

def SignalObstacle.text : SignalObstacle → String
  | .injected => "injected failure"
  | .needsStage => "signal needs a stage"

inductive BackendFailure where
  | injected (point : FailPoint)
  | refused
deriving DecidableEq, Repr

def BackendFailure.text : BackendFailure → String
  | .injected point => "injected failure: " ++ point.text
  | .refused => "refused"

inductive GraphError where
  | buildFailed (stage : String) (point : FailPoint)
  | stageNotFound (stage : String)
  | stageExists (stage : String)
  | addFailed (stage : String)
  | removeFailed (stage : String) (obstacle : RemovalObstacle)
  | linkFailed (up down : String)
  | unlinkFailed (up down : String)
  | stateChange (target : Target) (state : PlayState)
  | stateQuery
  | signal (target : Target) (name : String) (obstacle : SignalObstacle)
  | backend (failure : BackendFailure)
deriving DecidableEq, Repr

def GraphError.message : GraphError → String
  | .buildFailed stage point => "failed to build stage " ++ stage ++ ": " ++ point.text
  | .stageNotFound stage => "stage " ++ stage ++ " does not exist"
  | .stageExists stage => "stage " ++ stage ++ " already exists"
  | .addFailed stage =>
      "stage " ++ stage ++ " could not be added to the graph: already has a parent"
  | .removeFailed stage obstacle =>
      "stage " ++ stage ++ " could not be removed from the graph: " ++ obstacle.text
  | .linkFailed up down => "failed to link " ++ up ++ " -> " ++ down
  | .unlinkFailed up down => "failed to unlink " ++ up ++ " -> " ++ down
  | .stateChange target state => "failed to move " ++ target.text ++ " to " ++ state.name
  | .stateQuery => "state query failed: state change did not settle in time"
  | .signal target name obstacle => name ++ " on " ++ target.text ++ " failed: " ++ obstacle.text
  | .backend failure => "graph library error: " ++ failure.text

end CameraServer.Media
