import CameraServer.Media.Failure
import CameraServer.Recording.Store

/-!
Errors of the pipeline engine.
-/

set_option autoImplicit false

namespace CameraServer

inductive PipelineOperation where
  | start
  | pause
  | stop
  | splitRecording
  | addEndpoint
  | attachBranch
  | detachBranch
deriving DecidableEq, Repr

def PipelineOperation.text : PipelineOperation → String
  | .start => "start"
  | .pause => "pause"
  | .stop => "stop"
  | .splitRecording => "split recording"
  | .addEndpoint => "add endpoint"
  | .attachBranch => "attach branch"
  | .detachBranch => "detach branch"

inductive PipelineError where
  | notConstructed (operation : PipelineOperation)
  | branchHasParent (name : String)
  | branchNotAttached (name : String)
  | fanOutMissing
  | graph (cause : Media.GraphError)
  | storage (cause : StorageError)
deriving DecidableEq, Repr

def PipelineError.message : PipelineError → String
  | .notConstructed operation => "cannot " ++ operation.text ++ ": pipeline is not constructed"
  | .branchHasParent name => "branch " ++ name ++ " already has a parent"
  | .branchNotAttached name => "branch " ++ name ++ " is not attached"
  | .fanOutMissing => "fan-out stage is missing"
  | .graph cause => cause.message
  | .storage cause => cause.message

end CameraServer
