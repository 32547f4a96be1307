import CameraServer.Http.Route
import CameraServer.Pipeline.Error
import CameraServer.Service.Listeners
import CameraServer.Service.LogFile
import CameraServer.Settings.Error

/-!
What ends a server or keeps it from coming up.
-/

set_option autoImplicit false

namespace CameraServer.Service

inductive ConstructionFault where
  | noMediaLibrary
  | engine (cause : PipelineError)
deriving DecidableEq, Repr

def ConstructionFault.message : ConstructionFault → String
  | .noMediaLibrary => "built without the gstreamer feature; run with --simulate-graph"
  | .engine cause => cause.message

inductive ServiceError where
  | config (cause : Settings.ConfigError)
  | log (fault : LogFault)
  | logFilter
  | eventLoop (cause : Disk.OsError)
  | construction (fault : ConstructionFault)
  | pipeline (cause : PipelineError)
  | listen (fault : ListenFault)
  | route (fault : Http.RouteFault)
deriving DecidableEq, Repr

def ServiceError.message : ServiceError → String
  | .config cause => cause.message
  | .log fault => fault.message
  | .logFilter => "log filter cannot be cut into directives"
  | .eventLoop cause => cause.message
  | .construction fault => "media graph construction failed: " ++ fault.message
  | .pipeline cause => cause.message
  | .listen fault => "control server error: " ++ fault.message
  | .route _ => "mount point cannot be registered"

def ServiceError.breaksOff : ServiceError → Bool
  | .route _ => true
  | .logFilter => true
  | _ => false

end CameraServer.Service
