import CameraServer.Text.Blank
import CameraServer.Text.Letters

/-!
Names of log levels.
-/

set_option autoImplicit false

namespace CameraServer.Service

def normalizeLevel (level : String) : String :=
  let name := Text.lower (Text.trim level)
  if name = "err" ∨ name = "critical" then "error"
  else if name = "warning" then "warn"
  else name

end CameraServer.Service
