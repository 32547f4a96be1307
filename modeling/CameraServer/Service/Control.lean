/-!
Requests to end the process or to read its configuration again.
-/

set_option autoImplicit false

namespace CameraServer.Service

structure Control where
  terminate : Bool := false
  reload : Bool := false
  exitCode : Int := 0
deriving DecidableEq, Repr

namespace Control

def requestTerminate (c : Control) (exitCode : Int) : Control :=
  { c with exitCode, terminate := true }

def requestReload (c : Control) : Control :=
  { c with reload := true }

def takeReload (c : Control) : Bool × Control :=
  (c.reload, { c with reload := false })

theorem take_reload_twice (c : Control) : c.takeReload.2.takeReload.1 = false := rfl

end Control

end CameraServer.Service
