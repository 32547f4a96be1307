import CameraServer.Text.Numeral

/-!
Destinations of the egress branch.
-/

set_option autoImplicit false

namespace CameraServer

structure Endpoint where
  host : String
  port : UInt16
deriving DecidableEq, Repr

namespace Endpoint

def text (e : Endpoint) : String :=
  let port := Text.decimal e.port.toNat
  if e.host.toList.contains ':' then "[" ++ e.host ++ "]:" ++ port else e.host ++ ":" ++ port

end Endpoint

end CameraServer
