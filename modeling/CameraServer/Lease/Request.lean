/-!
Lease requests.
-/

set_option autoImplicit false

namespace CameraServer

/-- An empty id asks for a new lease, time zero ends one. -/
structure LeaseRequest where
  guid : String
  address : String
  port : Int
  time : Int
deriving DecidableEq, Repr

end CameraServer
