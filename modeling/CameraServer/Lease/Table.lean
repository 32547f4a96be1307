import CameraServer.Lease.Policy

/-!
The table of live leases, filed under owner and id, in the order they were granted.
-/

set_option autoImplicit false

namespace CameraServer

abbrev LeaseKey := String × Guid

abbrev LeaseTable := List (LeaseKey × Lease)

namespace LeaseTable

def get? (t : LeaseTable) (key : LeaseKey) : Option Lease :=
  (t.find? (·.1 = key)).map (·.2)

def insert (t : LeaseTable) (key : LeaseKey) (lease : Lease) : LeaseTable :=
  t ++ [(key, lease)]

def erase (t : LeaseTable) (key : LeaseKey) : LeaseTable :=
  t.filter (·.1 ≠ key)

def modify (t : LeaseTable) (key : LeaseKey) (f : Lease → Lease) : LeaseTable :=
  t.map fun entry => if entry.1 = key then (key, f entry.2) else entry

def ofUser (t : LeaseTable) (username : String) : LeaseTable :=
  t.filter (·.1.1 = username)

def count (t : LeaseTable) (username : String) : Nat :=
  (ofUser t username).length

def expired (t : LeaseTable) (now : Instant) : List LeaseKey :=
  (t.filter (·.2.expiresAt ≤ now)).map (·.1)

end LeaseTable

end CameraServer
