/-!
Sets of characters given by runs of code points.
-/

set_option autoImplicit false

namespace CameraServer.Text

abbrev CodeRuns := Array (Nat × Nat)

def CodeRuns.contains (runs : CodeRuns) (c : Char) : Bool :=
  runs.any fun run => run.1 ≤ c.toNat && c.toNat ≤ run.2

end CameraServer.Text
