/-!
Upper and lower case of the 26 Latin letters; every other character is left alone.
-/

set_option autoImplicit false

namespace CameraServer.Text

def lowerLetter (c : Char) : Char :=
  if 65 ≤ c.toNat ∧ c.toNat ≤ 90 then Char.ofNat (c.toNat + 32) else c

def lower (s : String) : String :=
  String.ofList (s.toList.map lowerLetter)

def sameLetters (s t : String) : Bool :=
  lower s == lower t

end CameraServer.Text
