import CameraServer.Calendar

/-!
Names of recording fragments: `YYYY-MM-DD--HH-MM-SS[index].mp4`.
-/

set_option autoImplicit false

namespace CameraServer.Recording

def extension : String := "mp4"

def fragmentChars (now : Instant) (index : Nat) : List Char :=
  let t := Calendar.civilTime now
  Calendar.dateChars t ++ '-' :: '-' :: Calendar.clockChars t
    ++ '[' :: Nat.toDigits 10 index ++ "].mp4".toList

def fragmentName (now : Instant) (index : Nat) : String :=
  String.ofList (fragmentChars now index)

end CameraServer.Recording
