import CameraServer.Pattern.Reader
import CameraServer.Text.Letters
import CameraServer.Text.Numeral

/-!
Values that a log directive can ask a field to have: patterns, and numbers. Only a number with a
plus sign has to be told apart, because every other one is a pattern for its own text.
-/

set_option autoImplicit false

namespace CameraServer.Service

def isDecimalNumber (cs : List Char) : Bool :=
  let (whole, rest) := Text.spanDigits 10 cs
  let (part, rest) :=
    match rest with
    | '.' :: rest => Text.spanDigits 10 rest
    | _ => ([], rest)
  (whole ++ part ≠ []) &&
    (match rest with
      | [] => true
      | c :: exponent => (c = 'e' || c = 'E') && (Text.integer? exponent).isSome)

def isPositiveNumber (text : String) : Bool :=
  match (Text.lower text).toList with
  | '+' :: rest =>
      isDecimalNumber rest || ["inf", "infinity", "nan"].contains (String.ofList rest)
  | _ => false

def isUsablePattern (text : String) : Bool :=
  (Pattern.ofText? text).any Pattern.isUsable

def isFieldValue (text : String) : Bool :=
  isPositiveNumber text || isUsablePattern text

end CameraServer.Service
