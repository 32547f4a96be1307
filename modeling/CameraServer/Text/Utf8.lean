/-!
Bytes and the text they stand for in UTF-8.
-/

set_option autoImplicit false

namespace CameraServer.Text

abbrev Bytes := List UInt8

def encodeUtf8 (s : String) : Bytes :=
  s.toUTF8.data.toList

def decodeUtf8? (bytes : Bytes) : Option String :=
  String.fromUTF8? ⟨bytes.toArray⟩

theorem decode_encode_utf8 (s : String) : decodeUtf8? (encodeUtf8 s) = some s := by
  have valid : s.toUTF8.IsValidUTF8 := s.isValidUTF8
  simp only [decodeUtf8?, encodeUtf8, Array.toArray_toList]
  exact dif_pos valid

theorem encode_of_decode_utf8 (bytes : Bytes) (s : String) (decoded : decodeUtf8? bytes = some s) :
    bytes = encodeUtf8 s := by
  simp only [decodeUtf8?, String.fromUTF8?] at decoded
  split at decoded
  · simp only [Option.some.injEq] at decoded
    subst decoded
    simp [encodeUtf8, String.fromUTF8, String.toUTF8]
  · simp at decoded

/-! ### Decoding with replacement -/

def isContinuation (b : UInt8) : Bool :=
  128 ≤ b && b < 192

def leadShape? (lead : UInt8) : Option (UInt8 × UInt8 × Nat) :=
  if 0xC2 ≤ lead ∧ lead ≤ 0xDF then some (0x80, 0xBF, 1)
  else if lead = 0xE0 then some (0xA0, 0xBF, 2)
  else if lead = 0xED then some (0x80, 0x9F, 2)
  else if 0xE1 ≤ lead ∧ lead ≤ 0xEF then some (0x80, 0xBF, 2)
  else if lead = 0xF0 then some (0x90, 0xBF, 3)
  else if 0xF1 ≤ lead ∧ lead ≤ 0xF3 then some (0x80, 0xBF, 3)
  else if lead = 0xF4 then some (0x80, 0x8F, 3)
  else none

/-- How many bytes at the front belong together: a whole character, or the longest beginning of
one that the bytes hold. -/
def characterLength : Bytes → Nat
  | [] => 0
  | lead :: rest =>
      match leadShape? lead with
      | none => 1
      | some (low, high, count) =>
          match rest with
          | second :: more =>
              if low ≤ second && second ≤ high then
                2 + ((more.take (count - 1)).takeWhile isContinuation).length
              else 1
          | [] => 1

def decodeLossy : Nat → Bytes → List Char
  | 0, _ => []
  | _ + 1, [] => []
  | fuel + 1, lead :: rest =>
      let count := characterLength (lead :: rest)
      let chars :=
        match decodeUtf8? ((lead :: rest).take count) with
        | some s => s.toList
        | none => ['\uFFFD']
      chars ++ decodeLossy fuel ((lead :: rest).drop count)

def decodeReplacing (bytes : Bytes) : String :=
  String.ofList (decodeLossy bytes.length bytes)

end CameraServer.Text
