import CameraServer.Proofs.Recording.FragmentName
import CameraServer.Text.Utf8

/-!
The order of fragment names. Main statement: a name is given to one second and one index only, and among
the years that are written with four digits the bytes of the names are ordered as the seconds are.
-/

set_option autoImplicit false

namespace CameraServer.Text

/-! ### Bytes of plain texts -/

theorem encode_ascii (cs : List Char) (ascii : ∀ c ∈ cs, c.toNat < 128) :
    encodeUtf8 (String.ofList cs) = cs.map Char.toUInt8 := by
  have bytes : cs.utf8Encode = (cs.map Char.toUInt8).toByteArray := by
    induction cs with
    | nil => rfl
    | cons c cs ih =>
        have single : c.utf8Size = 1 :=
          Char.utf8Size_eq_one_iff.mpr (Nat.le_of_lt_succ (ascii c List.mem_cons_self))
        rw [List.utf8Encode_cons, List.utf8Encode_singleton, String.utf8EncodeChar_eq_singleton single,
          ih fun d inside => ascii d (List.mem_cons_of_mem c inside), ← List.toByteArray_append]
        rfl
  rw [encodeUtf8, String.toUTF8_eq_toByteArray, String.toByteArray_ofList, bytes, List.data_toByteArray]

theorem encode_ascii_lt (cs ds : List Char) (ascii : ∀ c ∈ cs ++ ds, c.toNat < 128) (less : cs < ds) :
    encodeUtf8 (String.ofList cs) < encodeUtf8 (String.ofList ds) := by
  rw [encode_ascii cs fun c inside => ascii c (List.mem_append_left _ inside),
    encode_ascii ds fun c inside => ascii c (List.mem_append_right _ inside)]
  induction less with
  | nil => exact .nil
  | cons _ ih =>
      refine .cons (ih fun c inside => ascii c ?_)
      rcases List.mem_append.mp inside with inside | inside <;> simp [inside]
  | @rel c _ d _ less =>
      have first := ascii c (by simp)
      have second := ascii d (by simp)
      refine .rel (UInt8.lt_iff_toNat_lt.mpr ?_)
      change c.toNat % 256 < d.toNat % 256
      rw [Nat.mod_eq_of_lt (by omega), Nat.mod_eq_of_lt (by omega)]
      exact less

end CameraServer.Text

namespace CameraServer.Recording

open Calendar Text

theorem year_chars_lt (a b : Int) (x y : List Char) (low : 0 ≤ a) (high : b ≤ 9999) (less : a < b) :
    yearChars a ++ x < yearChars b ++ y := by
  rw [yearChars, yearChars, if_pos (by omega), if_pos (by omega)]
  exact padded_lt 4 _ _ _ _ (by decide) (by omega) (by omega)

theorem stamp_lt (s t : CivilTime) (x y : List Char) (short : TwoDigits t) (low : 0 ≤ s.year) (high : t.year ≤ 9999)
    (earlier : Earlier s t) : stamp s ++ x < stamp t ++ y := by
  have two (m n : Nat) (x y : List Char) (small : n < 100) (less : m < n) : padded 2 m ++ x < padded 2 n ++ y :=
    padded_lt 2 m n x y (by decide) small less
  have behind (front : List Char) (c : Char) {x y : List Char} (less : x < y) : front ++ c :: x < front ++ c :: y :=
    List.append_left_lt (List.cons_lt_cons_self.mpr less)
  simp only [stamp, dateChars, clockChars, List.append_assoc, List.cons_append]
  cases earlier with
  | year less => exact year_chars_lt _ _ _ _ low high less
  | month year less =>
      rw [year]
      exact behind _ _ (two _ _ _ _ short.month less)
  | day year month less =>
      rw [year, month]
      exact behind _ _ (behind _ _ (two _ _ _ _ short.day less))
  | hour year month day less =>
      rw [year, month, day]
      exact behind _ _ (behind _ _ (behind _ _ (behind [] _ (two _ _ _ _ short.hour less))))
  | minute year month day hour less =>
      rw [year, month, day, hour]
      exact behind _ _ (behind _ _ (behind _ _ (behind [] _ (behind _ _ (two _ _ _ _ short.minute less)))))
  | second year month day hour minute less =>
      rw [year, month, day, hour, minute]
      exact behind _ _ (behind _ _ (behind _ _ (behind [] _ (behind _ _ (behind _ _
        (two _ _ _ _ short.second less))))))

theorem fragment_chars_ascii (now : Instant) (index : Nat) (c : Char) (member : c ∈ fragmentChars now index) :
    c.toNat < 128 := by
  have digit (d : c.isDigit = true) : c.toNat < 128 := Nat.lt_of_le_of_lt (Char.isDigit_iff_toNat.mp d).2 (by decide)
  have suffix : ∀ c ∈ "].mp4".toList, c.toNat < 128 := by simp
  simp only [fragment_chars, List.mem_append, List.mem_cons] at member
  rcases member with stamped | rfl | index | ending
  · rcases stamp_chars _ _ stamped with d | rfl | rfl
    · exact digit d
    · decide
    · decide
  · decide
  · exact digit (Nat.isDigit_of_mem_toDigits (by decide) (by decide) index)
  · exact suffix c ending

theorem fragment_name_lt (now later : Instant) (index other : Nat) (low : 0 ≤ (civilTime now).year)
    (high : (civilTime later).year ≤ 9999) (onward : secondOf now < secondOf later) :
    encodeUtf8 (fragmentName now index) < encodeUtf8 (fragmentName later other) := by
  apply encode_ascii_lt
  · intro c inside
    rcases List.mem_append.mp inside with first | second
    · exact fragment_chars_ascii now index c first
    · exact fragment_chars_ascii later other c second
  · rw [fragment_chars, fragment_chars]
    exact stamp_lt _ _ _ _ (civil_time_two_digits later) low high (civil_time_mono now later onward)

theorem fragment_names_identify_and_order (now later : Instant) (index other : Nat) :
    (fragmentName now index = fragmentName later other ↔ secondOf now = secondOf later ∧ index = other) ∧
      (0 ≤ (civilTime now).year → (civilTime now).year ≤ 9999 → 0 ≤ (civilTime later).year →
        (civilTime later).year ≤ 9999 → secondOf now ≠ secondOf later →
        (encodeUtf8 (fragmentName now index) < encodeUtf8 (fragmentName later other) ↔ now < later)) := by
  refine ⟨fragment_name_same_iff now later index other, fun low high low' high' apart => ?_⟩
  rcases Int.lt_or_lt_of_ne apart with onward | back
  · have order : now < later := Int.not_le.mp fun back => absurd (second_of_mono later now back) (by omega)
    exact ⟨fun _ => order, fun _ => fragment_name_lt now later index other low high' onward⟩
  · have order : later < now := Int.not_le.mp fun onward => absurd (second_of_mono now later onward) (by omega)
    have names := fragment_name_lt later now other index low' high back
    exact ⟨fun less => absurd less (List.lt_asymm names), fun less => absurd less (Int.lt_asymm order)⟩

theorem fragment_names_identify_and_order_march :
    fragmentName (-2203891200001) 10 = "1900-02-28--23-59-59[10].mp4" ∧
      fragmentName (-2203891200000) 9 = "1900-03-01--00-00-00[9].mp4" ∧
      encodeUtf8 (fragmentName (-2203891200001) 10) < encodeUtf8 (fragmentName (-2203891200000) 9) := by
  refine ⟨by decide +kernel, by decide +kernel, ?_⟩
  exact ((fragment_names_identify_and_order _ _ 10 9).2 (by decide) (by decide) (by decide) (by decide)
    (by decide)).mpr (by decide)

end CameraServer.Recording
