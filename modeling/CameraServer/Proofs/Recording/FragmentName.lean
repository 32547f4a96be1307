import CameraServer.Proofs.Calendar
import CameraServer.Proofs.Disk.Path
import CameraServer.Proofs.Text.Numeral
import CameraServer.Recording.FragmentName

/-!
Names of fragments tell fragments apart. Main statements: a name is given to one second and one index only,
and paths that end in such names are different when the names are.
-/

set_option autoImplicit false

namespace CameraServer.Recording

open Calendar Text

/-! ### Dates and times of day -/

theorem year_chars_injective (a b : Int) (same : yearChars a = yearChars b) : a = b := by
  have unsigned (sign : Char) (other : sign.isDigit = false) (n m : Nat) : sign :: padded 4 n ≠ padded 4 m := by
    intro equal
    have digit := padded_digits 4 m sign (by rw [← equal]; simp)
    rw [other] at digit
    cases digit
  have signed (c : Int) : (if c < 0 then '-' else '+').isDigit = false := by
    split <;> decide
  rw [yearChars, yearChars] at same
  by_cases plain : 0 ≤ a ∧ a ≤ 9999
  · by_cases plain' : 0 ≤ b ∧ b ≤ 9999
    · rw [if_pos plain, if_pos plain'] at same
      have digits := padded_injective 4 _ _ same
      omega
    · rw [if_pos plain, if_neg plain'] at same
      exact absurd same.symm (unsigned _ (signed b) _ _)
  · by_cases plain' : 0 ≤ b ∧ b ≤ 9999
    · rw [if_neg plain, if_pos plain'] at same
      exact absurd same (unsigned _ (signed a) _ _)
    · rw [if_neg plain, if_neg plain'] at same
      obtain ⟨sign, digits⟩ := List.cons.inj same
      have digits := padded_injective 4 _ _ digits
      by_cases negative : a < 0 <;> by_cases negative' : b < 0 <;> simp [negative, negative'] at sign <;> omega

def stamp (t : CivilTime) : List Char :=
  dateChars t ++ '-' :: '-' :: clockChars t

theorem padded_two_append (a b : Nat) (x y : List Char) (small : a < 100) (small' : b < 100)
    (same : padded 2 a ++ x = padded 2 b ++ y) : a = b ∧ x = y := by
  have short := padded_length 2 a (by decide) small
  have short' := padded_length 2 b (by decide) small'
  obtain ⟨front, back⟩ := List.append_inj same (short.trans short'.symm)
  exact ⟨padded_injective 2 a b front, back⟩

structure TwoDigits (t : CivilTime) : Prop where
  month : t.month < 100
  day : t.day < 100
  hour : t.hour < 100
  minute : t.minute < 100
  second : t.second < 100

theorem civil_time_two_digits (now : Instant) : TwoDigits (civilTime now) := by
  have bounds := civil_of_days_bounds ((secondOf now).fdiv 86400)
  have day := (second_parts (secondOf now)).2
  constructor <;> simp only [civilTime] <;> omega

theorem stamp_injective (s t : CivilTime) (short : TwoDigits s) (short' : TwoDigits t) (same : stamp s = stamp t) :
    s = t := by
  have lengths (u : CivilTime) (short : TwoDigits u) :
      ('-' :: padded 2 u.month ++ '-' :: padded 2 u.day ++ '-' :: '-' :: clockChars u).length = 16 := by
    have two (n : Nat) (small : n < 100) : (padded 2 n).length = 2 := padded_length 2 n (by decide) small
    simp [clockChars, two _ short.month, two _ short.day, two _ short.hour, two _ short.minute, two _ short.second]
  have parted (u : CivilTime) :
      stamp u = yearChars u.year ++
        ('-' :: padded 2 u.month ++ '-' :: padded 2 u.day ++ '-' :: '-' :: clockChars u) := by
    simp [stamp, dateChars]
  rw [parted, parted] at same
  obtain ⟨year, rest⟩ := List.append_inj' same ((lengths s short).trans (lengths t short').symm)
  simp only [clockChars, List.cons_append, List.append_assoc, List.cons.injEq, true_and] at rest
  obtain ⟨month, rest⟩ := padded_two_append _ _ _ _ short.month short'.month rest
  simp only [List.cons.injEq, true_and] at rest
  obtain ⟨day, rest⟩ := padded_two_append _ _ _ _ short.day short'.day rest
  simp only [List.cons.injEq, true_and] at rest
  obtain ⟨hour, rest⟩ := padded_two_append _ _ _ _ short.hour short'.hour rest
  simp only [List.cons.injEq, true_and] at rest
  obtain ⟨minute, rest⟩ := padded_two_append _ _ _ _ short.minute short'.minute rest
  simp only [List.cons.injEq, true_and] at rest
  have second := padded_injective 2 _ _ rest
  cases s
  cases t
  simp only at month day hour minute second year
  rw [year_chars_injective _ _ year, month, day, hour, minute, second]

/-! ### Whole names -/

theorem stamp_chars (t : CivilTime) (c : Char) (member : c ∈ stamp t) : c.isDigit = true ∨ c = '-' ∨ c = '+' := by
  have digits (width n : Nat) (here : c ∈ padded width n) : c.isDigit = true ∨ c = '-' ∨ c = '+' :=
    .inl (padded_digits width n c here)
  simp only [stamp, dateChars, clockChars, yearChars, List.append_assoc, List.cons_append, List.mem_append,
    List.mem_cons] at member
  rcases member with year | dash | month | dash | day | dash | dash | hour | dash | minute | dash | second
  · split at year
    · exact digits _ _ year
    · rcases List.mem_cons.mp year with rfl | digit
      · split <;> simp
      · exact digits _ _ digit
  all_goals first
    | exact .inr (.inl dash)
    | exact digits _ _ ‹_›

theorem fragment_chars (now : Instant) (index : Nat) :
    fragmentChars now index = stamp (civilTime now) ++ '[' :: (Nat.toDigits 10 index ++ "].mp4".toList) := by
  simp [fragmentChars, stamp]

theorem fragment_name_same_iff (now later : Instant) (index other : Nat) :
    fragmentName now index = fragmentName later other ↔ secondOf now = secondOf later ∧ index = other := by
  have absent (t : CivilTime) : '[' ∉ stamp t := by
    intro member
    rcases stamp_chars t _ member with digit | dash | plus
    · revert digit
      decide
    · cases dash
    · cases plus
  rw [fragmentName, fragmentName, String.ofList_inj, fragment_chars, fragment_chars]
  constructor
  · intro same
    have cut := cut_append '[' _ (Nat.toDigits 10 index ++ "].mp4".toList) (absent (civilTime now))
    rw [same, cut_append '[' _ _ (absent (civilTime later))] at cut
    simp only [Option.some.injEq, Prod.mk.injEq] at cut
    have times := stamp_injective _ _ (civil_time_two_digits later) (civil_time_two_digits now) cut.1
    have digits := List.append_cancel_right cut.2
    refine ⟨(civil_time_same_iff now later).mp times.symm, ?_⟩
    rw [← Nat.ofDigitChars_ten_toDigits (n := index), ← digits, Nat.ofDigitChars_ten_toDigits]
  · rintro ⟨second, rfl⟩
    rw [(civil_time_same_iff now later).mpr second]

/-! ### Places of fragments -/

theorem fragment_name_plain (now : Instant) (index : Nat) : FilePath.Plain (fragmentName now index) := by
  have long : 5 ≤ (fragmentName now index).toList.length := by
    simp [fragmentName, fragment_chars]
    omega
  refine ⟨?_, ?_, ?_⟩
  · intro member
    simp only [fragmentName, String.toList_ofList, fragment_chars, List.mem_append, List.mem_cons] at member
    rcases member with stamped | bracket | digit | ending
    · rcases stamp_chars _ _ stamped with digit | dash | plus
      · revert digit
        decide
      · cases dash
      · cases plus
    · cases bracket
    · have digit := Nat.isDigit_of_mem_toDigits (by decide) (by decide) digit
      revert digit
      decide
    · revert ending
      decide
  · simp only [FilePath.isIdle, Bool.or_eq_false_iff, decide_eq_false_iff_not]
    refine ⟨fun empty => ?_, fun dot => ?_⟩
    · simp [empty] at long
    · simp [dot] at long
  · intro dots
    simp [dots] at long

def Named (now : Instant) (index : Nat) (path : FilePath) : Prop :=
  ∃ dir : FilePath, path = dir.join ⟨fragmentName now index⟩

theorem named_apart (now later : Instant) (index other : Nat) (p q : FilePath) (first : Named now index p)
    (second : Named later other q) (same : p.same q = true) : secondOf now = secondOf later ∧ index = other := by
  obtain ⟨dir, rfl⟩ := first
  obtain ⟨dir', rfl⟩ := second
  have names := FilePath.same_file_name _ _ same
  rw [FilePath.file_name_join _ _ (fragment_name_plain now index),
    FilePath.file_name_join _ _ (fragment_name_plain later other), Option.some.injEq] at names
  exact (fragment_name_same_iff now later index other).mp names

end CameraServer.Recording
