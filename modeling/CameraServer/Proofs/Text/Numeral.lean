import CameraServer.Text.Numeral
import Mathlib.Algebra.Group.Nat.Defs

/-!
Printed numerals. Main statements: the digits of a number have its value, in every radix up to 16, and a
reader that takes a run of digits finds them in front of whatever is no digit; and among numerals of one
width the smaller number comes first.
-/

set_option autoImplicit false

namespace CameraServer.Text

/-! ### Digits that are read back -/

theorem digit_value_printed (radix d : Nat) (narrow : radix ≤ 16) (small : d < radix) :
    digitValue? radix (Nat.digitChar d) = some d := by
  have every : ∀ d < 16, hexValue? (Nat.digitChar d) = some d := by decide
  rw [digitValue?, every d (by omega)]
  simp [small]

theorem decimal_digit (c : Char) (digit : isDigitIn 10 c = true) : 48 ≤ c.toNat ∧ c.toNat ≤ 57 := by
  rw [isDigitIn, digitValue?, hexValue?] at digit
  split at digit
  · assumption
  · exfalso
    revert digit
    split
    · simp [Option.filter]
      omega
    · split
      · simp [Option.filter]
        omega
      · simp

section Radix

variable (radix : Nat) (wide : 1 < radix)

include wide

theorem printed_induction (motive : Nat → List Char → Prop)
    (one : ∀ d, d < radix → motive d [Nat.digitChar d])
    (more : ∀ n, radix ≤ n → motive (n / radix) (Nat.toDigits radix (n / radix)) →
      motive n (Nat.toDigits radix (n / radix) ++ [Nat.digitChar (n % radix)])) (n : Nat) :
    motive n (Nat.toDigits radix n) := by
  induction n using Nat.strongRecOn with
  | ind n ih =>
      by_cases small : n < radix
      · rw [Nat.toDigits_of_lt_base small]
        exact one n small
      · rw [Nat.toDigits_of_base_le wide (by omega)]
        exact more n (by omega) (ih (n / radix) (Nat.div_lt_self (by omega) wide))

theorem printed_value (narrow : radix ≤ 16) (n : Nat) : digitsValue radix (Nat.toDigits radix n) = n := by
  apply printed_induction radix wide (fun n digits => digitsValue radix digits = n)
  · intro d small
    simp [digitsValue, digit_value_printed radix d narrow small]
  · intro n _ ih
    have last := digit_value_printed radix (n % radix) narrow (Nat.mod_lt n (by omega))
    rw [digitsValue, List.foldl_append, ← digitsValue, ih]
    simp [last, Nat.div_add_mod']

theorem printed_digits (narrow : radix ≤ 16) (n : Nat) :
    ∀ c ∈ Nat.toDigits radix n, isDigitIn radix c = true := by
  have digit : ∀ d, d < radix → isDigitIn radix (Nat.digitChar d) = true := by
    intro d small
    rw [isDigitIn, digit_value_printed radix d narrow small]
    rfl
  apply printed_induction radix wide (fun _ digits => ∀ c ∈ digits, isDigitIn radix c = true)
  · intro d small
    simpa using digit d small
  · intro n _ ih c member
    rcases List.mem_append.mp member with front | last
    · exact ih c front
    · rw [List.mem_singleton.mp last]
      exact digit _ (Nat.mod_lt n (by omega))

theorem printed_head (n : Nat) (many : 1 < (Nat.toDigits radix n).length) :
    (Nat.toDigits radix n).head? ≠ some '0' := by
  have positive : ∀ n, 0 < n → (Nat.toDigits radix n).head? ≠ some '0' := by
    apply printed_induction radix wide (fun n digits => 0 < n → digits.head? ≠ some '0')
    · intro d _ some
      simpa using Nat.ne_of_gt some
    · intro n large ih _
      have front := ih (Nat.div_pos large (by omega))
      cases digits : Nat.toDigits radix (n / radix) with
      | nil => exact absurd digits Nat.toDigits_ne_nil
      | cons c rest => simpa [digits] using front
  apply positive n (Nat.pos_of_ne_zero _)
  rintro rfl
  rw [Nat.toDigits_zero] at many
  exact absurd many (by decide)

end Radix

def Stops (radix : Nat) (rest : List Char) : Prop := ∀ c ∈ rest.head?, isDigitIn radix c = false

theorem take_digits (radix : Nat) (digits rest : List Char) (all : ∀ c ∈ digits, isDigitIn radix c = true)
    (stops : Stops radix rest) : (digits ++ rest).takeWhile (isDigitIn radix) = digits := by
  rw [List.takeWhile_append_of_pos all]
  cases rest with
  | nil => simp
  | cons c rest => simp [stops c rfl]

theorem drop_digits (radix : Nat) (digits rest : List Char) (all : ∀ c ∈ digits, isDigitIn radix c = true)
    (stops : Stops radix rest) : (digits ++ rest).dropWhile (isDigitIn radix) = rest := by
  rw [List.dropWhile_append_of_pos all]
  cases rest with
  | nil => rfl
  | cons c rest => simp [stops c rfl]

/-! ### Numerals of a fixed width -/

theorem padded_value (width n : Nat) : Nat.ofDigitChars 10 (padded width n) 0 = n := by
  rw [padded, Nat.ofDigitChars_append, Nat.ofDigitChars_replicate_zero, Nat.mul_zero,
    Nat.ofDigitChars_toDigits (by decide) (by decide)]

theorem padded_injective (width m n : Nat) (same : padded width m = padded width n) : m = n := by
  rw [← padded_value width m, same, padded_value]

theorem padded_digits (width n : Nat) (c : Char) (member : c ∈ padded width n) : c.isDigit = true := by
  rcases List.mem_append.mp member with filled | digit
  · rw [List.eq_of_mem_replicate filled]
    decide
  · exact Nat.isDigit_of_mem_toDigits (by decide) (by decide) digit

theorem padded_length (width n : Nat) (some : 0 < width) (small : n < 10 ^ width) :
    (padded width n).length = width := by
  have short := (Nat.length_toDigits_le_iff (by decide) some).mpr small
  rw [padded, List.length_append, List.length_replicate]
  omega

theorem digits_value_cons (c : Char) (cs : List Char) :
    Nat.ofDigitChars 10 (c :: cs) 0 = 10 ^ cs.length * (c.toNat - 48) + Nat.ofDigitChars 10 cs 0 := by
  rw [Nat.ofDigitChars_cons, Nat.ofDigitChars_eq_ofDigitChars_zero, Nat.mul_zero, Nat.zero_add]
  rfl

theorem digits_value_lt (cs : List Char) (digits : ∀ c ∈ cs, c.isDigit = true) :
    Nat.ofDigitChars 10 cs 0 < 10 ^ cs.length := by
  induction cs with
  | nil => simp
  | cons c cs ih =>
      have rest := ih fun d inside => digits d (List.mem_cons_of_mem c inside)
      have digit := digits c List.mem_cons_self
      have top : c.toNat - 48 ≤ 9 := Nat.sub_le_sub_right (Char.isDigit_iff_toNat.mp digit).2 48
      have first := Nat.mul_le_mul_left (10 ^ cs.length) top
      rw [digits_value_cons, List.length_cons, Nat.pow_succ]
      omega

-- Of two runs of equally many digits, the one with the smaller value comes first, whatever follows them.
theorem digits_lt (cs ds x y : List Char) (digits : ∀ c ∈ cs ++ ds, c.isDigit = true) (even : cs.length = ds.length)
    (less : Nat.ofDigitChars 10 cs 0 < Nat.ofDigitChars 10 ds 0) : cs ++ x < ds ++ y := by
  induction cs generalizing ds with
  | nil =>
      rw [List.length_eq_zero_iff.mp even.symm] at less
      exact absurd less (Nat.lt_irrefl _)
  | cons c cs ih =>
      cases ds with
      | nil => simp at even
      | cons d ds =>
          have even : cs.length = ds.length := by simpa using even
          have low := digits_value_lt ds fun e inside => digits e (by simp [inside])
          have first := (Char.isDigit_iff_toNat.mp (digits c (by simp))).1
          have second := (Char.isDigit_iff_toNat.mp (digits d (by simp))).1
          rw [digits_value_cons, digits_value_cons, even] at less
          rw [List.cons_append, List.cons_append, List.cons_lt_cons_iff]
          rcases Nat.lt_trichotomy c.toNat d.toNat with smaller | same | larger
          · exact .inl smaller
          · refine .inr ⟨Char.toNat_inj.mp same, ih ds (fun e inside => digits e ?_) even ?_⟩
            · rcases List.mem_append.mp inside with inside | inside <;> simp [inside]
            · rw [same] at less
              exact Nat.lt_of_add_lt_add_left less
          · have step := Nat.mul_le_mul_left (10 ^ ds.length) (show d.toNat - 48 + 1 ≤ c.toNat - 48 by
              simp only [Char.reduceToNat] at first second
              omega)
            rw [Nat.mul_succ] at step
            omega

theorem padded_lt (width m n : Nat) (x y : List Char) (some : 0 < width) (small : n < 10 ^ width) (less : m < n) :
    padded width m ++ x < padded width n ++ y := by
  apply digits_lt
  · intro c inside
    rcases List.mem_append.mp inside with first | second
    · exact padded_digits width m c first
    · exact padded_digits width n c second
  · rw [padded_length width m some (Nat.lt_trans less small), padded_length width n some small]
  · rwa [padded_value, padded_value]

end CameraServer.Text
