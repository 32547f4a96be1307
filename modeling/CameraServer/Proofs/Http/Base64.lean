import CameraServer.Http.Base64

/-!
Base64 is canonical. Main statement: the texts that can be read are exactly those that are written, and what
is read from one is what was written.
-/

set_option autoImplicit false

namespace CameraServer.Http.Base64

open CameraServer.Text (Bytes)

/-! ### Digits -/

theorem value_digit (n : Nat) (small : n < 64) : value? (digit n) = some n := by
  have each : ∀ n < 64, value? (digit n) = some n := by decide
  exact each n small

theorem value_some (c : Char) (n : Nat) (valued : value? c = some n) : n < 64 ∧ digit n = c := by
  simp only [value?] at valued
  have letter : ∀ m, c.toNat = m → Char.ofNat m = c := by
    rintro m rfl
    exact Char.ofNat_toNat c
  split at valued
  · cases valued
    refine ⟨by omega, ?_⟩
    rw [digit, if_pos (by omega)]
    exact letter _ (by omega)
  · split at valued
    · cases valued
      refine ⟨by omega, ?_⟩
      rw [digit, if_neg (by omega), if_pos (by omega)]
      exact letter _ (by omega)
    · split at valued
      · cases valued
        refine ⟨by omega, ?_⟩
        rw [digit, if_neg (by omega), if_neg (by omega), if_pos (by omega)]
        exact letter _ (by omega)
      · split at valued
        · next plus =>
            cases valued
            exact ⟨by omega, plus.symm⟩
        · split at valued
          · next slash =>
              cases valued
              exact ⟨by omega, slash.symm⟩
          · cases valued

theorem digit_not_padding (n : Nat) (small : n < 64) : digit n ≠ '=' := by
  intro padding
  have valued := value_digit n small
  rw [padding] at valued
  cases valued

/-! ### Bytes -/

theorem byte_of_nat (x : UInt8) (n : Nat) (same : n = x.toNat) : UInt8.ofNat n = x := by
  rw [same, UInt8.ofNat_toNat]

theorem nat_of_byte (n : Nat) (small : n < 256) : (UInt8.ofNat n).toNat = n :=
  UInt8.toNat_ofNat_of_lt' small

theorem decode_encode (bytes : Bytes) : decode? (encode bytes) = some bytes := by
  induction bytes using encode.induct with
  | case1 => rfl
  | case2 x =>
      have bound := x.toNat_lt
      rw [encode, decode?, value_digit _ (by omega), value_digit _ (by omega)]
      simp only [Option.bind_some]
      rw [if_pos (by omega), byte_of_nat x _ (by omega)]
  | case3 x y =>
      have bound := x.toNat_lt
      have bound' := y.toNat_lt
      have plain := digit_not_padding (y.toNat % 16 * 4) (by omega)
      rw [encode, decode?, value_digit _ (by omega), value_digit _ (by omega), value_digit _ (by omega)]
      · simp only [Option.bind_some]
        rw [if_pos (by omega), byte_of_nat x _ (by omega), byte_of_nat y _ (by omega)]
      · exact plain
  | case4 x y z rest ih =>
      have bound := x.toNat_lt
      have bound' := y.toNat_lt
      have bound'' := z.toNat_lt
      have plain := digit_not_padding (z.toNat % 64) (by omega)
      rw [encode, decode?, value_digit _ (by omega), value_digit _ (by omega), value_digit _ (by omega),
        value_digit _ (by omega), ih]
      · simp only [Option.bind_some, Option.map_some]
        rw [byte_of_nat x _ (by omega), byte_of_nat y _ (by omega), byte_of_nat z _ (by omega)]
      · exact fun _ padded _ => plain padded
      · exact fun padded _ => plain padded

theorem encode_of_decode (cs : List Char) (bytes : Bytes) (decoded : decode? cs = some bytes) : cs = encode bytes := by
  induction cs using decode?.induct generalizing bytes with
  | case1 =>
      cases decoded
      rfl
  | case2 a b =>
      rw [decode?] at decoded
      obtain ⟨m, first, more⟩ := Option.bind_eq_some_iff.mp decoded
      obtain ⟨n, second, last⟩ := Option.bind_eq_some_iff.mp more
      obtain ⟨smallA, rfl⟩ := value_some a m first
      obtain ⟨smallB, rfl⟩ := value_some b n second
      split at last
      · cases last
        have high : (m * 4 + n / 16) / 4 = m := by omega
        have low : (m * 4 + n / 16) % 4 * 16 = n := by omega
        rw [encode, nat_of_byte _ (by omega), high, low]
      · cases last
  | case3 a b c plain =>
      rw [decode?.eq_3 _ _ _ plain] at decoded
      obtain ⟨m, first, more⟩ := Option.bind_eq_some_iff.mp decoded
      obtain ⟨n, second, more'⟩ := Option.bind_eq_some_iff.mp more
      obtain ⟨k, third, last⟩ := Option.bind_eq_some_iff.mp more'
      obtain ⟨smallA, rfl⟩ := value_some a m first
      obtain ⟨smallB, rfl⟩ := value_some b n second
      obtain ⟨smallC, rfl⟩ := value_some c k third
      split at last
      · cases last
        have high : (m * 4 + n / 16) / 4 = m := by omega
        have middle : (m * 4 + n / 16) % 4 * 16 + (n % 16 * 16 + k / 4) / 16 = n := by omega
        have low : (n % 16 * 16 + k / 4) % 16 * 4 = k := by omega
        rw [encode, nat_of_byte (m * 4 + n / 16) (by omega), nat_of_byte (n % 16 * 16 + k / 4) (by omega), high,
          middle, low]
      · cases last
  | case4 a b c d rest unpadded unpadded' ih =>
      rw [decode?.eq_4 _ _ _ _ _ unpadded unpadded'] at decoded
      obtain ⟨m, first, more⟩ := Option.bind_eq_some_iff.mp decoded
      obtain ⟨n, second, more'⟩ := Option.bind_eq_some_iff.mp more
      obtain ⟨k, third, more''⟩ := Option.bind_eq_some_iff.mp more'
      obtain ⟨l, fourth, last⟩ := Option.bind_eq_some_iff.mp more''
      obtain ⟨tail, remaining, rfl⟩ := Option.map_eq_some_iff.mp last
      obtain ⟨smallA, rfl⟩ := value_some a m first
      obtain ⟨smallB, rfl⟩ := value_some b n second
      obtain ⟨smallC, rfl⟩ := value_some c k third
      obtain ⟨smallD, rfl⟩ := value_some d l fourth
      have high : (m * 4 + n / 16) / 4 = m := by omega
      have upper : (m * 4 + n / 16) % 4 * 16 + (n % 16 * 16 + k / 4) / 16 = n := by omega
      have lower : (n % 16 * 16 + k / 4) % 16 * 4 + (k % 4 * 64 + l) / 64 = k := by omega
      have low : (k % 4 * 64 + l) % 64 = l := by omega
      rw [encode, nat_of_byte (m * 4 + n / 16) (by omega), nat_of_byte (n % 16 * 16 + k / 4) (by omega),
        nat_of_byte (k % 4 * 64 + l) (by omega), high, upper, lower, low, ← ih tail remaining]
  | case5 cs empty two one group =>
      rw [decode?.eq_5 cs empty two one group] at decoded
      cases decoded

theorem decode_some_iff (cs : List Char) (bytes : Bytes) : decode? cs = some bytes ↔ cs = encode bytes := by
  constructor
  · exact encode_of_decode cs bytes
  · rintro rfl
    exact decode_encode bytes

end CameraServer.Http.Base64
