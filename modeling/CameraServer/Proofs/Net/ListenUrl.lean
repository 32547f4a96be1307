import CameraServer.Net.ListenUrl
import CameraServer.Proofs.Net.Address
import CameraServer.Proofs.Text.Split

/-!
Printed listen addresses. Main statement: the printed form of an address is read back as that address, with
blanks around it and slashes behind it as well, and so two addresses print alike only if they are equal.
-/

set_option autoImplicit false

namespace CameraServer.Net

open CameraServer.Text

theorem digit_visible (c : Char) (digit : isDigitIn 10 c = true) : isBlank c = false ∧ c ≠ '/' := by
  obtain ⟨low, high⟩ := decimal_digit c digit
  constructor
  · simp only [isBlank, Bool.or_eq_false_iff, Bool.and_eq_false_iff, decide_eq_false_iff_not, beq_eq_false_iff_ne]
    omega
  · rintro rfl
    exact absurd low (by decide)

theorem chars_last (address : SocketAddress) : ∃ c, address.chars.getLast? = some c ∧ isDigitIn 10 c = true := by
  obtain ⟨front, port, ending⟩ : ∃ front, ∃ port : UInt16, address.chars = front ++ Nat.toDigits 10 port.toNat := by
    cases address with
    | v4 ip port => exact ⟨ip.chars ++ [':'], port, by simp [SocketAddress.chars]⟩
    | v6 ip scope port =>
        exact ⟨'[' :: ip.chars ++ scopeChars scope ++ [']', ':'], port, by simp [SocketAddress.chars]⟩
  have some : Nat.toDigits 10 port.toNat ≠ [] := Nat.toDigits_ne_nil
  refine ⟨(Nat.toDigits 10 port.toNat).getLast some, ?_, ?_⟩
  · rw [ending, List.getLast?_append_of_ne_nil _ some, List.getLast?_eq_some_getLast some]
  · exact printed_digits 10 (by decide) (by decide) _ _ (List.getLast_mem some)

namespace ListenUrl

theorem scheme_read (scheme : Scheme) (rest : List Char) :
    schemeAndRest? (scheme.name.toList ++ "://".toList ++ rest) = some (scheme, rest) := by
  cases scheme <;> rfl

theorem scheme_visible (scheme : Scheme) (rest : List Char) :
    ∀ c ∈ (scheme.name.toList ++ "://".toList ++ rest).head?, isBlank c = false := by
  cases scheme <;> simp [Scheme.name] <;> decide

theorem slashed_visible (address : SocketAddress) (front slashes : List Char) (slash : ∀ c ∈ slashes, c = '/') :
    ∀ c ∈ (front ++ (address.chars ++ slashes)).getLast?, isBlank c = false := by
  obtain ⟨d, last, digit⟩ := chars_last address
  intro c ending
  rw [← List.append_assoc, List.getLast?_append, List.getLast?_append, last] at ending
  cases behind : slashes.getLast? with
  | none =>
      have same : d = c := by simpa [behind] using ending
      exact same ▸ (digit_visible d digit).1
  | some s =>
      have same : s = c := by simpa [behind] using ending
      rw [← same, slash s (List.mem_of_getLast? behind)]
      decide

theorem parse_padded (a : ListenUrl) (before slashes after : List Char)
    (blank : ∀ c ∈ before ++ after, isBlank c = true) (slash : ∀ c ∈ slashes, c = '/') :
    parse (String.ofList (before ++ (a.text.toList ++ slashes) ++ after)) = .ok a := by
  have parts : a.text.toList ++ slashes = a.scheme.name.toList ++ "://".toList ++ (a.address.chars ++ slashes) := by
    rw [text, String.toList_ofList, List.append_assoc]
  have bare : trimChars (before ++ (a.text.toList ++ slashes) ++ after) =
      a.scheme.name.toList ++ "://".toList ++ (a.address.chars ++ slashes) := by
    rw [trim_trail after _ fun c inside => blank c (List.mem_append_right _ inside),
      trim_lead before _ fun c inside => blank c (List.mem_append_left _ inside), parts]
    exact trim_same _ (scheme_visible a.scheme _) (slashed_visible a.address _ slashes slash)
  obtain ⟨d, last, digit⟩ := chars_last a.address
  have address : dropWhileEnd (· == '/') (a.address.chars ++ slashes) = a.address.chars :=
    drop_trail _ _ slashes (by simpa using slash) (by simp [last, (digit_visible d digit).2])
  simp only [parse, String.toList_ofList, bare, scheme_read, address, parse_printed]

theorem listen_url_survives_printing (url : String) (a : ListenUrl) (read : parse url = .ok a) :
    parse a.text = parse url ∧ (parse a.text).map text = .ok a.text ∧
      (∀ before slashes after, (∀ c ∈ before ++ after, isBlank c = true) → (∀ c ∈ slashes, c = '/') →
        parse (String.ofList (before ++ (a.text.toList ++ slashes) ++ after)) = .ok a) ∧
      ∀ other b, parse other = .ok b → (b.text = a.text ↔ b = a) := by
  have back (a : ListenUrl) : parse a.text = .ok a := by
    have bare := parse_padded a [] [] [] (by simp) (by simp)
    simpa using bare
  refine ⟨(back a).trans read.symm, by rw [back a]; rfl, parse_padded a,
    fun other b _ => ⟨fun same => ?_, fun same => same ▸ rfl⟩⟩
  have both : Except.ok b = (Except.ok a : Except ListenError ListenUrl) := by rw [← back b, same, back a]
  exact Except.ok.inj both

theorem listen_url_survives_printing_mapped :
    ∃ a, parse "\t https://[0:0::FFFF:1.2.3.4%007]:0443/// " = .ok a ∧ a.text = "https://[::ffff:1.2.3.4%7]:443" ∧
      parse a.text = .ok a := by
  have read : parse "\t https://[0:0::FFFF:1.2.3.4%007]:0443/// " =
      .ok ⟨.https, .v6 ⟨[0, 0, 0, 0, 0, 65535, 258, 772], rfl⟩ 7 443⟩ := rfl
  exact ⟨_, read, by decide +kernel, (listen_url_survives_printing _ _ read).1.trans read⟩

end ListenUrl

end CameraServer.Net
