import CameraServer.Http.Credentials
import CameraServer.Proofs.Accounts.Table
import CameraServer.Proofs.Http.Base64
import Mathlib.Data.Option.Basic

/-!
Who is let in. Main statement: authentication against a user table answers with a user exactly when the first
`Authorization` value carries the canonical form of the name and the password that the table lists.
-/

set_option autoImplicit false

namespace CameraServer.Http

open CameraServer.Text

structure Carries (value username password : String) : Prop where
  readable : ∀ c ∈ value.toList, 32 ≤ c.toNat ∧ c.toNat < 127 ∨ c = '\t'
  coded : ∃ scheme rest, trimChars value.toList = scheme ++ ' ' :: rest ∧ scheme.map lowerLetter = "basic".toList ∧
    trimChars rest = Base64.encode (encodeUtf8 (username ++ ":" ++ password))
  undivided : ':' ∉ username.toList

def Presents (values : List String) (username password : String) : Prop :=
  username ≠ "" ∧ ∃ value, values.head? = some value ∧ Carries value username password

def Confirms (table : Bytes) (username password : String) : Prop :=
  ∃ account, Accounts.Lists ',' table account ∧ account.username = username ∧ account.password = password

theorem readable_iff (value : String) :
    isReadable value = true ↔ ∀ c ∈ value.toList, 32 ≤ c.toNat ∧ c.toNat < 127 ∨ c = '\t' := by
  simp [isReadable]

theorem basic_iff (scheme : List Char) :
    sameLetters (String.ofList scheme) "basic" = true ↔ scheme.map lowerLetter = "basic".toList := by
  have plain : "basic".toList.map lowerLetter = "basic".toList := by decide
  rw [sameLetters, beq_iff_eq, lower, lower, String.ofList_inj, String.toList_ofList, plain]

theorem divided_iff (decoded username password : String) :
    (∃ before after, cut? ':' decoded.toList = some (before, after) ∧
      Credentials.mk (String.ofList before) (String.ofList after) = ⟨username, password⟩) ↔
    decoded = username ++ ":" ++ password ∧ ':' ∉ username.toList := by
  simp only [cut_some_iff]
  constructor
  · rintro ⟨before, after, ⟨whole, absent⟩, made⟩
    cases made
    refine ⟨?_, by simpa using absent⟩
    rw [← String.toList_inj, whole]
    simp
  · rintro ⟨rfl, absent⟩
    exact ⟨username.toList, password.toList, ⟨by simp, absent⟩, by simp⟩

theorem parse_some_iff (value username password : String) :
    Credentials.parse? value = some ⟨username, password⟩ ↔ Carries value username password := by
  simp only [Credentials.parse?, Option.bind_eq_bind, Option.bind_eq_some_iff, Prod.exists, Option.guard_eq_some',
    cut_some_iff ' ', readable_iff, basic_iff, Base64.decode_some_iff, Accounts.decoded_iff]
  constructor
  · rintro ⟨_, readable, scheme, rest, ⟨cut, _⟩, _, basic, bytes, coded, decoded, rfl, before, after, divided, made⟩
    obtain ⟨rfl, undivided⟩ := (divided_iff decoded username password).mp ⟨before, after, divided, Option.some.inj made⟩
    exact ⟨readable, ⟨scheme, rest, cut, basic, coded⟩, undivided⟩
  · rintro ⟨readable, ⟨scheme, rest, cut, basic, coded⟩, undivided⟩
    have absent : ' ' ∉ scheme := by
      intro member
      have kept : ' ' ∈ "basic".toList := by
        rw [← basic]
        exact List.mem_map.mpr ⟨' ', member, by decide⟩
      revert kept
      decide
    obtain ⟨before, after, divided, made⟩ := (divided_iff _ username password).mpr ⟨rfl, undivided⟩
    exact ⟨(), readable, scheme, rest, ⟨cut, absent⟩, (), basic, _, coded, _, rfl, before, after, divided,
      congrArg some made⟩

theorem header_some_iff (values : List String) (username password : String) :
    Credentials.ofHeader? values = some ⟨username, password⟩ ↔
      ∃ value, values.head? = some value ∧ Carries value username password := by
  simp only [Credentials.ofHeader?, Option.bind_eq_some_iff, parse_some_iff]

theorem presents_iff (values : List String) (username password : String) :
    Presents values username password ↔
      username ≠ "" ∧ Credentials.ofHeader? values = some ⟨username, password⟩ := by
  rw [Presents, header_some_iff]

theorem presents_unique (values : List String) (username password other secret : String)
    (one : Presents values username password) (two : Presents values other secret) :
    other = username ∧ secret = password := by
  have first := ((presents_iff values username password).mp one).2
  have same := ((presents_iff values other secret).mp two).2.symm.trans first
  cases same
  exact ⟨rfl, rfl⟩

theorem confirms_iff (table : Bytes) (username password : String) :
    Confirms table username password ↔
      ∃ account, Accounts.lookup ',' table username = some account ∧ account.password = password := by
  simp only [Confirms, Accounts.lookup_some_iff, and_left_comm, and_assoc]

/-! ### The three answers -/

section Answers

variable (table : Bytes) (values : List String)

theorem authenticate_missing (absent : ∀ username password, ¬ Presents values username password) :
    authenticate (Accounts.lookup ',' table) values = .error .missingCredentials := by
  rw [authenticate]
  cases header : Credentials.ofHeader? values with
  | none => rfl
  | some credentials =>
      by_cases nameless : credentials.username = ""
      · simp [nameless]
      · exact absurd ((presents_iff values _ _).mpr ⟨nameless, header⟩) (absent _ _)

variable (username password : String) (presented : Presents values username password)

include presented

theorem authenticate_confirmed (confirmed : Confirms table username password) :
    authenticate (Accounts.lookup ',' table) values = .ok username := by
  obtain ⟨named, header⟩ := (presents_iff values username password).mp presented
  obtain ⟨account, found, right⟩ := (confirms_iff table username password).mp confirmed
  simp [authenticate, header, named, found, right]

theorem authenticate_denied (denied : ¬ Confirms table username password) :
    authenticate (Accounts.lookup ',' table) values = .error (.unauthorized username) := by
  obtain ⟨named, header⟩ := (presents_iff values username password).mp presented
  rw [confirms_iff] at denied
  cases found : Accounts.lookup ',' table username with
  | none => simp [authenticate, header, named, found]
  | some account =>
      have wrong : account.password ≠ password := fun right => denied ⟨account, found, right⟩
      simp [authenticate, header, named, found, wrong]

end Answers

theorem authentication_exact (table : Bytes) (values : List String) :
    (∀ username, authenticate (Accounts.lookup ',' table) values = .ok username ↔
      ∃ password, Presents values username password ∧ Confirms table username password) ∧
    (∀ username, authenticate (Accounts.lookup ',' table) values = .error (.unauthorized username) ↔
      ∃ password, Presents values username password ∧ ¬ Confirms table username password) ∧
    (authenticate (Accounts.lookup ',' table) values = .error .missingCredentials ↔
      ∀ username password, ¬ Presents values username password) := by
  by_cases present : ∃ username password, Presents values username password
  · obtain ⟨name, secret, presented⟩ := present
    have present : ¬ ∀ username password, ¬ Presents values username password :=
      fun absent => absent name secret presented
    have told (judged : String → String → Prop) (username : String) :
        (∃ password, Presents values username password ∧ judged username password) ↔
          name = username ∧ judged name secret := by
      constructor
      · rintro ⟨password, other, judgement⟩
        obtain ⟨rfl, rfl⟩ := presents_unique values username password name secret other presented
        exact ⟨rfl, judgement⟩
      · rintro ⟨rfl, judgement⟩
        exact ⟨secret, presented, judgement⟩
    simp only [told (Confirms table), told fun username password => ¬ Confirms table username password]
    by_cases confirmed : Confirms table name secret
    · simp [authenticate_confirmed table values name secret presented confirmed, confirmed, present]
    · simp [authenticate_denied table values name secret presented confirmed, confirmed, present]
  · have absent : ∀ username password, ¬ Presents values username password := by
      intro username password presented
      exact present ⟨username, password, presented⟩
    simp [authenticate_missing table values absent, absent]

-- A row that is too short is passed over, the columns may stand anywhere, and a password may have colons.
def viewers : Bytes :=
  encodeUtf8 "role,Password,USERNAME\n# viewers\nviewer\nviewer,a:b,alice\nviewer,c,alice"

theorem authentication_exact_viewers :
    (∃ password, Presents ["bAsIc  YWxpY2U6YTpi "] "alice" password ∧ Confirms viewers "alice" password) ∧
      (∃ password, Presents ["Basic YWxpY2U6Yw=="] "alice" password ∧ ¬ Confirms viewers "alice" password) ∧
      ∀ username password, ¬ Presents ["Bearer YWxpY2U6YTpi"] username password := by
  obtain ⟨accepted, _, _⟩ := authentication_exact viewers ["bAsIc  YWxpY2U6YTpi "]
  obtain ⟨_, denied, _⟩ := authentication_exact viewers ["Basic YWxpY2U6Yw=="]
  obtain ⟨_, _, missing⟩ := authentication_exact viewers ["Bearer YWxpY2U6YTpi"]
  exact ⟨(accepted "alice").mp rfl, (denied "alice").mp rfl, missing.mp rfl⟩

end CameraServer.Http
