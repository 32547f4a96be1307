import CameraServer.Accounts.Table

/-!
What the user table says. Main statement: the look-up of a name answers with the first full row of that name
below the first line that says anything, if that line names the columns and every line up to the row is text.
-/

set_option autoImplicit false

namespace CameraServer.Accounts

open CameraServer.Text

-- The first item that is wanted, with those behind it; all in front of it are passed over.
def First {α : Type} (passed : α → Prop) (wanted : α → List α → Prop) (items : List α) : Prop :=
  ∃ before item after, items = before ++ item :: after ∧ (∀ other ∈ before, passed other) ∧ wanted item after

theorem first_nil {α : Type} (passed : α → Prop) (wanted : α → List α → Prop) : ¬ First passed wanted [] := by
  rintro ⟨before, item, after, whole, _⟩
  simp at whole

theorem first_cons {α : Type} (passed : α → Prop) (wanted : α → List α → Prop) (item : α) (rest : List α) :
    First passed wanted (item :: rest) ↔ wanted item rest ∨ passed item ∧ First passed wanted rest := by
  constructor
  · rintro ⟨before, found, after, whole, skipped, here⟩
    cases before with
    | nil =>
        simp only [List.nil_append, List.cons.injEq] at whole
        obtain ⟨rfl, rfl⟩ := whole
        exact .inl here
    | cons next before =>
        simp only [List.cons_append, List.cons.injEq] at whole
        obtain ⟨rfl, rfl⟩ := whole
        have others : ∀ other ∈ before, passed other := fun other member => skipped other (by simp [member])
        exact .inr ⟨skipped item (by simp), before, found, after, rfl, others, here⟩
  · rintro (here | ⟨skip, before, found, after, rfl, skipped, here⟩)
    · exact ⟨[], item, rest, rfl, by simp, here⟩
    · refine ⟨item :: before, found, after, rfl, ?_, here⟩
      intro y member
      rcases List.mem_cons.mp member with rfl | inside
      · exact skip
      · exact skipped y inside

/-! ### Lines -/

def Silent (bytes : Bytes) : Prop :=
  ∃ text, bytes = encodeUtf8 text ∧ isSilent (trimChars text.toList) = true

def Holds (sep : Char) (bytes : Bytes) (row : List String) : Prop :=
  ∃ text, bytes = encodeUtf8 text ∧ isSilent (trimChars text.toList) = false ∧ row = fields sep (trimChars text.toList)

theorem decoded_iff (bytes : Bytes) (text : String) : decodeUtf8? bytes = some text ↔ bytes = encodeUtf8 text := by
  constructor
  · exact encode_of_decode_utf8 bytes text
  · rintro rfl
    exact decode_encode_utf8 text

theorem silent_decoded (bytes : Bytes) :
    Silent bytes ↔ ∃ text, decodeUtf8? bytes = some text ∧ isSilent (trimChars text.toList) = true := by
  simp only [Silent, decoded_iff]

theorem holds_decoded (sep : Char) (bytes : Bytes) (row : List String) :
    Holds sep bytes row ↔ ∃ text, decodeUtf8? bytes = some text ∧ isSilent (trimChars text.toList) = false ∧
      row = fields sep (trimChars text.toList) := by
  simp only [Holds, decoded_iff]

/-! ### Columns -/

def FirstNamed (names : List String) (name : String) (column : Nat) : Prop :=
  ∃ inside : column < names.length, lower names[column] = lower name ∧
    ∀ other (earlier : other < column), lower names[other] ≠ lower name

structure Names (names : List String) (cols : Columns) : Prop where
  username : FirstNamed names "username" cols.username
  password : FirstNamed names "password" cols.password
  role : FirstNamed names "role" cols.role

structure Shows (cols : Columns) (row : List String) (account : Account) : Prop where
  username : row[cols.username]? = some account.username
  password : row[cols.password]? = some account.password
  role : row[cols.role]? = some account.role

theorem column_some_iff (names : List String) (name : String) (column : Nat) :
    column? names name = some column ↔ FirstNamed names name column := by
  rw [column?, List.findIdx?_eq_some_iff_getElem, FirstNamed]
  simp [sameLetters]

theorem columns_some_iff (names : List String) (cols : Columns) : columns? names = some cols ↔ Names names cols := by
  simp only [columns?, Option.bind_eq_bind, Option.bind_eq_some_iff, column_some_iff]
  constructor
  · rintro ⟨username, first, password, second, role, third, made⟩
    cases made
    exact ⟨first, second, third⟩
  · rintro ⟨first, second, third⟩
    exact ⟨cols.username, first, cols.password, second, cols.role, third, rfl⟩

theorem account_some_iff (cols : Columns) (row : List String) (account : Account) :
    account? cols row = some account ↔ Shows cols row account := by
  simp only [account?, Option.bind_eq_bind, Option.bind_eq_some_iff]
  constructor
  · rintro ⟨username, first, password, second, role, third, made⟩
    cases made
    exact ⟨first, second, third⟩
  · rintro ⟨first, second, third⟩
    exact ⟨account.username, first, account.password, second, account.role, third, rfl⟩

/-! ### The search -/

def Passed (sep : Char) (cols : Columns) (name : String) (bytes : Bytes) : Prop :=
  Silent bytes ∨ ∃ row, Holds sep bytes row ∧ ∀ account, Shows cols row account → account.username ≠ name

def Lists (sep : Char) (table : Bytes) (account : Account) : Prop :=
  First Silent
    (fun header below => ∃ names cols, Holds sep header names ∧ Names names cols ∧
      First (Passed sep cols account.username) (fun line _ => ∃ row, Holds sep line row ∧ Shows cols row account) below)
    (lines table)

theorem search_rows_some_iff (sep : Char) (name : String) (cols : Columns) (below : List Bytes) (account : Account) :
    searchRows sep name cols below = some account ↔ account.username = name ∧
      First (Passed sep cols name) (fun line _ => ∃ row, Holds sep line row ∧ Shows cols row account) below := by
  induction below with
  | nil => simp [searchRows, first_nil]
  | cons bytes rest ih =>
      simp only [first_cons, searchRows, Passed, silent_decoded bytes, holds_decoded sep bytes]
      cases decodeUtf8? bytes with
      | none => simp
      | some text =>
          have shown := account_some_iff cols (fields sep (trimChars text.toList))
          cases silent : isSilent (trimChars text.toList) with
          | true => simp [silent, ih]
          | false =>
              cases described : account? cols (fields sep (trimChars text.toList)) with
              | none => simp [silent, described, ih, ← shown]
              | some found =>
                  by_cases same : found.username = name
                  · simp [silent, described, same, ← shown]
                    rintro rfl
                    exact same
                  · simp [silent, described, same, ih, ← shown]
                    rintro own rfl
                    exact absurd own same

theorem search_lines_some_iff (sep : Char) (name : String) (table : List Bytes) (account : Account) :
    searchLines sep name table = some account ↔ account.username = name ∧
      First Silent
        (fun header below => ∃ names cols, Holds sep header names ∧ Names names cols ∧
          First (Passed sep cols name) (fun line _ => ∃ row, Holds sep line row ∧ Shows cols row account) below)
        table := by
  induction table with
  | nil => simp [searchLines, first_nil]
  | cons bytes rest ih =>
      simp only [first_cons, searchLines, silent_decoded bytes, holds_decoded sep bytes]
      cases decodeUtf8? bytes with
      | none => simp
      | some text =>
          have named := columns_some_iff (fields sep (trimChars text.toList))
          cases silent : isSilent (trimChars text.toList) with
          | true => simp [silent, ih]
          | false =>
              cases columns : columns? (fields sep (trimChars text.toList)) with
              | none => simp [silent, columns, ← named]
              | some cols => simp [silent, columns, ← named, search_rows_some_iff]

theorem lookup_some_iff (sep : Char) (table : Bytes) (name : String) (account : Account) :
    lookup sep table name = some account ↔ account.username = name ∧ Lists sep table account := by
  rw [lookup, search_lines_some_iff]
  constructor
  · rintro ⟨rfl, first⟩
    exact ⟨rfl, first⟩
  · rintro ⟨rfl, first⟩
    exact ⟨rfl, first⟩

end CameraServer.Accounts
