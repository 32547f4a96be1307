import Mathlib.Data.Fin.VecNotation
import Mathlib.Data.List.OfFn
import Mathlib.Logic.Equiv.Basic
import CameraServer.Proofs.Accounts.Table
import CameraServer.Proofs.Text.Split

/-!
The user table as a sheet of named columns. Main statement: the look-up answers with the first row of the name,
wherever the columns stand and whatever blank lines, comments and short rows stand between the rows.
-/

set_option autoImplicit false

namespace CameraServer.Accounts

open CameraServer.Text

/-! ### Sheets -/

structure Sheet (n : Nat) where
  header : Fin n → String
  rows : List (Fin n → String)

variable {n : Nat}

def Unmarked (cells : Fin n → String) : Prop :=
  ∀ first : Fin n, first.val = 0 → (cells first).toList.head? ≠ some '#'

namespace Sheet

structure Heads (t : Sheet n) (username password role : Fin n) : Prop where
  username : ∀ column, lower (t.header column) = "username" ↔ column = username
  password : ∀ column, lower (t.header column) = "password" ↔ column = password
  role : ∀ column, lower (t.header column) = "role" ↔ column = role

def Uncommented (t : Sheet n) : Prop :=
  ∀ cells ∈ t.header :: t.rows, Unmarked cells

def reorder (t : Sheet n) (order : Equiv.Perm (Fin n)) : Sheet n where
  header := t.header ∘ order
  rows := t.rows.map (· ∘ order)

def find? (t : Sheet n) (username password role : Fin n) (name : String) : Option Account :=
  (t.rows.map fun cells => Account.mk (cells username) (cells password) (cells role)).find? (·.username = name)

theorem heads_reordered (t : Sheet n) (username password role : Fin n) (order : Equiv.Perm (Fin n))
    (heads : t.Heads username password role) :
    (t.reorder order).Heads (order.symm username) (order.symm password) (order.symm role) where
  username column := (heads.username (order column)).trans (order.eq_symm_apply).symm
  password column := (heads.password (order column)).trans (order.eq_symm_apply).symm
  role column := (heads.role (order column)).trans (order.eq_symm_apply).symm

theorem find_reordered (t : Sheet n) (username password role : Fin n) (order : Equiv.Perm (Fin n)) (name : String) :
    (t.reorder order).find? (order.symm username) (order.symm password) (order.symm role) name =
      t.find? username password role name := by
  simp [find?, reorder, Function.comp_def]

theorem heads_apart (t : Sheet n) (username password role : Fin n) (heads : t.Heads username password role) :
    username.val ≠ password.val ∧ username.val ≠ role.val ∧ password.val ≠ role.val := by
  have first := (heads.username username).mpr rfl
  have second := (heads.password password).mpr rfl
  have third := (heads.role role).mpr rfl
  refine ⟨?_, ?_, ?_⟩
  · intro same
    simp [← Fin.ext same, first] at second
  · intro same
    simp [← Fin.ext same, first] at third
  · intro same
    simp [← Fin.ext same, second] at third

theorem heads_wide (t : Sheet n) (username password role : Fin n) (heads : t.Heads username password role) :
    2 ≤ n := by
  have apart := (t.heads_apart username password role heads).1
  omega

end Sheet

/-! ### The text of a sheet -/

def Writes (sep : Char) (cells : Fin n → String) (line : List Char) : Prop :=
  ∃ texts : Fin n → List Char, Joins sep (List.ofFn texts) line ∧
    ∀ column, String.ofList (trimChars (texts column)) = cells column

inductive Aside : List Char → Prop where
  | blank (line : List Char) (empty : ∀ c ∈ line, isBlank c = true) : Aside line
  | comment (lead rest : List Char) (empty : ∀ c ∈ lead, isBlank c = true) : Aside (lead ++ '#' :: rest)

-- The rows in their order; between them stand lines that are blank, comments, or have two fields at most.
inductive Below (sep : Char) : List (Fin n → String) → List (List Char) → Prop where
  | none : Below sep [] []
  | row (cells : Fin n → String) (rows line lines) (written : Writes sep cells line) (rest : Below sep rows lines) :
      Below sep (cells :: rows) (line :: lines)
  | aside (rows line lines) (silent : Aside line) (rest : Below sep rows lines) : Below sep rows (line :: lines)
  | short (rows line lines) (few : line.count sep ≤ 1) (rest : Below sep rows lines) : Below sep rows (line :: lines)

def Sheet.Renders (sep : Char) (t : Sheet n) (table : Bytes) : Prop :=
  ∃ text front head below, table = encodeUtf8 text ∧ Joins '\n' (front ++ head :: below) text.toList ∧
    (∀ line ∈ front, Aside line) ∧ Writes sep t.header head ∧ Below sep t.rows below

/-! ### Lines of a text -/

def encodeLine (line : List Char) : Bytes :=
  encodeUtf8 (String.ofList line)

theorem encode_line_cons (c : Char) (line : List Char) :
    encodeLine (c :: line) = String.utf8EncodeChar c ++ encodeLine line := by
  simp [encodeLine, encodeUtf8, List.utf8Encode]

theorem line_feed_encoded (c : Char) (inside : 10 ∈ String.utf8EncodeChar c) : c = '\n' := by
  have value (m : Nat) (small : m < 256) (feed : (10 : UInt8) = UInt8.ofNat m) : m = 10 := by
    have same := congrArg UInt8.toNat feed
    rw [UInt8.toNat_ofNat', Nat.mod_eq_of_lt small] at same
    exact same.symm
  simp only [String.utf8EncodeChar] at inside
  split at inside
  · next ascii =>
      exact Char.ext (UInt32.toNat_inj.mp (value _ (by omega) (List.mem_singleton.mp inside)))
  -- Every byte of a longer encoding is at least 128.
  · have high (m : Nat) (below : m < 256) (above : 128 ≤ m) : (10 : UInt8) ≠ UInt8.ofNat m := by
      intro feed
      have := value m below feed
      omega
    refine absurd inside ?_
    split
    · simp only [List.mem_cons, List.not_mem_nil, or_false, not_or]
      exact ⟨high _ (by omega) (by omega), high _ (by omega) (by omega)⟩
    · split
      · simp only [List.mem_cons, List.not_mem_nil, or_false, not_or]
        exact ⟨high _ (by omega) (by omega), high _ (by omega) (by omega), high _ (by omega) (by omega)⟩
      · simp only [List.mem_cons, List.not_mem_nil, or_false, not_or]
        exact ⟨high _ (by omega) (by omega), high _ (by omega) (by omega), high _ (by omega) (by omega),
          high _ (by omega) (by omega)⟩

theorem lines_lead (lead rest line : Bytes) (more : List Bytes) (absent : 10 ∉ lead)
    (cut : lines rest = line :: more) : lines (lead ++ rest) = (lead ++ line) :: more := by
  induction lead with
  | nil => exact cut
  | cons b lead ih =>
      simp only [List.mem_cons, not_or] at absent
      rw [List.cons_append, lines, if_neg (Ne.symm absent.1), ih absent.2]
      rfl

theorem lines_encoded (text : List Char) : lines (encodeLine text) = (splitAt '\n' text).map encodeLine := by
  induction text with
  | nil => rfl
  | cons c rest ih =>
      rw [encode_line_cons, splitAt]
      split
      · next feed =>
          subst feed
          exact congrArg ([] :: ·) ih
      · next other =>
          rcases pieces : splitAt '\n' rest with _ | ⟨piece, more⟩
          · exact absurd pieces (split_at_ne_nil '\n' rest)
          · rw [pieces] at ih
            rw [lines_lead _ _ _ _ (fun inside => other (line_feed_encoded c inside)) ih, List.map_cons,
              encode_line_cons]

/-! ### What a line says -/

theorem said_iff (line : List Char) :
    isSilent (trimChars line) = false ↔ ∃ c, (line.dropWhile isBlank).head? = some c ∧ c ≠ '#' := by
  rw [← trim_head]
  cases trimChars line with
  | nil => simp [isSilent]
  | cons c rest => simp [isSilent]

theorem aside_silent (line : List Char) (silent : Aside line) : isSilent (trimChars line) = true := by
  rw [← Bool.not_eq_false, said_iff]
  rintro ⟨c, first, other⟩
  cases silent with
  | blank _ empty => simp [List.dropWhile_eq_nil_iff.mpr empty] at first
  | comment lead rest empty =>
      have hash : isBlank '#' = false := by decide
      rw [drop_blanks lead _ empty, List.dropWhile_cons_of_neg (by simp [hash])] at first
      exact other (Option.some.inj first).symm

theorem writes_iff (sep : Char) (cells : Fin n → String) (line : List Char) :
    Writes sep cells line ↔ n ≠ 0 ∧ fields sep line = List.ofFn cells := by
  constructor
  · rintro ⟨texts, joins, trimmed⟩
    have full := joins.full
    rw [Ne, List.ofFn_eq_nil_iff] at full
    refine ⟨full, ?_⟩
    rw [fields, (split_at_iff sep line _).mpr joins, List.map_ofFn]
    exact congrArg List.ofFn (funext trimmed)
  · rintro ⟨full, same⟩
    have joins := (split_at_iff sep line _).mp rfl
    have long : (splitAt sep line).length = n := by
      simpa [fields] using congrArg List.length same
    subst long
    refine ⟨(splitAt sep line).get, ?_, ?_⟩
    · rw [List.ofFn_get]
      exact joins
    · intro column
      have entry := congrArg (·[column]?) same
      simpa [fields] using entry

section Line

variable (sep : Char) (visible : isBlank sep = false)

include visible

theorem fields_trimmed (line : List Char) : fields sep (trimChars line) = fields sep line := by
  have pieces := congrArg (List.map String.ofList) (trimmed_pieces sep visible line)
  simpa [fields, Function.comp_def] using pieces

theorem writes_fields (cells : Fin n → String) (line : List Char) (written : Writes sep cells line) :
    fields sep (trimChars line) = List.ofFn cells := by
  rw [fields_trimmed sep visible]
  exact ((writes_iff sep cells line).mp written).2

theorem writes_said (hash : sep ≠ '#') (wide : 2 ≤ n) (cells : Fin n → String) (line : List Char)
    (unmarked : Unmarked cells) (written : Writes sep cells line) : isSilent (trimChars line) = false := by
  obtain ⟨k, rfl⟩ : ∃ k, n = k + 2 := ⟨n - 2, by omega⟩
  obtain ⟨texts, joins, trimmed⟩ := written
  have first := unmarked 0 rfl
  rw [← trimmed 0, String.toList_ofList, trim_head] at first
  rw [said_iff, ← joins.whole, List.ofFn_succ, List.ofFn_succ, joinWith, List.dropWhile_append]
  · split
    · exact ⟨sep, by rw [List.dropWhile_cons_of_neg (by simp [visible])]; rfl, hash⟩
    · next seen =>
        cases opening : (texts 0).dropWhile isBlank with
        | nil => simp [opening] at seen
        | cons c rest =>
            rw [opening] at first
            exact ⟨c, rfl, fun same => first (same ▸ rfl)⟩
  · simp

theorem short_fields (line : List Char) (few : line.count sep ≤ 1) : (fields sep (trimChars line)).length ≤ 2 := by
  rw [fields_trimmed sep visible, fields, List.length_map, split_at_length]
  omega

end Line

/-! ### What the columns hold -/

section Columns

variable (t : Sheet n) (username password role : Fin n)

theorem first_named (names : Fin n → String) (name : String) (column : Fin n)
    (single : ∀ other, lower (names other) = lower name ↔ other = column) :
    FirstNamed (List.ofFn names) name column.val := by
  refine ⟨by simp, by simp [single], ?_⟩
  intro other earlier same
  have bound : other < n := by omega
  rw [List.getElem_ofFn, single ⟨other, bound⟩] at same
  simp [← same] at earlier

theorem sheet_columns (heads : t.Heads username password role) :
    columns? (List.ofFn t.header) = some ⟨username, password, role⟩ := by
  rw [columns_some_iff]
  exact ⟨first_named _ _ _ heads.username, first_named _ _ _ heads.password, first_named _ _ _ heads.role⟩

theorem row_account (cells : Fin n → String) :
    account? ⟨username, password, role⟩ (List.ofFn cells) =
      some ⟨cells username, cells password, cells role⟩ := by
  rw [account_some_iff]
  exact ⟨by simp, by simp, by simp⟩

theorem short_account (heads : t.Heads username password role) (row : List String) (few : row.length ≤ 2) :
    account? ⟨username, password, role⟩ row = none := by
  obtain ⟨first, second, third⟩ := t.heads_apart username password role heads
  cases described : account? ⟨username, password, role⟩ row with
  | none => rfl
  | some account =>
      have shown := (account_some_iff _ _ _).mp described
      have within (column : Nat) (text : String) (held : row[column]? = some text) : column < 2 := by
        have := (List.getElem?_eq_some_iff.mp held).1
        omega
      have a := within _ _ shown.username
      have b := within _ _ shown.password
      have c := within _ _ shown.role
      dsimp only at a b c
      omega

end Columns

/-! ### The search -/

section Search

variable (sep : Char) (name : String)

theorem search_rows_silent (cols : Columns) (line : List Char) (rest : List Bytes)
    (silent : isSilent (trimChars line) = true) :
    searchRows sep name cols (encodeLine line :: rest) = searchRows sep name cols rest := by
  rw [searchRows, encodeLine, decode_encode_utf8]
  simp [silent]

theorem search_rows_said (cols : Columns) (line : List Char) (rest : List Bytes)
    (said : isSilent (trimChars line) = false) :
    searchRows sep name cols (encodeLine line :: rest) =
      match account? cols (fields sep (trimChars line)) with
      | none => searchRows sep name cols rest
      | some account => if account.username = name then some account else searchRows sep name cols rest := by
  rw [searchRows, encodeLine, decode_encode_utf8]
  simp only [String.toList_ofList, said]
  rfl

theorem search_front (front : List (List Char)) (rest : List Bytes) (silent : ∀ line ∈ front, Aside line) :
    searchLines sep name (front.map encodeLine ++ rest) = searchLines sep name rest := by
  induction front with
  | nil => rfl
  | cons line front ih =>
      have quiet := aside_silent line (silent line List.mem_cons_self)
      rw [List.map_cons, List.cons_append, searchLines, encodeLine, decode_encode_utf8]
      simp [quiet, ih fun other member => silent other (List.mem_cons_of_mem line member)]

theorem search_head (head : List Char) (below : List Bytes) (cols : Columns)
    (said : isSilent (trimChars head) = false) (named : columns? (fields sep (trimChars head)) = some cols) :
    searchLines sep name (encodeLine head :: below) = searchRows sep name cols below := by
  rw [searchLines, encodeLine, decode_encode_utf8]
  simp [said, named]

variable (visible : isBlank sep = false) (hash : sep ≠ '#')
variable (t : Sheet n) (username password role : Fin n) (heads : t.Heads username password role)

include visible hash heads

theorem search_below (rows : List (Fin n → String)) (below : List (List Char)) (woven : Below sep rows below)
    (unmarked : ∀ cells ∈ rows, Unmarked cells) :
    searchRows sep name ⟨username, password, role⟩ (below.map encodeLine) =
      Sheet.find? ⟨t.header, rows⟩ username password role name := by
  have wide := t.heads_wide username password role heads
  induction woven with
  | none => rfl
  | row cells rows line lines written rest ih =>
      have said := writes_said sep visible hash wide cells line (unmarked cells List.mem_cons_self) written
      have others := ih fun more member => unmarked more (List.mem_cons_of_mem cells member)
      rw [List.map_cons, search_rows_said sep name _ line _ said, writes_fields sep visible cells line written,
        row_account]
      by_cases same : cells username = name
      · simp [Sheet.find?, same]
      · simp [Sheet.find?, same, others]
  | aside rows line lines silent rest ih =>
      rw [List.map_cons, search_rows_silent sep name _ line _ (aside_silent line silent), ih unmarked]
  | short rows line lines few rest ih =>
      rw [List.map_cons]
      cases silent : isSilent (trimChars line) with
      | true => rw [search_rows_silent sep name _ line _ silent, ih unmarked]
      | false =>
          -- A row that says something and is too short describes no account.
          have nothing := short_account t username password role heads _ (short_fields sep visible line few)
          rw [search_rows_said sep name _ line _ silent, nothing, ih unmarked]

theorem lookup_sheet (uncommented : t.Uncommented) (table : Bytes) (renders : t.Renders sep table) :
    lookup sep table name = t.find? username password role name := by
  obtain ⟨text, front, head, below, rfl, joins, silent, titles, woven⟩ := renders
  have wide := t.heads_wide username password role heads
  have whole : encodeUtf8 text = encodeLine text.toList := by rw [encodeLine, String.ofList_toList]
  have named := sheet_columns t username password role heads
  rw [← writes_fields sep visible t.header head titles] at named
  have said := writes_said sep visible hash wide t.header head (uncommented _ List.mem_cons_self) titles
  rw [lookup, whole, lines_encoded, (split_at_iff _ _ _).mpr joins, List.map_append, List.map_cons,
    search_front sep name front _ silent, search_head sep name head _ _ said named]
  exact search_below sep name visible hash t username password role heads t.rows below woven
    fun cells member => uncommented cells (List.mem_cons_of_mem _ member)

-- The look-up goes by the names of the columns: it finds the first row of the name, in whatever order the
-- columns stand and whatever blank lines, comments and short rows are put between the lines.
theorem lookup_by_column_name (order : Equiv.Perm (Fin n)) (uncommented : t.Uncommented)
    (still : (t.reorder order).Uncommented) (table reordered : Bytes) (renders : t.Renders sep table)
    (again : (t.reorder order).Renders sep reordered) :
    lookup sep reordered name = lookup sep table name ∧
      lookup sep table name = t.find? username password role name := by
  have before := lookup_sheet sep name visible hash t username password role heads uncommented table renders
  have after := lookup_sheet sep name visible hash (t.reorder order) _ _ _
    (t.heads_reordered username password role order heads) still reordered again
  rw [t.find_reordered] at after
  exact ⟨after.trans before.symm, before⟩

end Search

-- A list of users with a column for notes; somebody moves the role to the front and adds remarks.
def staff : Sheet 4 where
  header := !["USERNAME", "note", "Password", "Role"]
  rows := [!["alice", "", "secret", "admin"], !["bob", "left", "", "user"], !["alice", "", "newer", "user"]]

def staffText : String :=
  "# staff\nUSERNAME;note;Password;Role\nalice;;secret;admin\nbob; left ;;user\nalice;;newer;user\n"

def rearrangedText : String :=
  " Role ;note;Password;USERNAME\r\n\r\nalice;newest\nadmin;;secret; alice\n  # bob is leaving\nuser;left;;bob\n" ++
    "user;;newer;alice"

theorem staff_renders : staff.Renders ';' (encodeUtf8 staffText) := by
  refine ⟨staffText, ["# staff".toList], "USERNAME;note;Password;Role".toList,
    ["alice;;secret;admin".toList, "bob; left ;;user".toList, "alice;;newer;user".toList, []], rfl, ?_, ?_, ?_, ?_⟩
  · exact (split_at_iff '\n' _ _).mp (by decide +kernel)
  · intro line member
    rw [List.mem_singleton] at member
    exact member ▸ .comment [] " staff".toList (by simp)
  · exact (writes_iff ';' _ _).mpr (by decide +kernel)
  · apply Below.row _ _ _ _ ((writes_iff ';' _ _).mpr (by decide +kernel))
    apply Below.row _ _ _ _ ((writes_iff ';' _ _).mpr (by decide +kernel))
    apply Below.row _ _ _ _ ((writes_iff ';' _ _).mpr (by decide +kernel))
    exact .aside _ _ _ (.blank [] (by simp)) .none

theorem rearranged_renders : (staff.reorder (Equiv.swap 0 3)).Renders ';' (encodeUtf8 rearrangedText) := by
  refine ⟨rearrangedText, [], " Role ;note;Password;USERNAME\r".toList,
    ["\r".toList, "alice;newest".toList, "admin;;secret; alice".toList, "  # bob is leaving".toList,
      "user;left;;bob".toList, "user;;newer;alice".toList], rfl, ?_, by simp, ?_, ?_⟩
  · exact (split_at_iff '\n' _ _).mp (by decide +kernel)
  · exact (writes_iff ';' _ _).mpr (by decide +kernel)
  · apply Below.aside _ _ _ (.blank _ (List.all_eq_true.mp rfl))
    apply Below.short _ _ _ (by decide +kernel)
    apply Below.row _ _ _ _ ((writes_iff ';' _ _).mpr (by decide +kernel))
    apply Below.aside _ _ _ (.comment "  ".toList " bob is leaving".toList (List.all_eq_true.mp rfl))
    apply Below.row _ _ _ _ ((writes_iff ';' _ _).mpr (by decide +kernel))
    exact .row _ _ _ _ ((writes_iff ';' _ _).mpr (by decide +kernel)) .none

theorem lookup_by_column_name_swapped :
    staff.Heads 0 2 3 ∧ staff.Renders ';' (encodeUtf8 staffText) ∧
      (staff.reorder (Equiv.swap 0 3)).Renders ';' (encodeUtf8 rearrangedText) ∧
      lookup ';' (encodeUtf8 rearrangedText) "bob" = some ⟨"bob", "", "user"⟩ ∧
      lookup ';' (encodeUtf8 rearrangedText) "alice" = some ⟨"alice", "secret", "admin"⟩ := by
  have heads : staff.Heads 0 2 3 := by constructor <;> decide
  have uncommented : staff.Uncommented := by
    simp only [Sheet.Uncommented, Unmarked]
    decide
  have still : (staff.reorder (Equiv.swap 0 3)).Uncommented := by
    simp only [Sheet.Uncommented, Unmarked]
    decide
  have found (name : String) :=
    lookup_by_column_name ';' name (by decide) (by decide) staff 0 2 3 heads (Equiv.swap 0 3) uncommented still
      (encodeUtf8 staffText) (encodeUtf8 rearrangedText) staff_renders rearranged_renders
  refine ⟨heads, staff_renders, rearranged_renders, ?_, ?_⟩
  · exact ((found "bob").1.trans (found "bob").2).trans (by decide)
  · exact ((found "alice").1.trans (found "alice").2).trans (by decide)

end CameraServer.Accounts
