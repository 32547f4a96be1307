import Mathlib.Data.List.Basic
import Mathlib.Data.List.TakeWhile
import CameraServer.Text.Blank
import CameraServer.Text.Split

/-!
Cutting, joining and trimming texts. Main statements: joined pieces come back when the text is cut, a mark is
found just where it stands, and blanks around a text change none of its pieces but for blanks around them.
-/

set_option autoImplicit false

namespace CameraServer.Text

/-! ### Pieces -/

section Pieces

variable (sep : Char)

theorem split_at_absent (cs : List Char) (absent : sep ∉ cs) : splitAt sep cs = [cs] := by
  induction cs with
  | nil => rfl
  | cons c rest ih =>
      simp only [List.mem_cons, not_or] at absent
      rw [splitAt, if_neg (Ne.symm absent.1), ih absent.2]

theorem split_at_append (before after : List Char) :
    splitAt sep (before ++ sep :: after) = splitAt sep before ++ splitAt sep after := by
  induction before with
  | nil => simp [splitAt]
  | cons c rest ih =>
      rw [List.cons_append, splitAt, splitAt, ih]
      split
      · rfl
      · rcases pieces : splitAt sep rest with _ | ⟨piece, more⟩
        · exact absurd pieces (split_at_ne_nil sep rest)
        · rfl

theorem split_at_length (cs : List Char) : (splitAt sep cs).length = cs.count sep + 1 := by
  induction cs with
  | nil => rfl
  | cons c rest ih =>
      rw [splitAt, List.count_cons]
      split
      · next same => simp [same, ih]
      · next different =>
          rcases pieces : splitAt sep rest with _ | ⟨piece, more⟩
          · exact absurd pieces (split_at_ne_nil sep rest)
          · rw [pieces] at ih
            simpa [different] using ih

theorem split_at_apart (cs : List Char) : ∀ piece ∈ splitAt sep cs, sep ∉ piece := by
  induction cs with
  | nil => simp [splitAt]
  | cons c rest ih =>
      rw [splitAt]
      split
      · simpa using ih
      · next different =>
          rcases pieces : splitAt sep rest with _ | ⟨piece, more⟩
          · exact absurd pieces (split_at_ne_nil sep rest)
          · rw [pieces] at ih
            simpa [Ne.symm different] using ih

theorem mem_join_with (pieces : List (List Char)) (piece : List Char) (member : piece ∈ pieces) :
    ∀ c ∈ piece, c ∈ joinWith sep pieces := by
  induction pieces with
  | nil => cases member
  | cons first rest ih =>
      intro c inside
      cases rest with
      | nil =>
          rw [List.mem_singleton] at member
          exact member ▸ inside
      | cons second rest =>
          rw [joinWith, List.mem_append]
          · rcases List.mem_cons.mp member with rfl | later
            · exact .inl inside
            · exact .inr (List.mem_cons_of_mem sep (ih later c inside))
          · simp

theorem mem_of_split_at (cs piece : List Char) (member : piece ∈ splitAt sep cs) : ∀ c ∈ piece, c ∈ cs := by
  intro c inside
  rw [← join_with_split_at sep cs]
  exact mem_join_with sep _ piece member c inside

theorem split_at_join_with (pieces : List (List Char)) (full : pieces ≠ [])
    (apart : ∀ piece ∈ pieces, sep ∉ piece) : splitAt sep (joinWith sep pieces) = pieces := by
  induction pieces with
  | nil => exact absurd rfl full
  | cons first rest ih =>
      have alone := split_at_absent sep first (apart first List.mem_cons_self)
      cases rest with
      | nil => exact alone
      | cons second rest =>
          have others := ih (by simp) fun piece member => apart piece (List.mem_cons_of_mem first member)
          rw [joinWith, split_at_append, alone, others]
          · rfl
          · simp

structure Joins (pieces : List (List Char)) (cs : List Char) : Prop where
  full : pieces ≠ []
  apart : ∀ piece ∈ pieces, sep ∉ piece
  whole : joinWith sep pieces = cs

theorem split_at_iff (cs : List Char) (pieces : List (List Char)) :
    splitAt sep cs = pieces ↔ Joins sep pieces cs := by
  constructor
  · rintro rfl
    exact ⟨split_at_ne_nil sep cs, split_at_apart sep cs, join_with_split_at sep cs⟩
  · rintro ⟨full, apart, rfl⟩
    exact split_at_join_with sep pieces full apart

theorem join_with_concat (front : List (List Char)) (last trail : List Char) :
    joinWith sep (front ++ [last]) ++ trail = joinWith sep (front ++ [last ++ trail]) := by
  induction front with
  | nil => rfl
  | cons first rest ih =>
      cases rest with
      | nil => simp [joinWith]
      | cons second rest =>
          simp only [List.cons_append, joinWith, List.append_assoc] at ih ⊢
          rw [ih]

theorem split_at_lead (lead cs first : List Char) (rest : List (List Char)) (absent : sep ∉ lead)
    (pieces : splitAt sep cs = first :: rest) : splitAt sep (lead ++ cs) = (lead ++ first) :: rest := by
  induction lead with
  | nil => exact pieces
  | cons c lead ih =>
      simp only [List.mem_cons, not_or] at absent
      rw [List.cons_append, splitAt, if_neg (Ne.symm absent.1), ih absent.2]
      rfl

theorem split_at_trail (trail cs last : List Char) (front : List (List Char)) (absent : sep ∉ trail)
    (pieces : splitAt sep cs = front ++ [last]) : splitAt sep (cs ++ trail) = front ++ [last ++ trail] := by
  have apart := split_at_apart sep cs
  rw [pieces] at apart
  rw [← join_with_split_at sep cs, pieces, join_with_concat]
  apply split_at_join_with sep _ (by simp)
  intro piece member
  rcases List.mem_append.mp member with old | new
  · exact apart piece (List.mem_append_left _ old)
  · rw [List.mem_singleton.mp new, List.mem_append]
    exact fun inside => inside.elim (apart last (by simp)) absent

end Pieces

/-! ### Marks -/

theorem after_lead_found_iff (lead cs : List Char) : (afterLead? lead cs).isSome = true ↔ lead <+: cs := by
  induction lead generalizing cs with
  | nil => simp [afterLead?]
  | cons l lead ih =>
      cases cs with
      | nil => simp [afterLead?]
      | cons c cs =>
          rw [afterLead?, List.cons_prefix_cons, ← ih]
          split
          · next same => simp [same]
          · next different => simp [different]

theorem cut_at_found_iff (mark cs : List Char) : (cutAt? mark cs).isSome = true ↔ mark <:+: cs := by
  induction cs with
  | nil =>
      rw [cutAt?, List.infix_nil]
      split
      · next none => simp [none]
      · next some => simp [some]
  | cons c rest ih =>
      rw [cutAt?, List.infix_cons_iff, ← after_lead_found_iff, ← ih]
      cases afterLead? mark (c :: rest) with
      | none => simp
      | some after => simp

/-! ### Blanks -/

theorem drop_blanks (lead cs : List Char) (blank : ∀ c ∈ lead, isBlank c = true) :
    (lead ++ cs).dropWhile isBlank = cs.dropWhile isBlank := by
  rw [List.dropWhile_append, List.dropWhile_eq_nil_iff.mpr blank]
  rfl

theorem trim_lead (lead cs : List Char) (blank : ∀ c ∈ lead, isBlank c = true) :
    trimChars (lead ++ cs) = trimChars cs := by
  rw [trimChars, trimChars, drop_blanks lead cs blank]

theorem trim_trail (trail cs : List Char) (blank : ∀ c ∈ trail, isBlank c = true) :
    trimChars (cs ++ trail) = trimChars cs := by
  rw [trimChars, trimChars, List.dropWhile_append]
  split
  · next empty =>
      rw [List.isEmpty_iff.mp empty, List.dropWhile_eq_nil_iff.mpr blank]
  · rw [dropWhileEnd, dropWhileEnd, List.reverse_append, drop_blanks]
    exact fun c inside => blank c (List.mem_reverse.mp inside)

theorem trim_takes (cs : List Char) :
    ∃ lead trail, cs = lead ++ trimChars cs ++ trail ∧ ∀ c ∈ lead ++ trail, isBlank c = true := by
  refine ⟨cs.takeWhile isBlank, ((cs.dropWhile isBlank).reverse.takeWhile isBlank).reverse, ?_, ?_⟩
  · rw [trimChars, dropWhileEnd, List.append_assoc, ← List.reverse_append, List.takeWhile_append_dropWhile,
      List.reverse_reverse, List.takeWhile_append_dropWhile]
  · intro c inside
    rcases List.mem_append.mp inside with front | back
    · exact List.mem_takeWhile_imp front
    · exact List.mem_takeWhile_imp (List.mem_reverse.mp back)

theorem drop_trail (p : Char → Bool) (cs trail : List Char) (all : ∀ c ∈ trail, p c = true)
    (ends : ∀ c ∈ cs.getLast?, p c = false) : dropWhileEnd p (cs ++ trail) = cs := by
  rw [dropWhileEnd, List.reverse_append,
    List.dropWhile_append_of_pos fun c inside => all c (List.mem_reverse.mp inside)]
  rw [List.getLast?_eq_head?_reverse] at ends
  cases back : cs.reverse with
  | nil => simpa using back.symm
  | cons c rest =>
      rw [List.dropWhile_cons_of_neg (by simp [ends c (by rw [back]; rfl)]), ← back, List.reverse_reverse]

theorem trim_same (cs : List Char) (starts : ∀ c ∈ cs.head?, isBlank c = false)
    (ends : ∀ c ∈ cs.getLast?, isBlank c = false) : trimChars cs = cs := by
  cases cs with
  | nil => rfl
  | cons c rest =>
      have same := drop_trail isBlank (c :: rest) [] (by simp) ends
      rw [List.append_nil] at same
      rw [trimChars, List.dropWhile_cons_of_neg (by simp [starts c rfl]), same]

theorem trim_head (cs : List Char) : (trimChars cs).head? = (cs.dropWhile isBlank).head? := by
  rw [trimChars]
  cases left : cs.dropWhile isBlank with
  | nil => rfl
  | cons c rest =>
      have seen : isBlank c = false := by
        simpa [left] using List.head?_dropWhile_not isBlank cs
      rw [dropWhileEnd, List.reverse_cons, List.dropWhile_append]
      split
      · simp [seen]
      · simp

section Trimmed

variable (sep : Char)

theorem trimmed_pieces_lead (lead cs : List Char) (absent : sep ∉ lead) (blank : ∀ c ∈ lead, isBlank c = true) :
    (splitAt sep (lead ++ cs)).map trimChars = (splitAt sep cs).map trimChars := by
  rcases pieces : splitAt sep cs with _ | ⟨first, rest⟩
  · exact absurd pieces (split_at_ne_nil sep cs)
  · rw [split_at_lead sep lead cs first rest absent pieces]
    simp [trim_lead lead first blank]

theorem trimmed_pieces_trail (trail cs : List Char) (absent : sep ∉ trail)
    (blank : ∀ c ∈ trail, isBlank c = true) :
    (splitAt sep (cs ++ trail)).map trimChars = (splitAt sep cs).map trimChars := by
  rcases List.eq_nil_or_concat' (splitAt sep cs) with none | ⟨front, last, pieces⟩
  · exact absurd none (split_at_ne_nil sep cs)
  · rw [split_at_trail sep trail cs last front absent pieces, pieces]
    simp [trim_trail trail last blank]

theorem trimmed_pieces (seen : isBlank sep = false) (cs : List Char) :
    (splitAt sep (trimChars cs)).map trimChars = (splitAt sep cs).map trimChars := by
  obtain ⟨lead, trail, whole, blank⟩ := trim_takes cs
  have front : sep ∉ lead := fun inside => by simp [blank sep (List.mem_append_left _ inside)] at seen
  have back : sep ∉ trail := fun inside => by simp [blank sep (List.mem_append_right _ inside)] at seen
  calc (splitAt sep (trimChars cs)).map trimChars
      = (splitAt sep (lead ++ trimChars cs)).map trimChars :=
        (trimmed_pieces_lead sep lead _ front fun c inside => blank c (List.mem_append_left _ inside)).symm
    _ = (splitAt sep (lead ++ trimChars cs ++ trail)).map trimChars :=
        (trimmed_pieces_trail sep trail _ back fun c inside => blank c (List.mem_append_right _ inside)).symm
    _ = (splitAt sep cs).map trimChars := by rw [← whole]

end Trimmed

end CameraServer.Text
