/-!
Cutting a text at a separator. `splitAt` cuts at every occurrence and `cut?` at the first one;
joining the pieces with the separator gives the text back.
-/

set_option autoImplicit false

namespace CameraServer.Text

def splitAt (sep : Char) : List Char → List (List Char)
  | [] => [[]]
  | c :: rest =>
      if c = sep then [] :: splitAt sep rest
      else
        match splitAt sep rest with
        | [] => [[c]]
        | piece :: pieces => (c :: piece) :: pieces

def joinWith (sep : Char) : List (List Char) → List Char
  | [] => []
  | [piece] => piece
  | piece :: pieces => piece ++ sep :: joinWith sep pieces

def cut? (sep : Char) : List Char → Option (List Char × List Char)
  | [] => none
  | c :: rest =>
      if c = sep then some ([], rest)
      else (cut? sep rest).map fun parts => (c :: parts.1, parts.2)

def afterLead? : List Char → List Char → Option (List Char)
  | [], cs => some cs
  | _ :: _, [] => none
  | l :: lead, c :: cs => if l = c then afterLead? lead cs else none

def cutAt? (mark : List Char) : List Char → Option (List Char × List Char)
  | [] => if mark = [] then some ([], []) else none
  | c :: rest =>
      match afterLead? mark (c :: rest) with
      | some after => some ([], after)
      | none => (cutAt? mark rest).map fun parts => (c :: parts.1, parts.2)

theorem split_at_ne_nil (sep : Char) (cs : List Char) : splitAt sep cs ≠ [] := by
  cases cs with
  | nil => simp [splitAt]
  | cons c rest =>
      simp only [splitAt]
      split
      · simp
      · split <;> simp

theorem join_with_split_at (sep : Char) (cs : List Char) : joinWith sep (splitAt sep cs) = cs := by
  induction cs with
  | nil => rfl
  | cons c rest ih =>
      simp only [splitAt]
      split
      · next same =>
          subst same
          cases pieces : splitAt c rest with
          | nil => exact absurd pieces (split_at_ne_nil c rest)
          | cons piece more =>
              rw [pieces] at ih
              simp [joinWith, ih]
      · cases pieces : splitAt sep rest with
        | nil => exact absurd pieces (split_at_ne_nil sep rest)
        | cons piece more =>
            rw [pieces] at ih
            cases more with
            | nil => simpa [joinWith] using ih
            | cons next others => simpa [joinWith] using ih

theorem cut_some (sep : Char) (cs before after : List Char) (cutting : cut? sep cs = some (before, after)) :
    cs = before ++ sep :: after ∧ sep ∉ before := by
  induction cs generalizing before after with
  | nil => simp [cut?] at cutting
  | cons c rest ih =>
      simp only [cut?] at cutting
      split at cutting
      · next same =>
          simp only [Option.some.injEq, Prod.mk.injEq] at cutting
          obtain ⟨rfl, rfl⟩ := cutting
          simp [same]
      · next different =>
          obtain ⟨parts, found, equal⟩ := Option.map_eq_some_iff.1 cutting
          simp only [Prod.mk.injEq] at equal
          obtain ⟨rfl, rfl⟩ := equal
          obtain ⟨whole, absent⟩ := ih parts.1 parts.2 found
          refine ⟨by rw [whole]; rfl, ?_⟩
          simp [absent, Ne.symm different]

theorem cut_append (sep : Char) (before after : List Char) (absent : sep ∉ before) :
    cut? sep (before ++ sep :: after) = some (before, after) := by
  induction before with
  | nil => simp [cut?]
  | cons c rest ih =>
      simp only [List.mem_cons, not_or] at absent
      simp [cut?, Ne.symm absent.1, ih absent.2]

theorem cut_some_iff (sep : Char) (cs before after : List Char) :
    cut? sep cs = some (before, after) ↔ cs = before ++ sep :: after ∧ sep ∉ before := by
  constructor
  · exact cut_some sep cs before after
  · rintro ⟨rfl, absent⟩
    exact cut_append sep before after absent

theorem after_lead_some (lead cs rest : List Char) (found : afterLead? lead cs = some rest) :
    cs = lead ++ rest := by
  induction lead generalizing cs with
  | nil => simpa [afterLead?] using found
  | cons l lead ih =>
      cases cs with
      | nil => simp [afterLead?] at found
      | cons c cs =>
          simp only [afterLead?] at found
          split at found
          · next same => rw [same, ih cs found]; rfl
          · simp at found

end CameraServer.Text
