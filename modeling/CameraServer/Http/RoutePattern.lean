/-!
Patterns of request paths. A name in braces captures one segment, a name with a star in braces all
that is left; doubled braces stand for themselves. A pattern without braces matches itself alone.
-/

set_option autoImplicit false

namespace CameraServer.Http

inductive RoutePiece where
  | letter (c : Char)
  | segment
  | rest
deriving DecidableEq, Repr

abbrev RoutePattern := List RoutePiece

namespace RoutePattern

def isBrace (c : Char) : Bool :=
  c = '\x7b' || c = '\x7d'

def piecesOf : Option RoutePiece → List Char → List RoutePiece
  | _, [] => []
  | some piece, c :: cs =>
      if c = '\x7d' then piece :: piecesOf none cs
      else if c = '*' then piecesOf (some .rest) cs
      else piecesOf (some piece) cs
  | none, [c] => [.letter c]
  | none, c :: d :: cs =>
      if isBrace c && c = d then .letter c :: piecesOf none cs
      else if c = '\x7b' then piecesOf (some .segment) (d :: cs)
      else .letter c :: piecesOf none (d :: cs)

def ofText (text : String) : RoutePattern :=
  piecesOf none text.toList

/-- Whether a path fits. A capture takes something of the path, but a segment may be empty when a
slash follows. -/
def fits : RoutePattern → List Char → Bool
  | [], path => path = []
  | .letter _ :: _, [] => false
  | .letter c :: pieces, d :: path => d = c && fits pieces path
  | .segment :: pieces, path => path ≠ [] && fits pieces (path.dropWhile (· ≠ '/'))
  | .rest :: _, path => path ≠ []

theorem pieces_of_no_braces (cs : List Char) (plain : ∀ c ∈ cs, isBrace c = false) :
    piecesOf none cs = cs.map .letter := by
  induction cs with
  | nil => rfl
  | cons c cs ih =>
      have own : isBrace c = false := plain c (by simp)
      have notOpen : c ≠ '\x7b' := by
        intro same
        simp [isBrace, same] at own
      cases cs with
      | nil => rfl
      | cons d cs =>
          have tail := ih fun e member => plain e (by simp [member])
          rw [piecesOf, own, if_neg (by simp), if_neg notOpen, tail]
          rfl

theorem fits_letters (cs path : List Char) : fits (cs.map .letter) path = true ↔ path = cs := by
  induction cs generalizing path with
  | nil => simp [fits]
  | cons c cs ih =>
      cases path with
      | nil => simp [fits]
      | cons d path => simp [fits, ih]

theorem fits_no_braces (text path : String) (plain : ∀ c ∈ text.toList, isBrace c = false) :
    fits (ofText text) path.toList = true ↔ path = text := by
  rw [ofText, pieces_of_no_braces _ plain, fits_letters, String.toList_inj]

end RoutePattern

end CameraServer.Http
