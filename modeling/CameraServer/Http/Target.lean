/-!
What a request asks for: a path, a path behind a scheme and an authority, or an authority alone.
-/

set_option autoImplicit false

namespace CameraServer.Http

inductive TargetBase where
  | nothing
  | origin (text : String)
  | authority
deriving DecidableEq, Repr

structure Target where
  base : TargetBase := .nothing
  path : String
  query : String := ""
deriving DecidableEq, Repr

def Target.ofPath (base : TargetBase) (cs : List Char) : Target :=
  let whole := cs.takeWhile (· != '#')
  { base
    path := String.ofList (whole.takeWhile (· != '?'))
    query := String.ofList (whole.dropWhile (· != '?')) }

def isSchemeChar (c : Char) : Bool :=
  c.isAlphanum || c == '+' || c == '-' || c == '.'

def cutScheme? (cs : List Char) : Option (List Char × List Char) :=
  match cs.dropWhile isSchemeChar with
  | ':' :: '/' :: '/' :: rest => some (cs.takeWhile isSchemeChar, rest)
  | _ => none

def endsAuthority (c : Char) : Bool :=
  c == '/' || c == '?' || c == '#'

def schemeChars (scheme : List Char) : List Char :=
  let lowered := scheme.map Char.toLower
  if lowered = "http".toList ∨ lowered = "https".toList then lowered else scheme

def Target.ofText (text : String) : Target :=
  let cs := text.toList
  if cs.head? = some '/' ∨ cs = ['*'] then .ofPath .nothing cs
  else
    match cutScheme? cs with
    | some (scheme, rest) =>
        let authority := rest.takeWhile fun c => !endsAuthority c
        let origin := schemeChars scheme ++ ':' :: '/' :: '/' :: authority
        let target := Target.ofPath (.origin (String.ofList origin)) (rest.drop authority.length)
        if target.path = "" then { target with path := "/" } else target
    | none => { base := .authority, path := "" }

def Target.withSlash? (t : Target) : Option String :=
  match t.base with
  | .nothing => some (t.path ++ "/" ++ t.query)
  | .origin text => some (text ++ t.path ++ "/" ++ t.query)
  | .authority => none

end CameraServer.Http
