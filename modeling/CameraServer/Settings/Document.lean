import CameraServer.Settings.Choices
import CameraServer.Text.Numeral
import CameraServer.Text.Split

/-!
The configuration file: lines `key = value` with texts, whole numbers, `true` and `false`, and lists
of texts. This is the part of the TOML format that the known keys leave room for; tables, dotted
keys, dates and fractions are not read. A reader returns what follows, or nothing on a syntax error.
-/

set_option autoImplicit false

namespace CameraServer.Settings

def isLineChar (c : Char) : Bool :=
  c = '\t' || (32 ≤ c.toNat && c.toNat != 127)

def isGap (c : Char) : Bool :=
  c = ' ' || c = '\t'

def skipGap (cs : List Char) : List Char :=
  cs.dropWhile isGap

def readBreak : List Char → Option (List Char)
  | '\n' :: cs => some cs
  | '\r' :: '\n' :: cs => some cs
  | _ => none

def skipComment : List Char → List Char
  | '#' :: cs => cs.dropWhile isLineChar
  | cs => cs

def readLineEnd (cs : List Char) : Option (List Char) :=
  match skipComment (skipGap cs) with
  | [] => some []
  | rest => readBreak rest

/-! ### Texts -/

abbrev ReadChars := Option (List Char × List Char)

def numbered? (digits : List Char) : Option Char :=
  let n := Text.digitsValue 16 digits
  if digits.all (Text.isDigitIn 16) && (n < 0xD800 || (0xDFFF < n && n ≤ 0x10FFFF)) then
    some (Char.ofNat n)
  else none

def simpleEscape? : Char → Option Char
  | 'b' => some '\x08'
  | 't' => some '\t'
  | 'n' => some '\n'
  | 'f' => some '\x0c'
  | 'r' => some '\r'
  | '"' => some '"'
  | '\\' => some '\\'
  | _ => none

def readEscape : List Char → Option (Char × List Char)
  | [] => none
  | c :: rest =>
      let width := if c = 'u' then 4 else if c = 'U' then 8 else 0
      if width = 0 then (simpleEscape? c).map fun c => (c, rest)
      else if rest.length < width then none
      else (numbered? (rest.take width)).map fun c => (c, rest.drop width)

def readBasic : Nat → List Char → ReadChars
  | 0, _ => none
  | _ + 1, [] => none
  | fuel + 1, c :: rest =>
      if c = '"' then some ([], rest)
      else if c = '\\' then
        (readEscape rest).bind fun (c, rest) =>
          (readBasic fuel rest).map fun (text, rest) => (c :: text, rest)
      else if isLineChar c then (readBasic fuel rest).map fun (text, rest) => (c :: text, rest)
      else none

def readLiteral : List Char → ReadChars
  | [] => none
  | c :: rest =>
      if c = '\'' then some ([], rest)
      else if isLineChar c then (readLiteral rest).map fun (text, rest) => (c :: text, rest)
      else none

/-- What a run of quotes in a text of several lines means: fewer than three belong to the text,
three close it, and up to two more before those belong to it. -/
def closing? (quote : Char) (cs : List Char) : Option ReadChars :=
  let count := (cs.takeWhile (· == quote)).length
  if count < 3 then none
  else if 5 < count then some none
  else some (some (List.replicate (count - 3) quote, cs.drop count))

def isLineContinued (cs : List Char) : Bool :=
  (readBreak (skipGap cs)).isSome

def isBlankOrBreak (c : Char) : Bool :=
  isGap c || c = '\n' || c = '\r'

def skipLines : Nat → List Char → List Char
  | 0, cs => cs
  | fuel + 1, cs =>
      match readBreak (skipGap cs) with
      | some rest => skipLines fuel rest
      | none => skipGap cs

/-- A text of several lines behind its opening quotes. Escapes count in double quotes only; a line
break is a line feed, whatever its form. -/
def readLong (quote : Char) : Nat → List Char → ReadChars
  | 0, _ => none
  | _ + 1, [] => none
  | fuel + 1, c :: rest =>
      match closing? quote (c :: rest) with
      | some result => result
      | none =>
          match readBreak (c :: rest) with
          | some rest => (readLong quote fuel rest).map fun (text, rest) => ('\n' :: text, rest)
          | none =>
              if c = '\\' && quote = '"' then
                if isLineContinued rest then readLong quote fuel (skipLines fuel rest)
                else
                  (readEscape rest).bind fun (c, rest) =>
                    (readLong quote fuel rest).map fun (text, rest) => (c :: text, rest)
              else if isLineChar c then
                (readLong quote fuel rest).map fun (text, rest) => (c :: text, rest)
              else none

def skipFirstBreak (cs : List Char) : List Char :=
  (readBreak cs).getD cs

def readText : List Char → ReadChars
  | '"' :: '"' :: '"' :: rest => readLong '"' (rest.length + 1) (skipFirstBreak rest)
  | '\'' :: '\'' :: '\'' :: rest => readLong '\'' (rest.length + 1) (skipFirstBreak rest)
  | '"' :: rest => readBasic (rest.length + 1) rest
  | '\'' :: rest => readLiteral rest
  | _ => none

/-! ### Whole numbers -/

def digitRun? (radix : Nat) (cs : List Char) : Option Nat :=
  let groups := Text.splitAt '_' cs
  if groups.all fun g => !g.isEmpty && g.all (Text.isDigitIn radix) then
    some (Text.digitsValue radix groups.flatten)
  else none

def isWordChar (c : Char) : Bool :=
  Text.isDigitIn 16 c || c = '_'

def readRadix (radix : Nat) (cs : List Char) : Option (Int × List Char) :=
  (digitRun? radix (cs.takeWhile isWordChar)).map fun n => ((n : Int), cs.dropWhile isWordChar)

def readDecimal (cs : List Char) : Option (Nat × List Char) :=
  let word := cs.takeWhile fun c => Text.isDigitIn 10 c || c = '_'
  if word.head? = some '0' && decide (1 < word.length) then none
  else (digitRun? 10 word).map fun n => (n, cs.dropWhile fun c => Text.isDigitIn 10 c || c = '_')

def readInteger : List Char → Option (Int × List Char)
  | '0' :: 'x' :: cs => readRadix 16 cs
  | '0' :: 'o' :: cs => readRadix 8 cs
  | '0' :: 'b' :: cs => readRadix 2 cs
  | '-' :: cs => (readDecimal cs).map fun r => (-(r.1 : Int), r.2)
  | '+' :: cs => (readDecimal cs).map fun r => ((r.1 : Int), r.2)
  | cs => (readDecimal cs).map fun r => ((r.1 : Int), r.2)

/-! ### Values and lines -/

def skipInside : Nat → List Char → List Char
  | 0, cs => cs
  | fuel + 1, cs =>
      match readBreak (skipComment (skipGap cs)) with
      | some rest => skipInside fuel rest
      | none => skipGap cs

def readTexts : Nat → List Char → Option (List String × List Char)
  | 0, _ => none
  | fuel + 1, cs =>
      match skipInside fuel cs with
      | ']' :: rest => some ([], rest)
      | cs =>
          (readText cs).bind fun (text, rest) =>
            match skipInside fuel rest with
            | ']' :: rest => some ([String.ofList text], rest)
            | ',' :: rest =>
                (readTexts fuel rest).map fun (texts, rest) => (String.ofList text :: texts, rest)
            | _ => none

def readValue (cs : List Char) : Option (Given × List Char) :=
  match cs with
  | '[' :: rest => (readTexts (rest.length + 1) rest).map fun r => (.texts r.1, r.2)
  | 't' :: 'r' :: 'u' :: 'e' :: rest => some (.flag true, rest)
  | 'f' :: 'a' :: 'l' :: 's' :: 'e' :: rest => some (.flag false, rest)
  | c :: _ =>
      if c = '"' || c = '\'' then (readText cs).map fun r => (.text (String.ofList r.1), r.2)
      else
        (readInteger cs).bind fun r =>
          if signed64.admits (.integer r.1) then some (.integer r.1, r.2) else none
  | [] => none

def isBareKeyChar (c : Char) : Bool :=
  let n := c.toNat
  (97 ≤ n && n ≤ 122) || (65 ≤ n && n ≤ 90) || (48 ≤ n && n ≤ 57) || c = '-' || c = '_'

def readKey : List Char → ReadChars
  | '"' :: rest => readBasic (rest.length + 1) rest
  | '\'' :: rest => readLiteral rest
  | cs =>
      let key := cs.takeWhile isBareKeyChar
      if key.isEmpty then none else some (key, cs.dropWhile isBareKeyChar)

def readEntry (cs : List Char) : Option ((String × Given) × List Char) := do
  let (key, rest) ← readKey cs
  match skipGap rest with
  | '=' :: rest =>
      let (value, rest) ← readValue (skipGap rest)
      let rest ← readLineEnd rest
      return ((String.ofList key, value), rest)
  | _ => none

/-- The entries of a file. The fuel is more than the length of the input. -/
def readEntries : Nat → List Char → Option (List (String × Given))
  | 0, _ => none
  | fuel + 1, cs =>
      match skipGap cs with
      | [] => some []
      | c :: rest =>
          if c = '#' || c = '\n' || c = '\r' then (readLineEnd (c :: rest)).bind (readEntries fuel)
          else
            (readEntry (c :: rest)).bind fun (entry, rest) =>
              (readEntries fuel rest).map (entry :: ·)

def skipMark : List Char → List Char
  | c :: cs => if c = '\uFEFF' then cs else c :: cs
  | [] => []

def Choices.ofText? (text : String) : Option Choices := do
  let cs := skipMark text.toList
  let entries ← readEntries (cs.length + 1) cs
  guard (entries.map (·.1)).Nodup
  Choices.ofEntries? entries {}

end CameraServer.Settings
