import CameraServer.Service.LogDirective
import CameraServer.Service.LogLevel

/-!
Which log lines are shown. A filter is a list of directives between commas. Of those that cover a
line the most specific one decides: the one with the longest target, then the one with the most
fields. A filter without directives shows nothing. The lines in question lie in no span, so that
directives with a span, or with the value of a field, decide nothing.
-/

set_option autoImplicit false

namespace CameraServer.Service

structure LogLine where
  target : String
  fields : List String
deriving DecidableEq, Repr

namespace Directive

def isStatic (d : Directive) : Bool :=
  d.span.isNone && d.fields.all (·.value.isNone)

def fieldNames (d : Directive) : List String :=
  d.fields.map (·.name)

def covers (d : Directive) (line : LogLine) : Bool :=
  (match d.target with
    | none => true
    | some lead => lead.toList.isPrefixOf line.target.toList)
    && d.fieldNames.all line.fields.contains

/-- Orders directives by how specific they are; those that name the same target and fields are
equal. -/
def rank (d e : Directive) : Ordering :=
  (compare (d.target.map (·.utf8ByteSize)) (e.target.map (·.utf8ByteSize))).then
    ((compare d.fields.length e.fields.length).then
      ((compare d.target e.target).then (compare d.fieldNames e.fieldNames)))

end Directive

abbrev LogFilter := List Directive

namespace LogFilter

def ofText (text : String) : Except DirectiveFault LogFilter :=
  (((Text.splitAt ',' text.toList).map String.ofList).filter (· ≠ "")).mapM Directive.ofText

def deciding? (f : LogFilter) (line : LogLine) : Option Directive :=
  (f.filter fun d => d.isStatic && d.covers line).foldl (fun best d =>
    match best with
    | some b => if b.rank d = .gt then some b else some d
    | none => some d) none

def showsError (f : LogFilter) (line : LogLine) : Bool :=
  match f.deciding? line with
  | some d => d.level ≠ .off
  | none => false

/-- The filter in force: the override if it can be read, else the configured level, else `info`.
None when reading would split a character. -/
def build (override : Option String) (level : String) : Option LogFilter :=
  let configured :=
    match ofText (normalizeLevel level) with
    | .ok f => some f
    | .error .malformed => some [{ level := .info }]
    | .error .splitCharacter => none
  match override.map ofText with
  | some (.ok f) => some f
  | some (.error .splitCharacter) => none
  | _ => configured

end LogFilter

end CameraServer.Service
