import HostWatch.Log
import HostWatch.Number.Decimal
import HostWatch.Text.Blank
import HostWatch.Text.Letter
import HostWatch.Text.Utf8
set_option autoImplicit false

/-!
# Command line: which log lines are shown

A filter is a list of directives with commas between them: a level for everything, such as
`warn`, or the front of a module's name with a level, such as `monic=debug`.  A name
alone shows everything of its modules.  In square brackets a directive may name a span,
and in braces within them the fields that a line has to have: `monic[{message}]=info`.

Of the directives for a line the one with the longest name counts, of equally long ones
the one with the most fields, and of those the last; a line without any is not shown.
Directives that wait for a span, or for the value of a field, are for no line.
-/

namespace HostWatch.CommandLine

open HostWatch.Text

/-- The rank of a severity: a line is shown when its rank is at most that of the level. -/
def rank : Severity → Nat
  | .error => 1
  | .warn => 2
  | .info => 3
  | .debug => 4

/-- The highest rank that a level shows, by its number or its name. -/
def level? (s : String) : Option Nat :=
  match Number.natBelow? 6 s with
  | some n => some n
  | none => ["off", "error", "warn", "info", "debug", "trace"].idxOf? (lowerAscii s)

/-- The rank that shows everything. -/
def everything : Nat := 5

/-- What a directive says about a field. -/
structure FieldPattern where
  name : String
  /-- the value counts too -/
  hasValue : Bool
  deriving DecidableEq, Repr, Inhabited

/-- One directive. -/
structure Directive where
  /-- the front of the names of the modules it is for -/
  target : Option String
  /-- the span it waits for -/
  span : Option String
  fields : List FieldPattern
  /-- the highest rank it shows -/
  level : Nat
  deriving DecidableEq, Repr, Inhabited

/-- Why a directive cannot be read. -/
inductive DirectiveFault where
  /-- it breaks the rules -/
  | malformed
  /-- one of its parts would begin or end within a character -/
  | torn
  deriving DecidableEq, Repr, Inhabited

/-! ## Reading a directive -/

/-- What a character of a directive belongs to.  Parts begin at a position in bytes. -/
inductive DirectivePart where
  | front
  /-- a level or the name of a module -/
  | word
  | span (start : Nat)
  | field (start : Nat)
  | afterFields
  | afterSpan
  | level (start : Nat)
  deriving DecidableEq, Repr, Inhabited

/-- A directive that is being read. -/
structure DirectiveScan where
  part : DirectivePart
  directive : Directive
  deriving DecidableEq, Repr, Inhabited

/-- The part of a directive between two positions.  Positions are counted without the
blanks in front of the directive, and the parts are taken from the text with them. -/
def partOf (text : List Char) (start stop : Nat) : Except DirectiveFault String :=
  match slice? start stop text with
  | some cs => .ok (String.ofList cs)
  | none => .error .torn

/-- What a text says about a field, which it names. -/
def FieldPattern.ofText (s : String) : Except DirectiveFault FieldPattern :=
  if s.isEmpty then .error .malformed
  else
    match splitOnce '=' s.toList with
    | some (name, _) => .ok ⟨String.ofList name, true⟩
    | none => .ok ⟨s, false⟩

namespace DirectiveScan

/-- Reading goes on with another part. -/
def goOn (s : DirectiveScan) (part : DirectivePart) : Except DirectiveFault DirectiveScan :=
  .ok { s with part }

/-- The scan with the front of the names of the modules. -/
def withTarget (s : DirectiveScan) (target : String) : DirectiveScan :=
  { s with directive := { s.directive with target := some target } }

/-- The scan with the span to wait for. -/
def withSpan (s : DirectiveScan) (span : String) : DirectiveScan :=
  { s with directive := { s.directive with span := some span } }

/-- The scan with one more field. -/
def withField (s : DirectiveScan) (field : FieldPattern) : DirectiveScan :=
  { s with directive := { s.directive with fields := s.directive.fields ++ [field] } }

/-- One more character, at the position `i`. -/
def next (text : List Char) (i : Nat) (c : Char) (s : DirectiveScan) :
    Except DirectiveFault DirectiveScan := do
  match s.part with
  | .front =>
    if c = '[' then s.goOn (.span (i + 1))
    else if isLetterOrDigit c || c = '-' || c = ':' || c = '_' then s.goOn .word
    else .error .malformed
  | .word =>
    if c = '=' then (s.withTarget (← partOf text 0 i)).goOn (.level (i + 1))
    else if c = '[' then (s.withTarget (← partOf text 0 i)).goOn (.span (i + 1))
    else .ok s
  | .span start =>
    if c = ']' then (s.withSpan (← partOf text start i)).goOn .afterSpan
    else if c = '\x7b' then
      let span ← partOf text start i
      (if span.isEmpty then s else s.withSpan span).goOn (.field (i + 1))
    else .ok s
  | .field start =>
    if c = '\x7d' then
      (s.withField (← FieldPattern.ofText (← partOf text start i))).goOn .afterFields
    else .ok s
  | .afterFields => if c = ']' then s.goOn .afterSpan else .error .malformed
  | .afterSpan => if c = '=' then s.goOn (.level (i + 1)) else .error .malformed
  | .level _ => .ok s

/-- The characters from the position `i` on. -/
def scan (text : List Char) : Nat → DirectiveScan → List Char → Except DirectiveFault DirectiveScan
  | _, s, [] => .ok s
  | i, s, c :: cs => do scan text (i + c.utf8Size) (← s.next text i c) cs

/-- The directive at the end of its text. -/
def finish (text : List Char) (s : DirectiveScan) : Except DirectiveFault Directive := do
  let d := s.directive
  let stop := (String.ofList text).utf8ByteSize
  match s.part with
  | .word =>
    let word ← partOf text 0 stop
    return match level? word with
      | some level => { d with level }
      | none => { d with target := some word }
  | .level start =>
    let word ← partOf text start stop
    if word.isEmpty then return d
    else
      match level? word with
      | some level => return { d with level }
      | none => .error .malformed
  | .afterSpan => return d
  | _ => .error .malformed

end DirectiveScan

namespace Directive

/-- The directive that a text writes. -/
def ofText (s : String) : Except DirectiveFault Directive := do
  let text := s.toList
  (← DirectiveScan.scan text 0 ⟨.front, ⟨none, none, [], everything⟩⟩ (trimChars text)).finish text

/-- The directive waits for nothing but a line. -/
def isPlain (d : Directive) : Bool := d.span.isNone && !d.fields.any (·.hasValue)

/-- The directive is for a line of a module. -/
def isFor (d : Directive) (module : String) (l : LogLine) : Bool :=
  d.isPlain && startsWith module (d.target.getD "")
    && d.fields.all fun f => ("message" :: l.fields.map (·.1)).contains f.name

/-- How long the name of a directive is; one without a name comes before all others. -/
def reach (d : Directive) : Nat :=
  match d.target with
  | none => 0
  | some target => target.utf8ByteSize + 1

/-- The second directive is for no more lines than the first, or for others. -/
def yields (d e : Directive) : Bool :=
  d.reach < e.reach || d.reach = e.reach && d.fields.length ≤ e.fields.length

end Directive

/-! ## Filters -/

/-- A filter for the log. -/
abbrev LogFilter := List Directive

namespace LogFilter

/-- The filter when no other is set: the program's own modules from the level `info` on. -/
def initial : LogFilter := [⟨some "monic", none, [], 3⟩]

/-- The filter that shows errors only. -/
def errorsOnly : LogFilter := [⟨none, none, [], 1⟩]

/-- The filter that a text writes; an empty text shows errors only. -/
def ofText (s : String) : Except DirectiveFault LogFilter :=
  match (splitAt ',' s.toList).filter (! ·.isEmpty) with
  | [] => .ok errorsOnly
  | parts => parts.mapM fun p => Directive.ofText (String.ofList p)

/-- The filter that a text writes, or the usual one when there is no text or it breaks the
rules; none when a part of it is torn. -/
def ofSetting? (s : Option String) : Option LogFilter :=
  match s with
  | none => some initial
  | some s =>
    match ofText s with
    | .ok filter => some filter
    | .error .malformed => some initial
    | .error .torn => none

/-- The directive that counts for a line of a module. -/
def directive? (f : LogFilter) (module : String) (l : LogLine) : Option Directive :=
  (f.filter (·.isFor module l)).foldl (fun best d =>
    match best with
    | none => some d
    | some b => if b.yields d then some d else some b) none

/-- A line that a module writes is shown. -/
def shows (f : LogFilter) (module : String) (l : LogLine) : Bool :=
  (f.directive? module l).any fun d => rank l.severity ≤ d.level

/-- The lines of a module that are shown. -/
def shown (f : LogFilter) (module : String) (ls : List LogLine) : List LogLine :=
  ls.filter (f.shows module)

end LogFilter

end HostWatch.CommandLine
