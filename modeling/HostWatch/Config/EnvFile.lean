import HostWatch.Config.Environment
import HostWatch.Text.Letter
set_option autoImplicit false

/-!
# Configuration: a file of variables

A file may set variables that the environment lacks, one assignment `NAME=value` to a
line; `export` in front of it is skipped, and `#` starts a comment.  The value ends at a
blank, unless quotes hold it together; they may hold line breaks too.  Outside single
quotes a backslash takes the next character as it is (`\n` is a line break), and `$NAME`
stands for the value of a variable.

Assignments take effect in their order, and the first line that is no assignment ends the
reading; what came before it stays.  A variable cannot be set to a value with the
character NUL in it.
-/

namespace HostWatch.EnvFile

open HostWatch.Text

/-! ## Lines -/

/-- Where a line stands between its quotes. -/
inductive Quoting where
  | outside
  | afterBlank
  | escape
  | weak
  | weakEscape
  | strong
  | strongEscape
  deriving DecidableEq, Repr, Inhabited

/-- Where a character outside quotes leads. -/
def Quoting.start (c : Char) : Quoting :=
  if c = '\\' then .escape
  else if c = '"' then .weak
  else if c = '\'' then .strong
  else .outside

/-- Where a character leads. -/
def Quoting.next (c : Char) : Quoting → Quoting
  | .outside => if isBlank c && c ≠ '\n' && c ≠ '\r' then .afterBlank else start c
  | .afterBlank => start c
  | .escape => .outside
  | .weak => if c = '\\' then .weakEscape else if c = '"' then .outside else .weak
  | .weakEscape => .weak
  | .strong => if c = '\\' then .strongEscape else if c = '\'' then .outside else .strong
  | .strongEscape => .strong

/-- A line up to the comment in it, which a blank announces: where it leads, what is before
the comment, and whether there is one. -/
def scanLine (q : Quoting) : List Char → Quoting × List Char × Bool
  | [] => (q, [], false)
  | c :: r =>
    if q = .afterBlank && c = '#' then (q, [], true)
    else
      let (q, front, comment) := scanLine (q.next c) r
      (q, c :: front, comment)

/-- The lines of a text, each with its line break. -/
def rawLines (cs : List Char) : List (List Char) :=
  let pieces := splitAt '\n' cs
  pieces.dropLast.map (· ++ ['\n']) ++ pieces.getLast?.toList.filter (! ·.isEmpty)

/-- A line without its line break. -/
def withoutBreak (line : List Char) : List Char :=
  if line.getLast? = some '\n' then
    let front := line.dropLast
    if front.getLast? = some '\r' then front.dropLast else front
  else line

/-- The lines of a file, those joined that quotes hold together.  `front` is what stands
before the next line.  A file that ends within quotes ends with `none`. -/
def joinLines (q : Quoting) (front : List Char) : List (List Char) → List (Option (List Char))
  | [] => if q = .outside then [] else [none]
  | line :: rest =>
    if ((front ++ line).dropWhile isBlank).head? = some '#' then
      some [] :: joinLines .outside [] rest
    else
      let (after, before, comment) := scanLine q line
      if comment then some (front ++ before) :: joinLines .outside [] rest
      else if after = .outside then
        some (withoutBreak (front ++ line)) :: joinLines .outside [] rest
      else joinLines after (front ++ line) rest

/-! ## Values -/

/-- What a character of a value belongs to. -/
inductive Phase where
  | text
  | escape
  | strong
  /-- the name of a variable, after a dollar sign -/
  | name (sofar : List Char)
  /-- the name of a variable in braces -/
  | braces (sofar : List Char)
  /-- the blanks after the value -/
  | ended
  /-- a comment after the value -/
  | comment
  deriving DecidableEq, Repr, Inhabited

/-- A value that is being read: what it is so far, and whether double quotes are open. -/
structure Reading where
  value : List Char
  weak : Bool
  phase : Phase
  deriving DecidableEq, Repr, Inhabited

/-- The value of a variable, empty when it is not set. -/
def valueOf (env : Environment) (name : List Char) : List Char :=
  ((env (String.ofList name)).getD "").toList

namespace Reading

/-- The character belongs to the value. -/
def push (r : Reading) (c : Char) : Reading := { r with value := r.value ++ [c], phase := .text }

/-- The character after the text so far, when no name or escape is being read. -/
def text (r : Reading) (c : Char) : Reading :=
  if c = '$' then { r with phase := .name [] }
  else if c = '\\' then { r with phase := .escape }
  else if c = '"' then { r with weak := !r.weak }
  else if r.weak then r.push c
  else if c = '\'' then { r with phase := .strong }
  else if c = ' ' || c = '\t' then { r with phase := .ended }
  else r.push c

/-- One more character; none when it cannot stand there. -/
def next (env : Environment) (r : Reading) (c : Char) : Option Reading :=
  match r.phase with
  | .text => some (r.text c)
  | .escape =>
    if ['\\', '\'', '"', '$', ' '].contains c then some (r.push c)
    else if c = 'n' then some (r.push '\n')
    else none
  | .strong =>
    if c = '\'' then some { r with phase := .text }
    else some { r with value := r.value ++ [c] }
  | .name sofar =>
    if isLetterOrDigit c then some { r with phase := .name (sofar ++ [c]) }
    else if c = '\x7b' && sofar.isEmpty then some { r with phase := .braces [] }
    else
      let r := { r with value := r.value ++ valueOf env sofar }
      if c = '$' then some { r with phase := .name [] } else some (r.push c)
  | .braces sofar =>
    if c = '\x7d' then some { r with value := r.value ++ valueOf env sofar, phase := .text }
    else some { r with phase := .braces (sofar ++ [c]) }
  | .ended =>
    if c = ' ' || c = '\t' then some r
    else if c = '#' then some { r with phase := .comment }
    else none
  | .comment => some r

/-- The value at the end of its line; none when something is still open. -/
def finish (env : Environment) (r : Reading) : Option String :=
  match r.weak, r.phase with
  | true, _ => none
  | _, .strong => none
  | _, .braces _ => none
  | _, .name sofar => some (String.ofList (r.value ++ valueOf env sofar))
  | _, _ => some (String.ofList r.value)

end Reading

/-- The value that a text writes. -/
def value? (env : Environment) (cs : List Char) : Option String :=
  (cs.foldlM (Reading.next env) ⟨[], false, .text⟩).bind (Reading.finish env)

/-! ## Assignments -/

/-- A name in front of a text. -/
def name? (cs : List Char) : Option (String × List Char) :=
  let inside (c : Char) : Bool := c.isAlphanum || c = '_' || c = '.'
  match cs with
  | c :: _ =>
    if c.isAlpha || c = '_' then
      some (String.ofList (cs.takeWhile inside), (cs.dropWhile inside).dropWhile isBlank)
    else none
  | [] => none

/-- What follows an equals sign. -/
def afterEquals? : List Char → Option (List Char)
  | '=' :: r => some r
  | _ => none

/-- The name and the value's text of an assignment; `export` may stand in front, and may
also be the name. -/
def sides? (cs : List Char) : Option (String × List Char) := do
  let (name, r) ← name? cs
  match afterEquals? r with
  | some r => some (name, r)
  | none =>
    if name = "export" then
      let (name, r) ← name? r
      let r ← afterEquals? r
      some (name, r)
    else none

/-- One line of a file. -/
inductive Line where
  | nothing
  | assignment (name value : String)
  | broken
  deriving DecidableEq, Repr, Inhabited

/-- The meaning of a line under the variables set so far. -/
def Line.read (env : Environment) (cs : List Char) : Line :=
  let cs := trimChars cs
  if cs.isEmpty || cs.head? = some '#' then .nothing
  else
    match sides? cs with
    | none => .broken
    | some (name, r) =>
      let r := r.dropWhile isBlank
      if r.isEmpty || r.head? = some '#' then .assignment name ""
      else
        match value? env r with
        | some value => .assignment name value
        | none => .broken

/-- The environment with the variables that lines set; none when a variable that is lacking
cannot be set. -/
def addLines (env : Environment) : List (Option (List Char)) → Option Environment
  | [] => some env
  | none :: _ => some env
  | some line :: rest =>
    match Line.read env line with
    | .nothing => addLines env rest
    | .assignment name value =>
      if (env name).isNone && value.toList.contains '\x00' then none
      else addLines (env.withEntry name value) rest
    | .broken => some env

/-- The environment with the variables that a file sets; none when one cannot be set.  A
byte order mark in front is skipped. -/
def extend? (env : Environment) (text : String) : Option Environment :=
  let cs := match text.toList with
    | '\ufeff' :: r => r
    | cs => cs
  addLines env (joinLines .outside [] (rawLines cs))

end HostWatch.EnvFile
