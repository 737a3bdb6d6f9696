import HostWatch.DomainName.Label
import HostWatch.Text.Letter
set_option autoImplicit false

/-!
# Notices: mail addresses

A mailbox is written as `user@domain`, or as a display name with the address in angle
brackets.  The display name is made of words, points and quoted parts, the user of atoms
with points between them or of a quoted part, and the domain of atoms with points between
them.  Within quotes a backslash takes the next character as it is.

An address that can be read has to keep the rules for its parts too.  The user holds at
most 64 bytes, and is made of words of letters, digits and signs with points between
them, or has quotes of its own.  The domain holds at most 254 bytes, and each of its
labels at most 63, letters, digits and signs that start and end with a letter or a digit;
a domain that does not keep these rules may keep them in ASCII.
-/

namespace HostWatch

open HostWatch.Text

/-- A mailbox. -/
structure Mailbox where
  name : Option String
  user : String
  domain : String
  deriving DecidableEq, Repr, Inhabited

/-- Why a text is no mailbox. -/
inductive MailboxFault where
  | input
  | user
  | domain
  deriving DecidableEq, Repr, Inhabited

/-- The fault in words. -/
def MailboxFault.message : MailboxFault → String
  | input => "Invalid input"
  | user => "Invalid email user"
  | domain => "Invalid email domain"

namespace Mailbox

/-- A step reads characters from the front of the text. -/
abbrev Step : Type := List Char → Option (List Char × List Char)

/-- The blanks within a line. -/
def isInlineBlank (c : Char) : Bool := c = ' ' || c = '\t'

/-- The signs of an atom. -/
def isAtomSign (c : Char) : Bool := "!#$%&'*+-/=?^_`\x7b|\x7d~".toList.contains c

/-- The characters of an atom: letters, digits, some signs and all beyond ASCII. -/
def isAtomChar (c : Char) : Bool := c.isAlphanum || 0x80 ≤ c.toNat || isAtomSign c

/-- The characters that may follow a backslash. -/
def isEscapable (c : Char) : Bool :=
  let n := c.toNat
  1 ≤ n && n ≤ 127 && n ≠ 10 && n ≠ 13

/-- The characters within quotes that stand for themselves: no blanks, no quote, no
backslash, and none that ends a line. -/
def isQuotable (c : Char) : Bool :=
  let n := c.toNat
  n = 33 || (35 ≤ n && n ≤ 91) || (93 ≤ n && n ≤ 127) || 0x80 ≤ n
    || (1 ≤ n && n ≤ 31 && n ≠ 9 && n ≠ 10 && n ≠ 13)

/-- The first of some blanks, and what follows all of them. -/
def blanks (cs : List Char) : List Char × List Char :=
  ((cs.takeWhile isInlineBlank).take 1, cs.dropWhile isInlineBlank)

/-- One character of an atom or more. -/
def atom : Step := fun cs =>
  let front := cs.takeWhile isAtomChar
  if front.isEmpty then none else some (front, cs.dropWhile isAtomChar)

/-- Atoms with points between them, from the second one on.  The fuel is above the number
of characters left. -/
def moreAtoms : Nat → List Char → List Char × List Char
  | 0, cs => ([], cs)
  | fuel + 1, cs =>
    match cs with
    | '.' :: r =>
      match atom r with
      | some (a, r) =>
        let (rest, r) := moreAtoms fuel r
        ('.' :: a ++ rest, r)
      | none => ([], cs)
    | _ => ([], cs)

/-- Atoms with points between them; the blanks in front do not belong to them. -/
def dotAtom : Step := fun cs => do
  let (a, r) ← atom (blanks cs).2
  let (rest, r) := moreAtoms r.length r
  some (a ++ rest, r)

/-- The inside of a quoted part with its closing quote.  Of several blanks one counts, and
none at the end.  The fuel is above the number of characters left. -/
def quotedRest : Nat → Step
  | 0, _ => none
  | fuel + 1, cs =>
    match blanks cs with
    | (blank, '\\' :: c :: r) =>
      if isEscapable c then (quotedRest fuel r).map fun (q, r) => (blank ++ c :: q, r) else none
    | (blank, c :: r) =>
      if isQuotable c then (quotedRest fuel r).map fun (q, r) => (blank ++ c :: q, r)
      else if c = '"' then some ([], r)
      else none
    | (_, []) => none

/-- A quoted part without its quotes. -/
def quoted : Step
  | '"' :: r => quotedRest (r.length + 1) r
  | _ => none

/-- A word of a display name. -/
def word : Step := fun cs =>
  (quoted cs).orElse fun _ => do
    let (blank, r) := blanks cs
    let (a, r) ← atom r
    some (blank ++ a, r)

/-- Words and points.  The fuel is above the number of characters left. -/
def moreWords : Nat → List Char → List Char × List Char
  | 0, cs => ([], cs)
  | fuel + 1, cs =>
    match word cs with
    | some (w, r) =>
      let (rest, r) := moreWords fuel r
      (w ++ rest, r)
    | none =>
      match cs with
      | '.' :: r =>
        let (rest, r) := moreWords fuel r
        ('.' :: rest, r)
      | _ => ([], cs)

/-- A display name: a word and more words and points. -/
def displayName : Step := fun cs => do
  let (w, r) ← word cs
  let (rest, r) := moreWords (r.length + 1) r
  some (w ++ rest, r)

/-- An address: its user and its domain, and what follows. -/
def address (cs : List Char) : Option ((List Char × List Char) × List Char) := do
  let (user, r) ← (dotAtom cs).orElse fun _ => quoted cs
  match r with
  | '@' :: r => do
    let (domain, r) ← dotAtom r
    some ((user, domain), r)
  | _ => none

/-- An address in angle brackets, with blanks around them. -/
def angleAddress (cs : List Char) : Option ((List Char × List Char) × List Char) :=
  match cs.dropWhile isBlank with
  | '<' :: r =>
    match address r with
    | some (a, '>' :: r) => some (a, r.dropWhile isBlank)
    | _ => none
  | _ => none

/-- A mailbox with a display name, which may be missing, and angle brackets. -/
def named (cs : List Char) : Option ((Option (List Char) × List Char × List Char) × List Char) :=
  match displayName cs with
  | some (name, r) => (angleAddress r).map fun (a, r) => ((some name, a), r)
  | none => (angleAddress cs).map fun (a, r) => ((none, a), r)

/-- The parts of a mailbox that is written. -/
def parts? (cs : List Char) : Option (Option (List Char) × List Char × List Char) := do
  let cs := cs.dropWhile isBlank
  let (parts, r) ← (named cs).orElse fun _ => (address cs).map fun (a, r) => ((none, a), r)
  if (r.dropWhile isBlank).isEmpty then some parts else none

/-- The characters of the words of an address: letters and digits of every script, and
signs. -/
def isWordChar (c : Char) : Bool := isLetterOrDigit c || isAtomSign c

/-- The inside of quotes keeps the rules. -/
def isQuotedText : List Char → Bool
  | [] => true
  | '\\' :: c :: cs => 0x21 ≤ c.toNat && c.toNat ≤ 0x7E && isQuotedText cs
  | '\\' :: [] => false
  | c :: cs =>
    (isInlineBlank c || (0x21 ≤ c.toNat && c.toNat ≠ 0x7F && c ≠ '"')) && isQuotedText cs

/-- The user of an address keeps the rules. -/
def isUser (s : String) : Bool :=
  let cs := s.toList
  s.utf8ByteSize ≤ 64 &&
    if cs.head? = some '"' && cs.getLast? = some '"' then
      2 < cs.length && isQuotedText cs.tail.dropLast
    else (splitAt '.' cs).all fun word => !word.isEmpty && word.all isWordChar

/-- A label of a domain keeps the rules. -/
def isLabel (label : List Char) : Bool :=
  label.head?.any isLetterOrDigit && label.getLast?.any isLetterOrDigit
    && label.all isWordChar && (String.ofList label).utf8ByteSize ≤ 63

/-- The characters of an address in brackets. -/
def isBracketChar (c : Char) : Bool :=
  let n := c.toNat
  (0x21 ≤ n && n ≤ 0x5A) || (0x5E ≤ n && n ≤ 0x7E) || 0x80 ≤ n

/-- The domain keeps the rules as it is; in brackets there may be the address of a host. -/
def isPlainDomain (s : String) : Bool :=
  let cs := s.toList
  s.utf8ByteSize ≤ 254 &&
    if cs.head? = some '[' && cs.getLast? = some ']' then
      cs.tail.dropLast.all isBracketChar
    else (splitAt '.' cs).all isLabel

/-- The domain of an address keeps the rules, as it is or in ASCII. -/
def isDomain (s : String) : Bool :=
  isPlainDomain s || (DomainName.ascii? s).any isPlainDomain

/-- The mailbox that a text writes. -/
def ofText (s : String) : Except MailboxFault Mailbox :=
  match parts? s.toList with
  | none => .error .input
  | some (name, user, domain) =>
    let user := String.ofList user
    let domain := String.ofList domain
    if !isUser user then .error .user
    else if !isDomain domain then .error .domain
    else .ok ⟨name.map String.ofList, user, domain⟩

end Mailbox

end HostWatch
