import HostWatch.DomainName.Mapping
import HostWatch.DomainName.Punycode
import HostWatch.Text.Blank
import HostWatch.Text.Composition
import HostWatch.Text.Cursive
import HostWatch.Text.Direction
import HostWatch.Text.Mark
set_option autoImplicit false

/-!
# Domain names: names in ASCII

A name is first brought into its plain form, with points between its labels.  A label
beyond ASCII is then written in ASCII behind the sign `xn--`, and a label with that sign
has to be such a one.  A label beyond ASCII

* does not begin with a mark,
* has the signs that join or part letters only where they matter,
* and has no mixture of directions, when the name has letters from right to left.
-/

namespace HostWatch.DomainName

open HostWatch.Text

/-! ## Joiners -/

/-- The sign that joins letters. -/
def joiner : Char := '\u200d'

/-- The sign that parts letters. -/
def parter : Char := '\u200c'

/-- The mark leaves a consonant without a vowel. -/
def isVirama (c : Char) : Bool := markOrder c = 9

/-- The signs between letters are where they matter: both after a virama, and the one that
parts letters between two that would join.  `front` is what is before, from the end on. -/
def joinersFit (front : List Char) : List Char → Bool
  | [] => true
  | c :: cs =>
    let afterVirama := front.head?.any isVirama
    let between : Bool :=
      (front.dropWhile isJoinedThrough).head?.any reachesForward
        && (cs.dropWhile isJoinedThrough).head?.any reachesBack
    (c ≠ joiner || afterVirama) && (c ≠ parter || afterVirama || between)
      && joinersFit (c :: front) cs

/-! ## Directions -/

/-- The label has letters or numbers that are written from the right. -/
def hasRight (label : List Char) : Bool :=
  label.any fun c => [Direction.right, .arabicNumber].contains (direction c)

/-- The directions of a label before the marks at its end. -/
def withoutLastMarks (ds : List Direction) : List Direction :=
  (ds.reverse.dropWhile (· = .mark)).reverse

/-- The directions of a label go together.  In a label from the right there are letters
from the right alone and not both kinds of numbers, and it ends with a letter or a number;
in one from the left there are none from the right, and no Arabic numbers. -/
def directionsFit (ds : List Direction) : Bool :=
  let last := (withoutLastMarks ds).getLast?
  match ds.head? with
  | none => true
  | some .right =>
    ds.all ([.right, .arabicNumber, .number, .neutral, .mark].contains ·)
      && last.any ([.right, .arabicNumber, .number].contains ·)
      && !(ds.contains .number && ds.contains .arabicNumber)
  | some .left =>
    ds.all ([.left, .number, .neutral, .mark].contains ·) && last.any ([.left, .number].contains ·)
  | _ => false

/-! ## Labels -/

/-- The sign of a label that is written in ASCII. -/
def sign : List Char := ['x', 'n', '-', '-']

/-- The character is its own plain form. -/
def isPlain (c : Char) : Bool := plainForm? c = some [c]

/-- The label that a plain form stands for; none when it has the sign and is not written by
the rules. -/
def label? (plain : List Char) : Option (List Char) :=
  match dropFront? sign plain with
  | none => some plain
  | some text =>
    (Punycode.decode? text).filter fun label =>
      label.any (! Punycode.isBasic ·) && label.all isPlain && composed label = label
        && dropFront? sign label = none

/-- A label keeps the rules for labels beyond ASCII. -/
def isFit (label : List Char) : Bool := !label.head?.any isMark && joinersFit [] label

/-- A label in ASCII. -/
def asciiLabel (label : List Char) : List Char :=
  if label.all Punycode.isBasic then label else sign ++ Punycode.encode label

/-- A name in ASCII; none when it breaks a rule. -/
def ascii? (name : String) : Option String := do
  let plain := composed (← name.toList.mapM plainForm?).flatten
  let labels ← (splitAt '.' plain).mapM label?
  let fit := labels.all isFit
  let directed := !labels.any hasRight || labels.all fun l => directionsFit (l.map direction)
  if fit && directed then
    some (String.ofList (List.intercalate ['.'] (labels.map asciiLabel)))
  else none

end HostWatch.DomainName
