import HostWatch.Json.Parse
import HostWatch.Toml.Table
set_option autoImplicit false

/-!
# Toml: blanks, names and strings

The steps below read from the front of the text, as those for JSON do.  A string stands
in double quotes, where a backslash starts an escape, or in single quotes, where every
character stands for itself.  Tripled quotes hold several lines: a line break straight
after them is dropped, and up to two quotes may stand before the closing ones.
-/

namespace HostWatch.Toml

open HostWatch.Json.Parse (Step hexValue?)

/-! ## Blanks, comments and ends of lines -/

/-- The blanks within a line. -/
def isInlineBlank (c : Char) : Bool := c = ' ' || c = '\t'

/-- Blanks within a line are skipped. -/
def skipInline (cs : List Char) : List Char := cs.dropWhile isInlineBlank

/-- The characters that may stand in a comment or a string: all but control characters,
of which only the tab may. -/
def isPlain (c : Char) : Bool := c = '\t' || (0x20 ≤ c.toNat && c.toNat ≠ 0x7F)

/-- The characters after the end of a line, which is there or the text ends. -/
def lineBreak? : List Char → Option (List Char)
  | [] => some []
  | '\n' :: r => some r
  | '\r' :: '\n' :: r => some r
  | _ => none

/-- The rest of a line that holds no more than a comment. -/
def endOfLine? (cs : List Char) : Option (List Char) :=
  match skipInline cs with
  | '#' :: r => lineBreak? (r.dropWhile isPlain)
  | r => lineBreak? r

/-- Blanks and line breaks are skipped. -/
def skipLines : List Char → List Char
  | '\r' :: '\n' :: r => skipLines r
  | c :: r => if c = '\n' || isInlineBlank c then skipLines r else c :: r
  | [] => []

/-- Blanks, line breaks and comments are skipped; a character that a comment may not hold
is left. -/
def skipGap (inComment : Bool) : List Char → List Char
  | '\r' :: '\n' :: r => skipGap false r
  | c :: r =>
    if c = '\n' then skipGap false r
    else if inComment then (if isPlain c then skipGap true r else c :: r)
    else if isInlineBlank c then skipGap false r
    else if c = '#' then skipGap true r
    else c :: r
  | [] => []

/-! ## Strings -/

/-- The character with a number written in `width` hexadecimal digits. -/
def hexChar? (width : Nat) (cs : List Char) : Option (Char × List Char) := do
  let digits ← (cs.take width).mapM hexValue?
  let n := digits.foldl (fun n d => 16 * n + d) 0
  if digits.length = width && n.isValidChar then some (Char.ofNat n, cs.drop width) else none

/-- The character that an escape stands for, after its backslash. -/
def escape? : Step Char
  | 'b' :: r => some ('\x08', r)
  | 't' :: r => some ('\t', r)
  | 'n' :: r => some ('\n', r)
  | 'f' :: r => some ('\x0c', r)
  | 'r' :: r => some ('\r', r)
  | '"' :: r => some ('"', r)
  | '\\' :: r => some ('\\', r)
  | 'u' :: r => hexChar? 4 r
  | 'U' :: r => hexChar? 8 r
  | _ => none

/-- The characters of a string in double quotes up to its end, in reverse on top of `acc`.
The fuel is above the number of characters left. -/
def basicChars : Nat → List Char → Step String
  | 0, _, _ => none
  | _ + 1, _, [] => none
  | fuel + 1, acc, c :: r =>
    if c = '"' then some (String.ofList acc.reverse, r)
    else if c = '\\' then (escape? r).bind fun e => basicChars fuel (e.1 :: acc) e.2
    else if isPlain c then basicChars fuel (c :: acc) r
    else none

/-- A string in single quotes, after the first of them. -/
def literalString (cs : List Char) : Option (String × List Char) :=
  let inside (c : Char) : Bool := c ≠ '\'' && isPlain c
  match cs.dropWhile inside with
  | '\'' :: r => some (String.ofList (cs.takeWhile inside), r)
  | _ => none

/-- The characters of a string in tripled quotes up to its end, in reverse on top of `acc`.
With `escapes`, a backslash at the end of a line drops what is blank after it.  The fuel is
above the number of characters left. -/
def longChars (quote : Char) (escapes : Bool) : Nat → List Char → Step String
  | 0, _, _ => none
  | _ + 1, _, [] => none
  | fuel + 1, acc, c :: r =>
    if c = quote then
      let run := ((c :: r).takeWhile (· = quote)).length
      if run < 3 then longChars quote escapes fuel (c :: acc) r
      else
        let extra := min (run - 3) 2
        some (String.ofList (acc.reverse ++ List.replicate extra quote), (c :: r).drop (3 + extra))
    else if escapes && c = '\\' then
      match skipInline r with
      | '\n' :: _ => longChars quote escapes fuel acc (skipLines r)
      | '\r' :: '\n' :: _ => longChars quote escapes fuel acc (skipLines r)
      | _ => (escape? r).bind fun e => longChars quote escapes fuel (e.1 :: acc) e.2
    else
      match c, r with
      | '\r', '\n' :: r => longChars quote escapes fuel ('\n' :: acc) r
      | _, _ => if c = '\n' || isPlain c then longChars quote escapes fuel (c :: acc) r else none

/-- A string in tripled quotes, after the first three. -/
def longString (quote : Char) (escapes : Bool) (cs : List Char) : Option (String × List Char) :=
  let cs := match cs with
    | '\n' :: r => r
    | '\r' :: '\n' :: r => r
    | cs => cs
  longChars quote escapes (cs.length + 1) [] cs

/-- A string in double quotes, after the first of them. -/
def basicString (cs : List Char) : Option (String × List Char) := basicChars (cs.length + 1) [] cs

/-! ## Names -/

/-- The characters of a name without quotes. -/
def isBare (c : Char) : Bool := c.isAlphanum || c = '-' || c = '_'

/-- One name. -/
def name? : Step String
  | '"' :: r => basicString r
  | '\'' :: r => literalString r
  | cs =>
    let front := cs.takeWhile isBare
    if front.isEmpty then none else some (String.ofList front, cs.dropWhile isBare)

/-- How deep names and values may lie. -/
def maxDepth : Nat := 79

/-- Names with dots between them, after those in `path`; at most `bound` of them. -/
def keyFrom : Nat → List String → Step Key
  | 0, _, _ => none
  | bound + 1, path, cs =>
    match name? (skipInline cs) with
    | none => none
    | some (name, r) =>
      match skipInline r with
      | '.' :: r => keyFrom bound (path ++ [name]) r
      | r => some (⟨path, name⟩, r)

/-- A name or names with dots between them. -/
def key? : Step Key := keyFrom maxDepth []

end HostWatch.Toml
