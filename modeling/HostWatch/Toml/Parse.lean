import HostWatch.Toml.Scalar
set_option autoImplicit false

/-!
# Toml: reading text

A text is read into statements, which then build its value (`Document.build`).  The steps
for values, lists and tables in braces call each other; `fuel` starts above the length of
the text and falls no faster than the text is used up, and `depth` says how many more
values may lie around each other.
-/

namespace HostWatch.Toml

open HostWatch.Json.Parse (Step)

mutual
/-- A value. -/
def value : Nat → Nat → Step Json
  | 0, _, _ => none
  | fuel + 1, depth, cs =>
    let text (s : Option (String × List Char)) : Option (Json × List Char) :=
      s.map fun (s, r) => (.str s, r)
    match cs with
    | '"' :: '"' :: '"' :: r => text (longString '"' true r)
    | '"' :: r => text (basicString r)
    | '\'' :: '\'' :: '\'' :: r => text (longString '\'' false r)
    | '\'' :: r => text (literalString r)
    | 't' :: 'r' :: 'u' :: 'e' :: r => some (.bool true, r)
    | 'f' :: 'a' :: 'l' :: 's' :: 'e' :: r => some (.bool false, r)
    | '[' :: r => if depth = 0 then none else items fuel (depth - 1) [] r
    | '\x7b' :: r =>
      if depth = 0 then none
      else
        match skipInline r with
        | '\x7d' :: r => some (.obj [], r)
        | r => members fuel (depth - 1) (.fresh .given) r
    | cs => scalar? cs

/-- The items of a list that are left, up to the closing bracket. -/
def items : Nat → Nat → List Json → Step Json
  | 0, _, _, _ => none
  | fuel + 1, depth, acc, cs =>
    match skipGap false cs with
    | ']' :: r => some (.arr acc.reverse, r)
    | r =>
      match value fuel depth r with
      | none => none
      | some (v, r) =>
        match skipGap false r with
        | ',' :: r => items fuel depth (v :: acc) r
        | ']' :: r => some (.arr (v :: acc).reverse, r)
        | _ => none

/-- The members of a table in braces that are left, at least one, up to the closing
brace. -/
def members : Nat → Nat → Node → Step Json
  | 0, _, _, _ => none
  | fuel + 1, depth, table, cs =>
    match key? cs with
    | some (key, '=' :: r) =>
      match value fuel depth (skipInline r) with
      | none => none
      | some (v, r) =>
        match table.put key v with
        | none => none
        | some table =>
          match skipInline r with
          | ',' :: r => members fuel depth table r
          | '\x7d' :: r => some (table.toJson, r)
          | _ => none
    | _ => none
end

/-- One statement with the line it stands on, after the blanks in front of it.  A header
stands in brackets, and in two pairs of them when it adds to tables under one name. -/
def statement? (cs : List Char) : Option (Statement × List Char) :=
  match cs with
  | '[' :: '[' :: r =>
    match key? r with
    | some (key, ']' :: ']' :: r) => (endOfLine? r).map fun r => (.element key, r)
    | _ => none
  | '[' :: r =>
    match key? r with
    | some (key, ']' :: r) => (endOfLine? r).map fun r => (.header key, r)
    | _ => none
  | cs =>
    match key? cs with
    | some (key, '=' :: r) => do
      let (v, r) ← value (2 * r.length + 2) maxDepth (skipInline r)
      let r ← endOfLine? r
      some (.entry key v, r)
    | _ => none

/-- The statements of a text, in reverse on top of `acc`.  The fuel is above the number of
characters left. -/
def statements : Nat → List Statement → List Char → Option (List Statement)
  | 0, _, _ => none
  | fuel + 1, acc, cs =>
    match skipLines cs with
    | [] => some acc.reverse
    | '#' :: r => (endOfLine? ('#' :: r)).bind (statements fuel acc)
    | c :: r => (statement? (c :: r)).bind fun (s, r) => statements fuel (s :: acc) r

/-- The value that a TOML text stands for; none when the text is not TOML.  A byte order
mark in front is skipped. -/
def parse? (s : String) : Option Json :=
  let cs := match s.toList with
    | '\ufeff' :: r => r
    | cs => cs
  (statements (cs.length + 1) [] cs).bind Document.build

end HostWatch.Toml
