import HostWatch.Json.Render
import HostWatch.KeyMap
set_option autoImplicit false

/-!
# Json: values in diagnostics

Diagnostics show a value with the kind of each part, as in `Array [String("a")]`, and
objects in the order of their names.  Two values are the same when their parts are; the
order of the members does not matter, of a repeated name the last member counts, and a
whole number is never the same as a float.
-/

namespace HostWatch.Json

open HostWatch.Number HostWatch.Text

/-- The members of an object by name, the last of a repeated name. -/
def byName (members : List (String × Json)) : List (String × Json) :=
  (members.foldl (fun (m : KeyMap Json) e => m.insert e.1 e.2) .empty).entries

mutual
/-- The value with members in the order of their names, and with whole numbers beyond 64
bits as floats. -/
def canonical : Json → Json
  | .int n =>
    if -(Nat.pow 2 63 : Nat) ≤ n && n < UInt64.size then .int n else (Json.float (Float.ofInt n))
  | .arr items => .arr (canonicalItems items)
  | .obj members => .obj (byName (canonicalMembers members))
  | v => v

/-- The items of an array in canonical form. -/
def canonicalItems : List Json → List Json
  | [] => []
  | v :: vs => canonical v :: canonicalItems vs

/-- The members of an object with values in canonical form. -/
def canonicalMembers : List (String × Json) → List (String × Json)
  | [] => []
  | (k, v) :: rest => (k, canonical v) :: canonicalMembers rest
end

mutual
/-- Two values in canonical form are the same. -/
def same : Json → Json → Bool
  | .null, .null => true
  | .bool a, .bool b => a == b
  | .int a, .int b => a == b
  | .float a, .float b => a == b
  | .str a, .str b => a == b
  | .arr xs, .arr ys => sameItems xs ys
  | .obj xs, .obj ys => sameMembers xs ys
  | _, _ => false

/-- Two lists of items are the same. -/
def sameItems : List Json → List Json → Bool
  | [], [] => true
  | x :: xs, y :: ys => same x y && sameItems xs ys
  | _, _ => false

/-- Two lists of members are the same. -/
def sameMembers : List (String × Json) → List (String × Json) → Bool
  | [], [] => true
  | (k, x) :: xs, (l, y) :: ys => k == l && same x y && sameMembers xs ys
  | _, _ => false
end

mutual
/-- The value with the kind of each part. -/
def tagged : Json → String
  | .null => "Null"
  | .bool b => if b then "Bool(true)" else "Bool(false)"
  | .int n => "Number(" ++ intText n ++ ")"
  | .float x => "Number(" ++ dataText x ++ ")"
  | .str s => "String(" ++ quoted s ++ ")"
  | .arr items => "Array [" ++ ", ".intercalate (taggedItems items) ++ "]"
  | .obj members => "Object \x7b" ++ ", ".intercalate (taggedMembers members) ++ "\x7d"
  | .malformed => "Null"

/-- The items of an array with their kinds. -/
def taggedItems : List Json → List String
  | [] => []
  | v :: vs => tagged v :: taggedItems vs

/-- The members of an object with the kinds of their values. -/
def taggedMembers : List (String × Json) → List String
  | [] => []
  | (k, v) :: rest => (quoted k ++ ": " ++ tagged v) :: taggedMembers rest
end

/-- The part of a value at a path: names of members and positions of items. -/
def part? : List String → Json → Option Json
  | [], v => some v
  | name :: path, .obj members => (members.lookup name).bind (part? path)
  | name :: path, .arr items =>
    (natBelow? UInt64.size name).bind fun i => (items[i]?).bind (part? path)
  | _ :: _, _ => none

mutual
/-- `upper` laid over a value: objects are merged member by member, and any other value
takes the place of the old one. -/
def overlaid (upper lower : Json) : Json :=
  match upper, lower with
  | .obj us, .obj ls => .obj (overlaidMembers us ls)
  | u, _ => u

/-- Members laid over members. -/
def overlaidMembers : List (String × Json) → List (String × Json) → List (String × Json)
  | [], ls => ls
  | (k, u) :: us, ls =>
    let old := (ls.lookup k).getD .null
    overlaidMembers us (ls.filter (·.1 != k) ++ [(k, overlaid u old)])
end

end HostWatch.Json
