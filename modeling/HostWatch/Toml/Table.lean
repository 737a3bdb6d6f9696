import HostWatch.Json.Basic
set_option autoImplicit false

/-!
# Toml: tables under construction

A TOML text builds one table, statement by statement.  A table may be given once only,
so each table remembers where it comes from:

- a header or the text as a whole gives it (`given`), and no one else may;
- it lies on the way to the table of a header (`implied`), and a later header may still
  give it;
- it lies on the way of a dotted name (`dotted`), and further dotted names may add to it.

A value that was written after an equals sign is closed, tables in braces included.
-/

namespace HostWatch.Toml

/-- Where a table comes from. -/
inductive Origin where
  | given
  | implied
  | dotted
  deriving DecidableEq, Repr, Inhabited

/-- What stands under a name. -/
inductive Node where
  /-- a closed value -/
  | value (v : Json)
  /-- a table with its members -/
  | table (origin : Origin) (members : List (String × Node))
  /-- tables under one name, the current one last -/
  | tables (elements : List Node)
  deriving Inhabited

/-- The names that lead to a place, and the last one there. -/
structure Key where
  path : List String
  name : String
  deriving DecidableEq, Repr, Inhabited

namespace Node

/-- A table that holds nothing yet. -/
def fresh (origin : Origin) : Node := .table origin []

/-- The members with one of them set. -/
def setMember (name : String) (node : Node) : List (String × Node) → List (String × Node)
  | [] => [(name, node)]
  | m :: rest => if m.1 = name then (name, node) :: rest else m :: setMember name node rest

/-- Changes the table at a path below a table.  Tables that are missing on the way come
into being with the origin `onWay`; of tables under one name the current one is meant.  A
dotted name does not lead into a table that was given elsewhere, and nothing leads into a
closed value. -/
def update (onWay : Origin) (change : Node → Option Node) : List String → Node → Option Node
  | [], t => change t
  | name :: path, .table origin members => do
    let child ←
      match members.lookup name with
      | none => update onWay change path (fresh onWay)
      | some (.table o ms) =>
        if onWay = .dotted && o = .given then none else update onWay change path (.table o ms)
      | some (.tables elements) => do
        let last ← elements.getLast?
        let last ← update onWay change path last
        some (.tables (elements.dropLast ++ [last]))
      | some (.value _) => none
    some (.table origin (setMember name child members))
  | _ :: _, _ => none

/-- Puts a value under a name that is still free.  A dotted name ends in a table of dotted
names, and a plain one in no such table. -/
def put (key : Key) (v : Json) : Node → Option Node :=
  update .dotted (fun
    | .table origin members =>
      if (origin = .dotted) = key.path.isEmpty || (members.lookup key.name).isSome then none
      else some (.table origin (members ++ [(key.name, .value v)]))
    | _ => none) key.path

/-- Gives the table of a header. -/
def give (key : Key) : Node → Option Node :=
  update .implied (fun
    | .table origin members =>
      match members.lookup key.name with
      | none => some (.table origin (members ++ [(key.name, fresh .given)]))
      | some (.table .implied ms) =>
        some (.table origin (setMember key.name (.table .given ms) members))
      | some _ => none
    | _ => none) key.path

/-- Adds a table to those under one name. -/
def append (key : Key) : Node → Option Node :=
  update .implied (fun
    | .table origin members =>
      match members.lookup key.name with
      | none => some (.table origin (members ++ [(key.name, .tables [fresh .given])]))
      | some (.tables elements) =>
        some (.table origin (setMember key.name (.tables (elements ++ [fresh .given])) members))
      | some _ => none
    | _ => none) key.path

mutual
/-- The value that was built. -/
def toJson : Node → Json
  | .value v => v
  | .table _ members => .obj (membersJson members)
  | .tables elements => .arr (elementsJson elements)

/-- The values of tables under one name. -/
def elementsJson : List Node → List Json
  | [] => []
  | n :: rest => n.toJson :: elementsJson rest

/-- The values of members. -/
def membersJson : List (String × Node) → List (String × Json)
  | [] => []
  | (name, n) :: rest => (name, n.toJson) :: membersJson rest
end

end Node

/-! ## Statements -/

/-- One statement of a text. -/
inductive Statement where
  /-- a name gets a value -/
  | entry (key : Key) (value : Json)
  /-- a header: the entries after it belong to this table -/
  | header (key : Key)
  /-- a header of one more table under a name -/
  | element (key : Key)
  deriving Inhabited

/-- The table built so far, and the place to which entries belong. -/
structure Document where
  root : Node
  here : List String
  deriving Inhabited

namespace Document

/-- The document before its first statement. -/
def empty : Document := ⟨.fresh .given, []⟩

/-- The document after one more statement; none when the statement contradicts those before
it. -/
def add (d : Document) : Statement → Option Document
  | .entry key v => do
    let root ← Node.update .implied (Node.put key v) d.here d.root
    some { d with root }
  | .header key => do
    let root ← d.root.give key
    some ⟨root, key.path ++ [key.name]⟩
  | .element key => do
    let root ← d.root.append key
    some ⟨root, key.path ++ [key.name]⟩

/-- The value that statements build together. -/
def build (statements : List Statement) : Option Json :=
  (statements.foldlM add empty).map fun d => d.root.toJson

end Document

end HostWatch.Toml
