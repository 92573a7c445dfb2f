import ModuleSynthesis.Toml.Value

/-!
# Tables under construction

A document builds its tables piece by piece, and says in three ways that a table is there: by a
header, by a longer header or key that passes through it, and by a dotted key. What may be added
to a table later depends on the way, and nothing may be said twice.

* `Node`: a finished value, a table, or an array of tables, with the way it came about.
* `Entries.descend`: changes the table under a path of keys, and makes the tables on the way.
* `Entries.assign`, `Entries.open`, `Entries.openElement`: the three things a document says.
* `Entries.toValues`: the values that were built.
-/

namespace ModuleSynthesis.Toml

/-- How a table came about. -/
inductive TableKind where
  /-- A header names it, or it is the document itself. -/
  | header
  /-- A longer header passes through it. -/
  | implicit
  /-- A dotted key passes through it. -/
  | dotted
deriving DecidableEq, Repr

mutual

/-- What stands under a key. -/
inductive Node where
  /-- A value that is complete. -/
  | leaf (value : Value)
  /-- A table. -/
  | table (kind : TableKind) (entries : Entries)
  /-- Tables in a row, latest first. -/
  | tables (latest : Entries) (earlier : Tables)

/-- The entries of a table, in order. -/
inductive Entries where
  /-- No entries. -/
  | nil
  /-- An entry before others. -/
  | cons (key : String) (node : Node) (rest : Entries)

/-- Tables in a row, latest first. -/
inductive Tables where
  /-- No tables. -/
  | nil
  /-- The latest table and the earlier ones. -/
  | cons (latest : Entries) (earlier : Tables)

end

namespace Entries

/-- What stands under a key. -/
def find? (key : String) : Entries → Option Node
  | .nil => none
  | .cons other node rest => if other = key then some node else rest.find? key

/-- Puts a node under a key: in its place where the key occurs, else at the end. -/
def put (key : String) (node : Node) : Entries → Entries
  | .nil => .cons key node .nil
  | .cons other old rest =>
    if other = key then .cons key node rest else .cons other old (rest.put key node)

/-- Takes a key away. -/
def erase (key : String) : Entries → Entries
  | .nil => .nil
  | .cons other node rest => if other = key then rest else .cons other node (rest.erase key)

/-! ## Construction -/

/-- Changes the table under a path of keys. Tables on the way are made where they are missing; of
an array of tables the latest one is meant. A dotted key may not pass through a table that a header
names. -/
def descend (dotted : Bool) (change : TableKind → Entries → Option Entries) :
    List String → TableKind → Entries → Option Entries
  | [], kind, entries => change kind entries
  | key :: path, _, entries =>
    match entries.find? key with
    | none =>
      let kind := if dotted then .dotted else .implicit
      (descend dotted change path kind .nil).map fun inner => entries.put key (.table kind inner)
    | some (.leaf _) => none
    | some (.table kind inner) =>
      if dotted && kind = .header then none
      else (descend dotted change path kind inner).map fun inner =>
        entries.put key (.table kind inner)
    | some (.tables latest earlier) =>
      (descend dotted change path .header latest).map fun latest =>
        entries.put key (.tables latest earlier)

/-- A key and its value in a table, the key with the dotted keys in front of it. -/
def assign (path : List String) (key : String) (value : Value) (kind : TableKind)
    (entries : Entries) : Option Entries :=
  entries.descend true (fun kind entries =>
    if (kind = .dotted) = (path = []) then none
    else
      match entries.find? key with
      | none => some (entries.put key (.leaf value))
      | some _ => none) path kind

/-- A table that a header names. -/
def openTable (path : List String) (key : String) (entries : Entries) : Option Entries :=
  entries.descend false (fun _ entries =>
    match entries.find? key with
    | none => some (entries.put key (.table .header .nil))
    | some (.table .implicit inner) => some ((entries.erase key).put key (.table .header inner))
    | some _ => none) path .header

/-- One more table of an array of tables that a header names. -/
def openElement (path : List String) (key : String) (entries : Entries) : Option Entries :=
  entries.descend false (fun _ entries =>
    match entries.find? key with
    | none => some (entries.put key (.tables .nil .nil))
    | some (.tables latest earlier) =>
      some (entries.put key (.tables .nil (.cons latest earlier)))
    | some _ => none) path .header

end Entries

/-! ## Values -/

mutual

/-- The value that a node stands for. -/
def Node.toValue : Node → Value
  | .leaf value => value
  | .table _ entries => .table entries.toValues
  | .tables latest earlier => .tables (earlier.toValues [.table latest.toValues])

/-- The entries with their values. -/
def Entries.toValues : Entries → List (String × Value)
  | .nil => []
  | .cons key node rest => (key, node.toValue) :: rest.toValues

/-- The tables, earliest first, in front of later ones. -/
def Tables.toValues : Tables → List Value → List Value
  | .nil, later => later
  | .cons latest earlier, later => earlier.toValues (.table latest.toValues :: later)

end

end ModuleSynthesis.Toml
