import Rollout.Json

/-!
# Tables in TOML

A document builds a tree of tables. A table is begun by a header, by the header of a table within
it, or by a dotted name; each may be begun once only in its way, and only a table that was begun on
the way to another may be begun by a header later. Values that are written as a whole, such as
arrays and tables in braces, are closed.
-/

namespace Rollout.Toml

/-- How a table was begun. -/
inductive Begun where
  /-- On the way to a table within it. -/
  | onTheWay
  /-- By its own header. -/
  | byHeader
  /-- By a dotted name. -/
  | byName
  deriving DecidableEq, Repr

/-- A part of the tree. -/
inductive Node where
  /-- A closed value. -/
  | value (j : Json)
  | table (begun : Begun) (entries : List (String × Node))
  /-- Several tables under one name, latest first. -/
  | tables (items : List (List (String × Node)))

/-- The entries of a table, in order. -/
abbrev Entries :=
  List (String × Node)

namespace Entries

/-- The entries with another node under a name, where there was one, or else at the end. -/
def put (name : String) (node : Node) : Entries → Entries
  | [] => [(name, node)]
  | (n, old) :: rest => if n = name then (n, node) :: rest else (n, old) :: put name node rest

/-- Changes the table at the end of a path. Tables that are not there are begun; one that is there
must have been begun in an allowed way. Of several tables under one name the latest is meant. -/
def atPath (begin : Begun) (allowed : Begun → Bool) (change : Entries → Option Entries) :
    List String → Entries → Option Entries
  | [], entries => change entries
  | name :: path, entries =>
    match entries.lookup name with
    | none => (atPath begin allowed change path []).map fun inner =>
        put name (.table begin inner) entries
    | some (.table begun inner) =>
      if allowed begun then
        (atPath begin allowed change path inner).map fun inner =>
          put name (.table begun inner) entries
      else none
    | some (.tables (item :: items)) =>
      if begin = .onTheWay then
        (atPath begin allowed change path item).map fun item =>
          put name (.tables (item :: items)) entries
      else none
    | some _ => none

/-- Begins the table of a header. -/
def beginTable (name : String) (entries : Entries) : Option Entries :=
  match entries.lookup name with
  | none => some (put name (.table .byHeader []) entries)
  | some (.table .onTheWay inner) => some (put name (.table .byHeader inner) entries)
  | some _ => none

/-- Begins one more of several tables under one name. -/
def beginItem (name : String) (entries : Entries) : Option Entries :=
  match entries.lookup name with
  | none => some (put name (.tables [[]]) entries)
  | some (.tables items) => some (put name (.tables ([] :: items)) entries)
  | some _ => none

/-- Adds a node under a name that is not there yet. -/
def addNew (name : String) (node : Node) (entries : Entries) : Option Entries :=
  match entries.lookup name with
  | none => some (put name node entries)
  | some _ => none

/-- Adds a value under a dotted name. -/
def assign (path : List String) (name : String) (j : Json) (entries : Entries) : Option Entries :=
  atPath .byName (· = .byName) (addNew name (.value j)) path entries

/-- The entries as a JSON value. -/
def toJson (entries : Entries) : Json :=
  .object (members entries)
where
  /-- The members of a table. -/
  members : List (String × Node) → List (String × Json)
    | [] => []
    | (name, node) :: rest => (name, nodeJson node) :: members rest
  /-- A part of the tree as a JSON value. -/
  nodeJson : Node → Json
    | .value j => j
    | .table _ entries => .object (members entries)
    | .tables items => .array (objects items).reverse
  /-- Tables as objects. -/
  objects : List (List (String × Node)) → List Json
    | [] => []
    | entries :: rest => .object (members entries) :: objects rest

end Entries

end Rollout.Toml
