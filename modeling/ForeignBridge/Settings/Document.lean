/-!
# Settings documents

A settings document is a tree of tables, arrays and plain values under string keys.  It is written
as a sequence of sections, and every table may be written in one place only.  To see when a table
is written twice, the tree keeps how each table came about.
-/

namespace ForeignBridge
namespace Document

/-- How a table came about. -/
inductive Origin where
  /-- A header opened it, or it is the whole document. -/
  | header
  /-- A header opened a table inside it. -/
  | implied
  /-- A dotted key passed through it. -/
  | dotted
  /-- It was written as a value. -/
  | inline
  deriving DecidableEq, Repr

/-- What a key stands for.  No reader of settings asks which number or moment it is. -/
inductive Node where
  | text (s : String)
  | flag (b : Bool)
  | number
  | moment
  | array (items : List Node)
  | table (origin : Origin) (entries : List (String × Node))
  /-- An array of tables, each of which a header opened. -/
  | tables (elements : List (List (String × Node)))

abbrev Entries := List (String × Node)

/-- A key with the value that it gets, in a table that a path leads to. -/
structure Assignment where
  path : List String
  key : String
  value : Node

/-- The header of a section: a table, or one more element of an array of tables. -/
inductive Header where
  | table (path : List String) (key : String)
  | element (path : List String) (key : String)

/-- A header with the assignments below it.  The first section has none. -/
structure Section where
  header : Option Header
  assignments : List Assignment

namespace Entries

def put (entries : Entries) (key : String) (node : Node) : Entries :=
  entries.filter (·.1 != key) ++ [(key, node)]

/-- Changes the table at the end of a path, and makes the tables on the way that do not exist.  In
an array of tables the path goes on in the last one.  A dotted key does not lead through a table
that a header opened. -/
def descend (dotted : Bool) (change : Origin → Entries → Option Entries) :
    Origin → List String → Entries → Option Entries
  | origin, [], entries => change origin entries
  | _, key :: path, entries => do
    match entries.lookup key with
    | none =>
      let origin := if dotted then .dotted else .implied
      return entries.put key (.table origin (← descend dotted change origin path []))
    | some (.table origin inner) =>
      if origin = .inline ∨ (dotted ∧ origin = .header) then none
      else return entries.put key (.table origin (← descend dotted change origin path inner))
    | some (.tables elements) =>
      let last ← descend dotted change .header path (← elements.getLast?)
      return entries.put key (.tables (elements.dropLast ++ [last]))
    | some _ => none

/-- Puts a new key into the table at the end of a dotted path.  A path that is not empty ends in a
table made by dotted keys. -/
def assign (entries : Entries) (a : Assignment) : Option Entries :=
  let change := fun (origin : Origin) (inner : Entries) =>
    if (a.path.isEmpty || origin = .dotted) && (inner.lookup a.key).isNone then
      some (inner.put a.key a.value)
    else none
  entries.descend true change .header a.path

def assignAll (entries : Entries) (assignments : List Assignment) : Option Entries :=
  assignments.foldlM assign entries

/-- Adds a section.  A header may open a table that was only implied, but none a second time. -/
def addSection (root : Entries) (s : Section) : Option Entries :=
  match s.header with
  | none => root.assignAll s.assignments
  | some (.table path key) =>
    let change := fun (_ : Origin) (entries : Entries) => do
      let inner ← match entries.lookup key with
        | none => some []
        | some (.table .implied inner) => some inner
        | some _ => none
      return entries.put key (.table .header (← assignAll inner s.assignments))
    root.descend false change .header path
  | some (.element path key) =>
    let change := fun (_ : Origin) (entries : Entries) => do
      let elements ← match entries.lookup key with
        | none => some []
        | some (.tables elements) => some elements
        | some _ => none
      return entries.put key (.tables (elements ++ [← assignAll [] s.assignments]))
    root.descend false change .header path

def ofSections (sections : List Section) : Option Entries :=
  sections.foldlM addSection []

end Entries
end Document
end ForeignBridge
