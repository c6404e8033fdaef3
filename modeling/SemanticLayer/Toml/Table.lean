import SemanticLayer.Json.Basic
/-!
Tables of TOML while a document is read. A table is declared once, by its header; a table that only
stands on the way to another one may still be declared. Dotted keys make tables of their own, which
no header may open and which only dotted keys below the same header extend.
-/
namespace SemanticLayer.Toml

/-- How a table came to be. -/
inductive Origin where
  /-- By its header, or as the whole document. -/
  | declared
  /-- On the way to a table with a header. -/
  | implied
  /-- On the way to a key with points. -/
  | dotted
  deriving DecidableEq, Repr

/-- What stands under a key. -/
inductive Item where
  | value (value : Json)
  | table (origin : Origin) (entries : List (String × Item))
  /-- Tables that share a header, the latest first. -/
  | tables (latest : List (String × Item)) (earlier : List (List (String × Item)))
  deriving Inhabited

/-- What stands under the keys of a table. -/
abbrev Entries := List (String × Item)

/-- Puts an item under a key, in the stead of what stands there. -/
def setItem (key : String) (item : Item) (entries : Entries) : Entries :=
  match Keyed.get? key entries with
  | none => entries ++ [(key, item)]
  | some _ => entries.map fun (k, old) => if k = key then (k, item) else (k, old)

/-- Changes the table that a path of header keys leads to. Tables on the way are made, and of tables
that share a header the latest one is meant. -/
def atPath (change : Entries → Option Entries) : List String → Entries → Option Entries
  | [], entries => change entries
  | key :: path, entries =>
    match Keyed.get? key entries with
    | none => do return setItem key (.table .implied (← atPath change path [])) entries
    | some (.table origin inner) => do
      return setItem key (.table origin (← atPath change path inner)) entries
    | some (.tables latest earlier) => do
      return setItem key (.tables (← atPath change path latest) earlier) entries
    | some (.value _) => none

/-- Opens the table of a header, which must not have been declared. -/
def declare (key : String) (entries : Entries) : Option Entries :=
  match Keyed.get? key entries with
  | none => some (setItem key (.table .declared []) entries)
  | some (.table .implied inner) => some (setItem key (.table .declared inner) entries)
  | some _ => none

/-- Opens one more table of a header that tables share. -/
def append (key : String) (entries : Entries) : Option Entries :=
  match Keyed.get? key entries with
  | none => some (setItem key (.tables [] []) entries)
  | some (.tables latest earlier) => some (setItem key (.tables [] (latest :: earlier)) entries)
  | some _ => none

/-- Stores a value under a new key. -/
def store (key : String) (value : Json) (entries : Entries) : Option Entries :=
  match Keyed.get? key entries with
  | none => some (setItem key (.value value) entries)
  | some _ => none

/-- Stores a value under a key with points, the last part of which is given by itself. -/
def storeDotted (value : Json) (last : String) : List String → Entries → Option Entries
  | [], entries => store last value entries
  | key :: path, entries =>
    match Keyed.get? key entries with
    | none => do return setItem key (.table .dotted (← storeDotted value last path [])) entries
    | some (.table .dotted inner) => do
      return setItem key (.table .dotted (← storeDotted value last path inner)) entries
    | some (.table .implied inner) =>
      if path.isEmpty then none
      else do return setItem key (.table .implied (← storeDotted value last path inner)) entries
    | some (.tables latest earlier) =>
      if path.isEmpty then none
      else do return setItem key (.tables (← storeDotted value last path latest) earlier) entries
    | some _ => none

mutual
/-- The value of an item. -/
def Item.toJson : Item → Json
  | .value v => v
  | .table _ entries => Json.object (membersOf entries)
  | .tables latest earlier => .arr (tablesOf earlier ++ [Json.object (membersOf latest)])
/-- The members of a table. -/
def membersOf : List (String × Item) → List (String × Json)
  | [] => []
  | (key, item) :: rest => (key, item.toJson) :: membersOf rest
/-- The values of tables, the latest first, in the order in which they were opened. -/
def tablesOf : List (List (String × Item)) → List Json
  | [] => []
  | entries :: rest => tablesOf rest ++ [Json.object (membersOf entries)]
end

end SemanticLayer.Toml
