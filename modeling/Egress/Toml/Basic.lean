/-!
# TOML documents

A document is a table that is built entry by entry. How a table came to be decides what may still be
added to it: a header may not open a table twice, dotted keys may not reach into a table that has a
header of its own, and nothing may be added to a table that is written as a value.

Of floats and dates only the presence is kept.
-/

namespace Egress

/-- How a table came to be. -/
inductive Toml.Origin where
  /-- By a header of its own. -/
  | header
  /-- By the header of a table inside it. -/
  | implied
  /-- By a dotted key. -/
  | dotted
  /-- As a value. -/
  | inline
  deriving Repr, DecidableEq

inductive Toml where
  | string (s : String)
  | integer (n : Int)
  | float
  | boolean (b : Bool)
  | date
  | array (items : List Toml)
  | table (origin : Toml.Origin) (entries : List (String × Toml))
  /-- The tables under doubled headers of one name. -/
  | tables (elements : List (List (String × Toml)))
  deriving Repr

namespace Toml

/-- The entries of a table in the order they were made. -/
abbrev Entries := List (String × Toml)

def lookup (key : String) (entries : Entries) : Option Toml :=
  (entries.find? (fun e => e.1 == key)).map Prod.snd

def replace (key : String) (v : Toml) (entries : Entries) : Entries :=
  entries.map fun e => if e.1 = key then (key, v) else e

/-- Applies a change to the last of several tables. -/
def changeLast (f : Entries → Option Entries) : List Entries → Option (List Entries)
  | [] => none
  | [e] => (f e).map ([·])
  | e :: rest => (changeLast f rest).map (e :: ·)

/-- Adds a value under a dotted key. The tables on the way are made; those that are there must have
come from keys too, or, except for the last, be implied by a header. -/
def assign (v : Toml) : List String → Entries → Option Entries
  | [], _ => none
  | [key], entries => if (lookup key entries).isSome then none else some (entries ++ [(key, v)])
  | key :: next :: rest, entries =>
    match lookup key entries with
    | none => (assign v (next :: rest) []).map fun sub => entries ++ [(key, table .dotted sub)]
    | some (.table .dotted sub) =>
      (assign v (next :: rest) sub).map fun sub => replace key (table .dotted sub) entries
    | some (.table .implied sub) =>
      if rest.isEmpty then none
      else (assign v (next :: rest) sub).map fun sub => replace key (table .implied sub) entries
    | some (.tables elements) =>
      if rest.isEmpty then none
      else
        (changeLast (assign v (next :: rest)) elements).map fun es =>
          replace key (tables es) entries
    | some _ => none

/-- Applies a change to the table that a path leads to. Tables on the way are made; of tables under
doubled headers the last one is meant. -/
def changeAt (f : Entries → Option Entries) : List String → Entries → Option Entries
  | [], entries => f entries
  | key :: rest, entries =>
    match lookup key entries with
    | none => (changeAt f rest []).map fun sub => entries ++ [(key, table .implied sub)]
    | some (.table .inline _) => none
    | some (.table origin sub) =>
      (changeAt f rest sub).map fun sub => replace key (table origin sub) entries
    | some (.tables elements) =>
      (changeLast (changeAt f rest) elements).map fun es => replace key (tables es) entries
    | some _ => none

/-- Opens a table by its header. Only an implied table may be there before. -/
def openTable (key : String) (entries : Entries) : Option Entries :=
  match lookup key entries with
  | none => some (entries ++ [(key, table .header [])])
  | some (.table .implied sub) => some (replace key (table .header sub) entries)
  | some _ => none

def openElement (key : String) (entries : Entries) : Option Entries :=
  match lookup key entries with
  | none => some (entries ++ [(key, tables [[]])])
  | some (.tables elements) => some (replace key (tables (elements ++ [[]])) entries)
  | some _ => none

inductive Statement where
  | table (path : List String)
  | element (path : List String)
  | entry (path : List String) (value : Toml)

/-- A document in the making: its entries, and the path of the table that further entries go to. -/
structure Draft where
  current : List String
  entries : Entries

def Draft.add (d : Draft) : Statement → Option Draft
  | .table path =>
    (changeAt (openTable (path.getLast?.getD "")) path.dropLast d.entries).map (⟨path, ·⟩)
  | .element path =>
    (changeAt (openElement (path.getLast?.getD "")) path.dropLast d.entries).map (⟨path, ·⟩)
  | .entry path value => (changeAt (assign value path) d.current d.entries).map (⟨d.current, ·⟩)

/-- The document that lines make, if they agree with each other. -/
def ofStatements (statements : List Statement) : Option Entries :=
  (statements.foldlM Draft.add ⟨[], []⟩).map Draft.entries

/-- The table that is written as a value with the given dotted keys. -/
def inlineTable? (pairs : List (List String × Toml)) : Option Toml :=
  (pairs.foldlM (fun entries p => assign p.2 p.1 entries) []).map (table .inline)

end Toml

end Egress
