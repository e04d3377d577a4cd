/-!
# TOML documents

A TOML document is a table of values under keys. While a document is read, each
table remembers how it came to be, since that decides what may still be added:
a table with a header of its own takes no second header and no dotted keys from
outside, a table that only lies on the way to another header may still get its
own, and a table made by dotted keys takes further dotted keys but no header.

Numbers with a fraction or an exponent, dates and times are recognized but their
values are not kept.
-/

namespace PredicateLogic.Toml

/-- How a table came to be. -/
inductive Origin where
  /-- By a header of its own, or as the whole document. -/
  | header
  /-- As a table on the way to the header of another. -/
  | parent
  /-- By a dotted key. -/
  | dotted
deriving DecidableEq, Repr

/-- A TOML value. -/
inductive Value where
  | text (s : String)
  | integer (n : Int)
  | float
  | truth (b : Bool)
  | moment
  | array (elements : List Value)
  /-- A table in braces, which is complete. -/
  | inline (entries : List (String × Value))
  /-- A table spread over lines of the document. -/
  | table (origin : Origin) (entries : List (String × Value))
  /-- An array of tables with headers of their own, latest first. -/
  | series (tables : List (List (String × Value)))
deriving Repr

/-- Keys with their values. -/
abbrev Entries := List (String × Value)

namespace Entries

/-- Replaces the value of a key. -/
def replace (key : String) (value : Value) (entries : Entries) : Entries :=
  entries.map fun (k, v) => if k = key then (k, value) else (k, v)

/-- Edits the table that a path leads to, making the tables that are missing on
the way. With `dotted` the path is part of a dotted key, which may not lead
through tables with headers. -/
def within (dotted : Bool) (edit : Origin → Entries → Option Entries) :
    (path : List String) → Origin → Entries → Option Entries
  | [], origin, entries => edit origin entries
  | key :: path, _, entries =>
    match entries.lookup key with
    | none => do
      let origin := if dotted then Origin.dotted else Origin.parent
      let inner ← within dotted edit path origin []
      pure (entries ++ [(key, .table origin inner)])
    | some (.table origin inner) =>
      if dotted && origin == .header then none
      else do
        let inner ← within dotted edit path origin inner
        pure (entries.replace key (.table origin inner))
    | some (.series (table :: tables)) => do
      let table ← within dotted edit path .header table
      pure (entries.replace key (.series (table :: tables)))
    | some _ => none

/-- Gives a key behind a dotted path a value. The key must be new, and the table
that takes it must have been made by dotted keys exactly if there is a path. -/
def assign (path : List String) (key : String) (value : Value)
    (entries : Entries) :
    Option Entries :=
  let add (origin : Origin) (inner : Entries) : Option Entries :=
    if (origin == .dotted) == path.isEmpty || (inner.lookup key).isSome then
      none
    else some (inner ++ [(key, value)])
  within true add path .header entries

/-- Opens the table with the given path and last key. -/
def openTable (path : List String) (key : String) (entries : Entries) :
    Option Entries :=
  let add (_ : Origin) (outer : Entries) : Option Entries :=
    match outer.lookup key with
    | none => some (outer ++ [(key, .table .header [])])
    | some (.table .parent inner) =>
      some (outer.replace key (.table .header inner))
    | some _ => none
  within false add path .header entries

/-- Opens the next table of the array with the given path and last key. -/
def openSeries (path : List String) (key : String) (entries : Entries) :
    Option Entries :=
  let add (_ : Origin) (outer : Entries) : Option Entries :=
    match outer.lookup key with
    | none => some (outer ++ [(key, .series [[]])])
    | some (.series tables) => some (outer.replace key (.series ([] :: tables)))
    | some _ => none
  within false add path .header entries

end Entries

end PredicateLogic.Toml
