/-! # TOML tables

A document is a table of items. Tables remember how they came about: a table that a header or an
inline table has defined cannot be defined again, and one that dotted keys have made cannot be
named by a header. -/

namespace DuplicateLogic.Toml

/-- How a table came about. -/
inductive Origin where
  | header
  | implied
  | dotted
  | inline
  deriving DecidableEq, Repr

/-- A value of a document, or a table that is still being filled. -/
inductive Item where
  | string (value : String)
  | scalar
  | array (items : List Item)
  | table (origin : Origin) (entries : List (String × Item))
  | tables (rows : List (List (String × Item)))

/-- The entries of a table. -/
abbrev Entries := List (String × Item)

namespace Entries

/-- The entry of a key replaced by what `change` makes of it; a new key goes to the end. -/
def change (key : String) (f : Option Item → Option Item) : Entries → Option Entries
  | [] => (f none).map fun item => [(key, item)]
  | (name, item) :: rest =>
      if name = key then
        (f (some item)).map fun item => (name, item) :: rest
      else
        (change key f rest).map fun rest => (name, item) :: rest

/-- Changes the table that a path of keys leads to; a missing table is made. Dotted keys may not
enter a table that a header has defined, and nothing enters an inline table. -/
def descend (dotted : Bool) (f : Entries → Option Entries) :
    List String → Entries → Option Entries
  | [], entries => f entries
  | key :: path, entries =>
      entries.change key fun
        | none =>
            (descend dotted f path []).map (.table (if dotted then .dotted else .implied))
        | some (.table origin inner) =>
            if origin = .inline || (dotted && origin = .header) then none
            else (descend dotted f path inner).map (.table origin)
        | some (.tables rows) =>
            if dotted then
              none
            else
              match rows.getLast? with
              | some last =>
                  (descend dotted f path last).map fun last => .tables (rows.dropLast ++ [last])
              | none => none
        | some _ => none

/-- Adds an item under a new key. -/
def add (key : String) (item : Item) (entries : Entries) : Option Entries :=
  entries.change key fun
    | none => some item
    | some _ => none

/-- Adds an item under a dotted key. -/
def assign (keys : List String) (item : Item) (entries : Entries) : Option Entries :=
  match keys.getLast? with
  | some key => descend true (add key item) keys.dropLast entries
  | none => none

/-- Opens the table of a header, which may only have been implied before. -/
def openTable (keys : List String) (entries : Entries) : Option Entries :=
  match keys.getLast? with
  | none => none
  | some key =>
      descend false
        (fun parent => parent.change key fun
          | none => some (.table .header [])
          | some (.table .implied inner) => some (.table .header inner)
          | some _ => none)
        keys.dropLast entries

/-- Opens a new row of an array of tables. -/
def openRow (keys : List String) (entries : Entries) : Option Entries :=
  match keys.getLast? with
  | none => none
  | some key =>
      descend false
        (fun parent => parent.change key fun
          | none => some (.tables [[]])
          | some (.tables rows) => some (.tables (rows ++ [[]]))
          | some _ => none)
        keys.dropLast entries

/-- The item of a key. -/
def get? (entries : Entries) (key : String) : Option Item :=
  entries.lookup key

end Entries

end DuplicateLogic.Toml
