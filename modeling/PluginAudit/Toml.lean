import PluginAudit.SortedList

/-!
# Documents of settings

The tree that a document in TOML stands for.  A table remembers how it came to
be, since that decides what may still be added to it.  Numbers other than
integers, truth values and dates only have to be well-formed; nothing in them is
kept.
-/

namespace PluginAudit

inductive TableOrigin
  | value
  /-- It has a header of its own, or is the whole document. -/
  | header
  /-- It was named on the way to a header. -/
  | implied
  /-- It was named on the way to a key with dots. -/
  | dotted
deriving DecidableEq, Inhabited

/-- Whether keys with dots may add to a table. -/
def TableOrigin.takesDotted : TableOrigin → Bool
  | .implied | .dotted => true
  | .header | .value => false

inductive Toml
  | text (value : String)
  | integer (value : Int)
  /-- A truth value, a number that is no integer, or a date. -/
  | scalar
  | list (items : List Toml)
  /-- A table, its entries in the order of their keys. -/
  | table (origin : TableOrigin) (entries : List (String × Toml))
  /-- A list of tables that have headers; more can be added, and the last one is
  the one that headers behind it add to. -/
  | tables (earlier : List Toml) (last : Toml)
deriving Inhabited

namespace Toml

def empty : Toml := .table .header []

def entries? : Toml → Option (List (String × Toml))
  | table _ entries => some entries
  | _ => none

/-- The value under a key of a table. -/
def get? (t : Toml) (key : String) : Option Toml := t.entries?.bind (Assoc.get? key)

def text? : Toml → Option String
  | text value => some value
  | _ => none

def integer? : Toml → Option Int
  | integer value => some value
  | _ => none

/-- The items of a list; tables that have headers count, too. -/
def items? : Toml → Option (List Toml)
  | list items => some items
  | tables earlier last => some (earlier ++ [last])
  | _ => none

/-! ## Adding to a document -/

/-- Change the table that a path of keys leads to.  `viaDots` tells that the path is that of
a key with dots. -/
def changeAt (viaDots : Bool) (change : Toml → Option Toml) : List String → Toml → Option Toml
  | [], t => change t
  | key :: path, table origin entries =>
      let put (child : Toml) : Toml := .table origin (Assoc.put textLess key child entries)
      match Assoc.get? key entries with
      | none =>
          -- tables that are missing on the way are made
          let fresh : Toml := .table (if viaDots then .dotted else .implied) []
          (changeAt viaDots change path fresh).map put
      | some (table childOrigin childEntries) =>
          if childOrigin == .value || (viaDots && !childOrigin.takesDotted) then none
          else (changeAt viaDots change path (.table childOrigin childEntries)).map put
      | some (tables earlier last) =>
          -- headers add to the last of the tables
          (changeAt viaDots change path last).map fun last => put (.tables earlier last)
      | some _ => none
  | _ :: _, _ => none

/-- Add an entry to a table.  `viaDots` tells that its key has dots. -/
def addEntry (viaDots : Bool) (key : String) (value : Toml) : Toml → Option Toml
  | table origin entries =>
      -- keys with dots add only to tables that came to be on the way to one
      if viaDots && origin != .dotted then none
      else if Assoc.contains key entries then none
      else some (.table origin (Assoc.put textLess key value entries))
  | _ => none

/-- Add a value under a key with dots to a table. -/
def addPair (t : Toml) (path : List String) (key : String) (value : Toml) : Option Toml :=
  t.changeAt (!path.isEmpty) (addEntry (!path.isEmpty) key value) path

def openTable (key : String) : Toml → Option Toml
  | table origin entries =>
      match Assoc.get? key entries with
      | none => some (.table origin (Assoc.put textLess key empty entries))
      | some (table .implied inner) =>
          some (.table origin (Assoc.put textLess key (.table .header inner) entries))
      | some _ => none
  | _ => none

/-- Open another table in the list of tables of a header. -/
def openItem (key : String) : Toml → Option Toml
  | table origin entries =>
      match Assoc.get? key entries with
      | none => some (.table origin (Assoc.put textLess key (.tables [] empty) entries))
      | some (tables earlier last) =>
          some (.table origin
            (Assoc.put textLess key (.tables (earlier ++ [last]) empty) entries))
      | some _ => none
  | _ => none

end Toml

end PluginAudit
