/-!
# Filters

Functions that change what a site answers: which plugins are active and which
theme is in use.  Filters of one hook are applied in the order they were added
in, and each can be taken out again by its number, which is never used twice.
-/

namespace PluginAudit

/-- An answer of the site that can be filtered. -/
inductive Hook
  | activePlugins
  | template
  /-- The directory of the child theme, or of the only one. -/
  | stylesheet
deriving DecidableEq

def Hook.name : Hook → String
  | .activePlugins => "ActivePlugins"
  | .template => "Template"
  | .stylesheet => "Stylesheet"

inductive FilterValue
  | text (value : String)
  | list (items : List String)
deriving DecidableEq, Inhabited

structure FilterEntry where
  id : Nat
  hook : Hook
  change : FilterValue → FilterValue

/-- The filters of a site in the order they were added in. -/
structure Filters where
  entries : List FilterEntry := []
  nextId : Nat := 0
deriving Inhabited

namespace Filters

/-- Add a filter behind all others; the number identifies it. -/
def add (f : Filters) (hook : Hook) (change : FilterValue → FilterValue) : Filters × Nat :=
  (⟨f.entries ++ [⟨f.nextId, hook, change⟩], f.nextId + 1⟩, f.nextId)

def remove (f : Filters) (id : Nat) : Filters :=
  { f with entries := f.entries.filter fun entry => entry.id != id }

def contains (f : Filters) (id : Nat) : Bool := f.entries.any fun entry => entry.id == id

def on (f : Filters) (hook : Hook) : List FilterEntry :=
  f.entries.filter fun entry => entry.hook == hook

/-- What all filters of a hook make of a value, one after the other. -/
def apply (f : Filters) (hook : Hook) (value : FilterValue) : FilterValue :=
  (f.on hook).foldl (fun value entry => entry.change value) value

def applyText (f : Filters) (hook : Hook) (value : String) : String :=
  match f.apply hook (.text value) with
  | .text text => text
  -- filters that change the kind of the value do not count
  | .list _ => value

def applyList (f : Filters) (hook : Hook) (items : List String) : List String :=
  match f.apply hook (.list items) with
  | .list list => list
  | .text _ => items

def count (f : Filters) (hook : Hook) : Nat := (f.on hook).length

def isEmpty (f : Filters) : Bool := f.entries.isEmpty

/-- The form in which filters are shown to someone who inspects them. -/
def inspect (f : Filters) : String :=
  "Filters \x7b hooks: [" ++
    ", ".intercalate (f.entries.map fun entry => entry.hook.name) ++ "] \x7d"

end Filters

end PluginAudit
