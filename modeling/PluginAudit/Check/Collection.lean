import PluginAudit.Check

/-!
# Collections of checks

Checks by slug in a fixed order.  Every operation gives a new collection.
-/

namespace PluginAudit

open PluginAudit.Text

/-- Checks by slug, in order. -/
structure CheckCollection where
  entries : List (String × Check) := []
deriving Inhabited

namespace CheckCollection

def slugs (c : CheckCollection) : List String := c.entries.map Prod.fst

/-- The first item of a list that occurs in it before. -/
def firstRepeated? (seen : List String) : List String → Option String
  | [] => none
  | slug :: rest =>
      if seen.contains slug then some slug else firstRepeated? (slug :: seen) rest

/-- The collection of checks, of which no two may have one slug. -/
def ofList (entries : List (String × Check)) : Except Error CheckCollection :=
  match firstRepeated? [] (entries.map Prod.fst) with
  | some slug => .error (.duplicateCheck slug)
  | none => .ok ⟨entries⟩

def get? (c : CheckCollection) (slug : String) : Option Check := Assoc.get? slug c.entries

def at? (c : CheckCollection) (index : Nat) : Option (String × Check) := c.entries[index]?

/-- Whether there is a check with a slug. -/
def contains (c : CheckCollection) (slug : String) : Bool := (c.get? slug).isSome

def size (c : CheckCollection) : Nat := c.entries.length

def isEmpty (c : CheckCollection) : Bool := c.entries.isEmpty

def filter (c : CheckCollection) (keep : String → Check → Bool) : CheckCollection :=
  ⟨c.entries.filter fun (slug, check) => keep slug check⟩

/-- The checks with given slugs; all of them if no slug is given. -/
def including (c : CheckCollection) (slugs : List String) : CheckCollection :=
  if slugs.isEmpty then c else c.filter fun slug _ => slugs.contains slug

/-- The checks without those with given slugs. -/
def excluding (c : CheckCollection) (slugs : List String) : CheckCollection :=
  c.filter fun slug _ => !slugs.contains slug

/-- The same checks, if there is one for each of given slugs. -/
def requiring (c : CheckCollection) (slugs : List String) : Except Error CheckCollection :=
  match slugs.find? fun slug => !c.contains slug with
  | some slug => .error (.unknownCheck slug)
  | none => .ok c

/-- The entries with a check in place of the one that has its slug, or behind
all others. -/
def insertEntry (slug : String) (check : Check) :
    List (String × Check) → List (String × Check)
  | [] => [(slug, check)]
  | entry :: rest =>
      if entry.1 == slug then (slug, check) :: rest else entry :: insertEntry slug check rest

/-- The checks with one more, or with one replaced. -/
def insert (c : CheckCollection) (slug : String) (check : Check) : CheckCollection :=
  ⟨insertEntry slug check c.entries⟩

/-- The checks that belong to at least one of given categories. -/
def inCategories (c : CheckCollection) (categories : List Category) : CheckCollection :=
  c.filter fun _ check => check.categories.any categories.contains

/-- Whether one of the checks needs a site that answers requests. -/
def hasRuntime (c : CheckCollection) : Bool := c.entries.any fun (_, check) => check.isRuntime

/-- The form in which a collection is shown to someone who inspects it. -/
def inspect (c : CheckCollection) : String := quotedList c.slugs

end CheckCollection

/-- What adds, replaces or removes checks before a run. -/
abbrev Extension := CheckCollection → Act CheckCollection

end PluginAudit
