import PluginAudit.Preparation

/-!
# Held cleanups

Cleanups that are held under names until they are run or given up.  A cleanup
that another one replaces is given up.
-/

namespace PluginAudit

/-- Cleanups by name, in ascending order. -/
structure HeldCleanups where
  entries : List (String × Cleanup) := []
deriving Inhabited

namespace HeldCleanups

/-- The cleanup that is held under a name. -/
def get? (held : HeldCleanups) (name : String) : Option Cleanup := Assoc.get? name held.entries

/-- All cleanups but the one under a name. -/
def without (held : HeldCleanups) (name : String) : HeldCleanups :=
  ⟨Assoc.erase name held.entries⟩

def hold (held : HeldCleanups) (name : String) (cleanup : Cleanup) : Act HeldCleanups := do
  ((held.get? name).getD .noop).release
  return ⟨Assoc.put textLess name cleanup held.entries⟩

/-- The cleanups that are held under names, and all others. -/
def takeAll (held : HeldCleanups) : List String → List Cleanup × HeldCleanups
  | [] => ([], held)
  | name :: rest =>
      let (found, left) := (held.without name).takeAll rest
      ((held.get? name).toList ++ found, left)

/-- Give all cleanups up, in the order of their names. -/
def releaseAll (held : HeldCleanups) : Act Unit := held.entries.forM fun (_, c) => c.release

end HeldCleanups

end PluginAudit
