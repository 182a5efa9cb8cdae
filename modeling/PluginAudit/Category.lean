import PluginAudit.Text.Slicing

/-!
# Categories of checks

Every check belongs to at least one category.  The vocabulary of a run is the
built-in one or one that replaces it outright.
-/

namespace PluginAudit

structure Category where
  slug : String
deriving DecidableEq, Inhabited

namespace Category

def general : Category := ⟨"general"⟩

def pluginRepo : Category := ⟨"plugin_repo"⟩

def security : Category := ⟨"security"⟩

def performance : Category := ⟨"performance"⟩

def accessibility : Category := ⟨"accessibility"⟩

def named (text : String) : Category := ⟨text.trimmed⟩

end Category

/-- The categories of a run with their labels, in display order. -/
structure Vocabulary where
  entries : List (Category × String)
deriving DecidableEq, Inhabited

namespace Vocabulary

def standard : Vocabulary :=
  ⟨[(.general, "General"), (.pluginRepo, "Plugin Repo"), (.security, "Security"),
    (.performance, "Performance"), (.accessibility, "Accessibility")]⟩

def categories (v : Vocabulary) : List Category := v.entries.map Prod.fst

/-- The label of a category; one that is not listed is shown by its slug. -/
def label (v : Vocabulary) (category : Category) : String :=
  match v.entries.find? fun entry => entry.1 == category with
  | some (_, text) => text
  | none => category.slug

def contains (v : Vocabulary) (category : Category) : Bool := v.categories.contains category

end Vocabulary

end PluginAudit
