import PluginAudit.Category
import PluginAudit.Path

/-!
# What a run is asked to do

An entry point, such as the command line or a request of the administration
page, asks for a plugin and for checks.  The rest of a run does not depend on
where the wishes come from.
-/

namespace PluginAudit

open PluginAudit.Text

structure RunRequest where
  /-- Whether the entry point asks for checks of a plugin at all. -/
  isPluginCheck : Bool
  plugin : Option String := none
  /-- The slugs of the checks to run; all checks if there are none. -/
  checks : List String := []
  excluded : List String := []
  /-- The categories to run checks of; all categories if there are none. -/
  categories : List Category := []
  includesExperimental : Bool := false
  /-- Whether the run sets up and removes the runtime environment itself. -/
  managesEnvironment : Bool := false
deriving DecidableEq, Inhabited

/-- What all runs of an installation have in common. -/
structure RunSettings where
  testingPrefix : String := "wppc_"
  themeDirectory : Option Path := none
  /-- The basename of this tool, if it is installed as a plugin itself. -/
  tool : Option String := some "plugin-check/plugin.php"
deriving DecidableEq, Inhabited

/-- The items of a list that is written with commas. -/
def listItems (text : String) : List String := (commaItems text.toList).map String.ofList

end PluginAudit
