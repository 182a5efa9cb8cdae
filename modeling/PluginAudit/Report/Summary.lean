import PluginAudit.Report.Records
import PluginAudit.RuntimeEnvironment

/-!
# Summaries of a site

What preparations and runs can change about a site, in a form that two moments
can be compared by.
-/

namespace PluginAudit

open PluginAudit.Text

inductive DropInOwner
  /-- Nobody's; there is none. -/
  | nobody
  | own
  | foreign
deriving DecidableEq, Inhabited

namespace DropInOwner

/-- Whose drop-in file there is in a world. -/
def ofWorld (world : World) : DropInOwner :=
  match world.disk.read (RuntimeEnvironment.dropInPath world.host) with
  | .ok content => if content == RuntimeEnvironment.dropInBytes then own else foreign
  | .error _ => nobody

def toJson : DropInOwner → Json
  | nobody => .null
  | own => .text "own"
  | foreign => .text "foreign"

end DropInOwner

namespace World

/-- The parts of a summary that every site has. -/
def commonSummary (prefixes : List String) (world : World) : List (String × Json) :=
  let h := world.host
  [("prefix", .text h.tablePrefix),
    ("tables", .list (prefixes.map fun pre => .number (h.tablesUnder pre).length)),
    ("stored", textsJson h.storedActivePlugins), ("active", textsJson h.activePlugins),
    ("template", .text h.template), ("stylesheet", .text h.stylesheet),
    ("filters", .list ([Hook.activePlugins, .template, .stylesheet].map fun hook =>
      .number (h.filters.count hook))),
    ("dropin", (DropInOwner.ofWorld world).toJson)]

/-- The summary of a site, with the number of tables under each of some
prefixes. -/
def summary (prefixes : List String) (world : World) : Json :=
  let posts :=
    match world.host.runtime with
    | .simulated simulation =>
        [("posts", .list ((Assoc.keys world.host.posts).map fun id : Nat => .number id)),
          ("inserts", .number simulation.insertions)]
    -- an installation has posts of its own, which are not known here
    | .installed _ => []
  .object (world.commonSummary prefixes ++ posts)

end World

end PluginAudit
