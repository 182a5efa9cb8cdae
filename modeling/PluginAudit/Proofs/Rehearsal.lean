import PluginAudit.Preparation.DemoPosts
import PluginAudit.Proofs.Audit
import PluginAudit.Proofs.Host.State
import PluginAudit.Rehearsal
import PluginAudit.Run.Request

/-!
# What rehearsals spare

Rehearsals change the journal and nothing else, so whatever they are put into
spares the rest of the world.
-/

namespace PluginAudit

variable {γ : Type} {view : World → γ}

/-- A view of the world that does not see the journal. -/
def World.Unjournaled (view : World → γ) : Prop :=
  ∀ world journal, view { world with journal } = view world

/-- The site holds no journal. -/
theorem World.unjournaled_site : Unjournaled site := fun _ _ => rfl

namespace Rehearsal

/-- A check that is run on a site with a demo post. -/
def visitor (slug : String) (mode : ExecutionMode) : Check where
  mode := mode
  categories := [.general]
  sharedPreparations _ := [DemoPosts.shared [Post.demo "page"]]
  run _ := run slug none false

/-- A static check and a runtime check. -/
def visits : CheckRepository :=
  ⟨[("files", visitor "files" .static)], [("front", visitor "front" .runtime)]⟩

/-- A request for all checks of a plugin. -/
def visitRequest : RunRequest := { isPluginCheck := true, plugin := some "foo/foo.php" }

/-- The plugin of the request, and the tool. -/
def busyPlugins : InstalledPlugins := [("foo/foo.php", default), ("plugin-check/plugin.php", default)]

/-- A simulated site with a filter, and with active plugins that are stored under
the testing prefix. -/
def busySite : World where
  disk := .empty
  host :=
    { Host.simulated ⟨"site"⟩ { plugins := busyPlugins } with
      filters := (({} : Filters).add .activePlugins id).1
      active := [("wp_", []), ("wppc_", ["bar/bar.php", "foo/foo.php"])] }

/-- A simulated site with given directories in its file tree. -/
def quietSite (directories : List Location) : World where
  disk := { Disk.empty with entries := directories.map fun location => (location, .directory) }
  host := .simulated ⟨"site"⟩ { plugins := busyPlugins }

theorem visitor_spares (unjournaled : World.Unjournaled view) (slug : String)
    (mode : ExecutionMode) : (visitor slug mode).Spares view where
  running _ world := unjournaled world _
  own := nofun

/-- What is true of all visitors is true of both visits. -/
theorem forall_visits {fits : Check → Prop} (each : ∀ slug mode, fits (visitor slug mode)) :
    ∀ entry ∈ visits.staticChecks ++ visits.runtimeChecks, fits entry.2 := by
  intro entry member
  simp only [visits, List.singleton_append, List.mem_cons, List.not_mem_nil, or_false] at member
  rcases member with rfl | rfl <;> exact each _ _

/-- An outcome without value is known once it is known to be one of success. -/
theorem eq_ok_of_isOk {outcome : Except Error Unit} (succeeded : outcome.isOk) :
    outcome = .ok () := by
  cases outcome with
  | error e => cases succeeded
  | ok _ => rfl

theorem exists_of_isOk {α : Type} {outcome : Except Error α} (succeeded : outcome.isOk) :
    ∃ value, outcome = .ok value := by
  cases outcome with
  | error e => cases succeeded
  | ok value => exact ⟨value, rfl⟩

theorem extension_keeps {property : CheckCollection → Prop}
    {change : CheckCollection → Except Error CheckCollection}
    (keeps : ∀ {checks changed}, property checks → change checks = .ok changed → property changed) :
    (extension change).Keeps property := by
  intro checks changed world after holds ran
  simp only [extension, Act.runIn_bind] at ran
  exact keeps holds (congrArg Prod.fst ran)

theorem extension_spares (unjournaled : World.Unjournaled view)
    (change : CheckCollection → Except Error CheckCollection) : (extension change).Spares view := by
  intro checks world
  simp only [extension, Act.runIn_bind]
  exact unjournaled world _

end Rehearsal

end PluginAudit
