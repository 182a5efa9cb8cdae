import PluginAudit.Preparation

/-!
# The only active plugin

While this preparation is in force, the plugin under test is the only active
one.  The tool stays active beside it if it is installed as a plugin itself.
-/

namespace PluginAudit

namespace SinglePlugin

/-- The plugins that are active in place of all others. -/
def forced (installed : InstalledPlugins) (target : String) (tool : Option String) :
    List String :=
  match tool with
  | some kept =>
      if Assoc.contains kept installed && kept != target then [kept, target] else [target]
  | none => [target]

/-- The change of the list of active plugins: it applies if the target is
active. -/
def force (target : String) (plugins : List String) : FilterValue → FilterValue
  | .list active => if active.contains target then .list plugins else .list active
  | other => other

/-- Force a plugin to be the only active one. -/
def prepare (target : String) (tool : Option String) : Preparation := fun world =>
  match world.host.installedPlugins world.disk with
  | .error e => (.error e, world)
  | .ok installed =>
      if !Assoc.contains target installed then
        (.error (.preparation "force_single_plugin"
          ("invalid plugin " ++ target ++ ": plugin does not exist")), world)
      else
        let (filters, id) :=
          world.host.filters.add .activePlugins (force target (forced installed target tool))
        (.ok (.of "force_single_plugin"
            (.onHost fun host => { host with filters := host.filters.remove id })),
          { world with host := { world.host with filters } })

end SinglePlugin

end PluginAudit
