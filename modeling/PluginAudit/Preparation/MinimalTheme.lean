import PluginAudit.Preparation

/-!
# The minimal theme

While this preparation is in force, a theme that prints nothing of its own is
in use, so that the assets of a theme are not taken for those of a plugin.
-/

namespace PluginAudit

namespace MinimalTheme

def standard : String := "wp-empty-theme"

/-- Use a theme, and register a directory to find it in if it is not yet
registered. -/
def prepare (theme : String) (directory : Option Path) : Preparation := fun world =>
  let added : Option Path := directory.filter fun d => !world.host.hasThemeDirectory d
  let host := (added.map world.host.registerThemeDirectory).getD world.host
  let useTheme : FilterValue → FilterValue := fun _ => .text theme
  let (filters, templateId) := host.filters.add .template useTheme
  let (filters, stylesheetId) := filters.add .stylesheet useTheme
  (.ok (.of "use_minimal_theme"
      (.onHost fun host =>
        let filters := (host.filters.remove templateId).remove stylesheetId
        let host : Host := { host with filters }
        (added.map host.deregisterThemeDirectory).getD host)),
    { world with host := { host with filters } })

end MinimalTheme

end PluginAudit
