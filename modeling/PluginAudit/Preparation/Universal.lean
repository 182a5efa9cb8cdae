import PluginAudit.Preparation.MinimalTheme
import PluginAudit.Preparation.SinglePlugin

/-!
# What every runtime check needs

The minimal theme is in use and the plugin under test is the only active one.
-/

namespace PluginAudit

namespace UniversalPreparation

/-- Use the minimal theme and force a plugin to be the only active one. -/
def prepare (target : String) (tool : Option String) (themeDirectory : Option Path) :
    Preparation := do
  let theme ← MinimalTheme.prepare MinimalTheme.standard themeDirectory
  fun world =>
    match (SinglePlugin.prepare target tool).runIn world with
    | (.ok plugin, world) => (.ok (.chain "universal_runtime_preparation" [theme, plugin]), world)
    -- the theme must not stay if the plugin cannot be forced
    | (.error e, world) => (.error e, (theme.release.runIn world).2)

end UniversalPreparation

end PluginAudit
