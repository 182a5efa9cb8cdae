import PluginAudit.World

/-!
# The runtime environment

Tables of their own and a drop-in file for runtime checks, so that they do not
touch the data of the site.  Setting up installs the tables under a prefix of
their own if there are none, and the drop-in file if there is none.  Cleaning
up drops the tables and removes the drop-in file, unless it is someone else's.
-/

namespace PluginAudit

open PluginAudit.Text

namespace RuntimeEnvironment

def dropInContent : String :=
  "<?php\n" ++
  "/**\n" ++
  " * Plugin Name: Plugin Check Object Cache Drop-In\n" ++
  " * Description: Switches to the plugin check tables during runtime checks.\n" ++
  " *\n" ++
  " * Installed and removed by plugin-check. Do not edit.\n" ++
  " */\n" ++
  "if ( defined( 'WP_PLUGIN_CHECK_TABLE_PREFIX' ) && isset( $_COOKIE['wp_plugin_check_checks'] ) ) \x7b\n" ++
  "\t$GLOBALS['table_prefix'] = WP_PLUGIN_CHECK_TABLE_PREFIX;\n" ++
  "\x7d\n"

def dropInBytes : ByteArray := dropInContent.toUTF8

def dropInPath (host : Host) : Path := host.contentDirectory.join "object-cache.php"

/-- Install the tables under the prefix in use if there are none, and store the
active plugins with them. -/
def installTables (active : List String) : Act Unit :=
  .tryHost fun host =>
    if (host.tablesUnder host.tablePrefix).isEmpty then host.install.storeActivePlugins active
    else .ok host

/-- Write the drop-in file if there is none. -/
def writeDropIn : Act Unit := fun world =>
  let path := dropInPath world.host
  if world.disk.pathExists path then (.ok (), world)
  else
    match world.disk.write path dropInBytes with
    | .ok disk => (.ok (), { world with disk })
    | .error fault => (.error (.file path fault), world)

def setUp (pre : String) : Act Unit := fun world =>
  let active := world.host.storedActivePlugins
  let previous := world.host.tablePrefix
  match (Act.tryHost fun host => host.useTablePrefix pre).runIn world with
  | (.error e, world) => (.error e, world)
  | (.ok (), world) =>
      -- the prefix in use comes back even if installing fails
      let (installed, world) := (installTables active).runIn world
      match (Act.tryHost fun host => host.useTablePrefix previous).runIn world with
      | (.error e, world) => (.error e, world)
      | (.ok (), world) =>
          match installed with
          | .error e => (.error e, world)
          | .ok () => writeDropIn world

def dropTables (pre : String) : Act Unit :=
  .onHost fun host => (host.tablesUnder pre).foldl Host.dropTable host

/-- Remove the drop-in file, unless it is someone else's. -/
def removeDropIn : Act Unit := fun world =>
  let path := dropInPath world.host
  match world.disk.read path with
  | .ok content =>
      if content == dropInBytes then
        match world.disk.remove path with
        | .ok disk => (.ok (), { world with disk })
        | .error fault => (.error (.file path fault), world)
      else (.ok (), world)
  | .error .missing => (.ok (), world)
  | .error fault => (.error (.file path fault), world)

def cleanUp (pre : String) : Act Unit := do
  let host := (← get).host
  -- a prefix whose tables are dropped cannot stay in use
  let next := if host.tablePrefix == pre then host.sitePrefix else host.tablePrefix
  dropTables pre
  Act.tryHost fun host => host.useTablePrefix next
  removeDropIn

end RuntimeEnvironment

end PluginAudit
