import PluginAudit.Path

/-!
# The plugin under test

Where the files of a plugin lie and under which address they are served.  A
plugin is a directory below the plugins directory, or a single file in it.
-/

namespace PluginAudit

open PluginAudit.Text

structure PluginContext where
  mainFile : Path
  /-- The main file relative to the plugins directory. -/
  basename : String
  directory : Path
  /-- The public address of the directory, with a slash at the end. -/
  address : String
deriving DecidableEq, Inhabited

namespace PluginContext

/-- The context of a main file, given the plugins directory and its public
address. -/
def ofMainFile (mainFile pluginsDirectory : Path) (pluginsAddress : String) : PluginContext :=
  let fileName := mainFile.fileName?.getD ""
  let parent := mainFile.parent?.getD ⟨""⟩
  let address := String.ofList (trimEndBy (· == '/') pluginsAddress.toList)
  if parent.same pluginsDirectory then
    { mainFile, basename := fileName, directory := parent, address := address ++ "/" }
  else
    let directoryName := parent.fileName?.getD ""
    { mainFile, basename := directoryName ++ "/" ++ fileName, directory := parent
      address := address ++ "/" ++ directoryName ++ "/" }

def isSingleFile (c : PluginContext) : Bool := !c.basename.toList.contains '/'

/-- The slug: the name of the directory, or of the single file without its
extension. -/
def slug (c : PluginContext) : String :=
  match splitOnce? '/' c.basename.toList with
  | some (directory, _) => String.ofList directory
  | none => String.ofList ((before? ".php".toList c.basename.toList).getD c.basename.toList)

/-- A text without the slashes it starts with. -/
def withoutLeadingSlashes (text : String) : String :=
  String.ofList (trimStartBy (· == '/') text.toList)

/-- A path below the directory of the plugin. -/
def path (c : PluginContext) (sub : String) : Path :=
  if sub.isEmpty then c.directory else c.directory.join (withoutLeadingSlashes sub)

/-- An address below that of the directory. -/
def url (c : PluginContext) (sub : String) : String := c.address ++ withoutLeadingSlashes sub

end PluginContext

end PluginAudit
