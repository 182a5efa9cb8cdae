import PluginAudit.Check
import PluginAudit.Disk.Walk

/-!
# The files of a plugin

What checks that read files share: the files of the plugin under test, the
source of a file, and the header of the main file.
-/

namespace PluginAudit

namespace PluginContext

/-- The file or directory that holds the plugin. -/
def root (context : PluginContext) : Path :=
  if context.isSingleFile then context.mainFile else context.directory

def files (context : PluginContext) (disk : Disk) (options : WalkOptions) : Walked :=
  disk.walk options context.root

def sourceFiles (context : PluginContext) (disk : Disk) : List WalkedFile :=
  (context.files disk {}).withExtension "php"

/-- The header of the main file; a file without header has empty fields. -/
def header (context : PluginContext) (disk : Disk) : Except Error PluginHeader :=
  (PluginHeader.read disk context.mainFile).map fun found => found.getD {}

end PluginContext

/-- The text of a file that content checks read, unless it is too large or
cannot be read. -/
def WalkedFile.source? (file : WalkedFile) (disk : Disk) : Option String :=
  if file.isReadable then (disk.readLossy file.path).toOption else none

def Check.ofFiles (categories : List Category) (description documentation : String)
    (look : PluginContext → Disk → CheckOutcome) : Check where
  categories := categories
  description := description
  documentation := documentation
  run context world := (look context world.disk, world)

/-- The start of the addresses of the plugin handbook. -/
def handbook : String := "https://developer.wordpress.org/plugins/"

end PluginAudit
