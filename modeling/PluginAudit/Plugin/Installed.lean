import PluginAudit.Plugin.Header

/-!
# Installed plugins

Finding the plugins in a directory and resolving what a user typed to the
basename of one of them.  A basename is the main file relative to the plugins
directory: `dir/main.php`, or `main.php` for a plugin of one file.
-/

namespace PluginAudit

open PluginAudit.Text

/-- The installed plugins by basename, in ascending order. -/
abbrev InstalledPlugins := List (String × PluginHeader)

namespace InstalledPlugins

/-- Add the plugin in a file, if the file has a header. -/
def addFile (disk : Disk) (basename : String) (path : Path) (plugins : InstalledPlugins) :
    InstalledPlugins :=
  match PluginHeader.read disk path with
  | .ok (some header) => Assoc.put textLess basename header plugins
  | _ => plugins

/-- Add the plugins whose main file lies in the directory `name`. -/
def addDirectory (disk : Disk) (name : String) (path : Path) (plugins : InstalledPlugins) :
    InstalledPlugins :=
  match disk.list path with
  | .error _ => plugins
  | .ok children =>
      children.foldl (fun found child =>
        let childPath := path.join child
        if disk.isFile childPath && childPath.hasExtension "php" then
          addFile disk (name ++ "/" ++ child) childPath found
        else found) plugins

/-- The plugins below a directory.  Main files lie in the directory itself or
one level deeper. -/
def discover (disk : Disk) (directory : Path) : Except Error InstalledPlugins :=
  match disk.list directory with
  | .error fault => .error (.file directory fault)
  | .ok names =>
      .ok (names.foldl (fun found name =>
        let path := directory.join name
        -- hidden entries are passed over
        if name.toList.head? == some '.' then found
        else if disk.isDirectory path then addDirectory disk name path found
        else if path.hasExtension "php" then addFile disk name path found
        else found) [])

/-- What a user typed, without white space and then slashes at both ends. -/
def normalizedInput (input : String) : List Char := trimBy (· == '/') (trim input.toList)

/-- The basename of the plugin a user named: a basename itself, the directory
of one, or the name of a plugin of one file without its extension. -/
def resolve (plugins : InstalledPlugins) (input : String) : Except Error String :=
  let wanted := normalizedInput input
  let name := String.ofList wanted
  let missing : Except Error String :=
    .error (.invalidPlugin s!"plugin with slug {name} is not installed")
  if wanted.isEmpty then .error (.invalidPlugin "no plugin given")
  else if Assoc.contains name plugins then .ok name
  else if wanted.contains '/' then missing
  else
    match (Assoc.keys plugins).find? fun basename =>
        (after? (wanted ++ ['/']) basename.toList).isSome with
    | some basename => .ok basename
    | none => if Assoc.contains (name ++ ".php") plugins then .ok (name ++ ".php") else missing

end InstalledPlugins

end PluginAudit
