import PluginAudit.Checks.Files

/-!
# Forbidden files

Archives, executables and hidden files do not belong into a plugin.  Checkouts
of version control are errors on sites for the public and warnings elsewhere,
since a plugin that is being developed has them.
-/

namespace PluginAudit

open PluginAudit.Text

inductive FileKind
  | compressed
  | phar
  | vcs
  | hidden
  | application
deriving DecidableEq, Inhabited

namespace FileKind

/-- The name of a kind in a configuration. -/
def name : FileKind → String
  | compressed => "compressed"
  | phar => "phar"
  | vcs => "vcs"
  | hidden => "hidden"
  | application => "application"

def all : List FileKind := [compressed, phar, vcs, hidden, application]

def parse (text : String) : Except Error FileKind :=
  let wanted := String.ofList (asciiLowercase (trim text.toList))
  match all.find? fun kind => kind.name == wanted with
  | some kind => .ok kind
  | none =>
      .error (.config ("unknown file type \x60" ++ wanted ++ "\x60 in check.file_type.types") none)

end FileKind

namespace FileTypeCheck

def compressedExtensions : List String := ["zip", "gz", "tgz", "rar", "tar", "7z"]

def applicationExtensions : List String :=
  ["a5r", "a5w", "app", "bat", "bin", "cmd", "com", "cpl", "deb", "dll", "dmg", "exe", "ipa",
    "jar", "msi", "rpm", "scr", "sh", "so", "vb", "vbs"]

def vcsDirectories : List String := [".git", ".svn", ".hg", ".bzr"]

/-- What follows the last dot of a name, if there is one. -/
def behindLastDot? (name : String) : Option (List Char) :=
  let chars := name.toList
  if chars.contains '.' then some (chars.reverse.takeWhile (· != '.')).reverse else none

/-- Whether a name ends with one of several extensions, up to the case of ASCII
letters. -/
def hasAnyExtension (name : String) (extensions : List String) : Bool :=
  match behindLastDot? name with
  | some found => extensions.any fun ext => sameAsciiFolded found ext.toList
  | none => false

def directoryFindings (isError : Bool) (directory : Path) : List Finding :=
  if directory.fileName?.any vcsDirectories.contains then
    [{ severity := if isError then .error else .warning
       text := "Version control checkouts should not be present."
       code := "vcs_present"
       file := directory.text }]
  else []

def isOfKind (name : String) : FileKind → Bool
  | .compressed => hasAnyExtension name compressedExtensions
  | .phar => hasAnyExtension name ["phar"]
  | .hidden => name.toList.head? == some '.'
  | .application => hasAnyExtension name applicationExtensions
  | .vcs => false

/-- The text and the code of the finding about a file of a kind. -/
def complaint : FileKind → String × String
  | .compressed => ("Compressed files are not permitted.", "compressed_files")
  | .phar => ("Phar files are not permitted.", "phar_files")
  | .hidden => ("Hidden files are not permitted.", "hidden_files")
  | .application => ("Application files are not permitted.", "application_detected")
  | .vcs => ("Version control checkouts should not be present.", "vcs_present")

/-- The kinds of files in the order their findings are made in. -/
def fileKinds : List FileKind := [.compressed, .phar, .hidden, .application]

def fileFindings (wanted : List FileKind) (path : Path) : List Finding :=
  match path.fileName? with
  | none => []
  | some name =>
      (fileKinds.filter fun kind => wanted.contains kind && isOfKind name kind).map fun kind =>
        { severity := .error, text := (complaint kind).1, code := (complaint kind).2
          file := path.text }

/-- The findings about all files and directories of a plugin. -/
def look (wanted : List FileKind) (environment : EnvironmentType) (options : WalkOptions)
    (context : PluginContext) (disk : Disk) : CheckOutcome :=
  let walked := context.files disk options
  let directories :=
    if wanted.contains .vcs then
      walked.directories.flatMap (directoryFindings (environment == .production))
    else []
  .found (directories ++ walked.files.flatMap fun file => fileFindings wanted file.path)

def check (wanted : List FileKind) (environment : EnvironmentType) (options : WalkOptions) :
    Check :=
  .ofFiles [.pluginRepo]
    "Detects the usage of hidden and compressed files, VCS directories, application files and badly named files."
    (handbook ++ "wordpress-org/detailed-plugin-guidelines/") (look wanted environment options)

end FileTypeCheck

end PluginAudit
