import PluginAudit.Error

/-!
# Plugin headers

The header fields in the comment that opens a plugin's main file.  Only the
first 8 KiB are read; a field stands alone on its line behind comment signs.
The first line that names a field decides it.
-/

namespace PluginAudit

open PluginAudit.Text

structure PluginHeader where
  name : String := ""
  pluginUri : String := ""
  version : String := ""
  description : String := ""
  author : String := ""
  authorUri : String := ""
  textDomain : String := ""
  domainPath : String := ""
  /-- `Network`, true if its value is `true` -/
  network : Bool := false
  requiresWp : String := ""
  requiresPhp : String := ""
  /-- The items of `Requires Plugins` -/
  requiresPlugins : List String := []
  updateUri : String := ""
  license : String := ""
  licenseUri : String := ""
deriving DecidableEq, Inhabited

namespace PluginHeader

/-- The number of bytes at the start of a file that are read. -/
def windowSize : Nat := 8 * 1024

/-- The longest start of a text that fits into a number of bytes. -/
def takeBytes : Nat → List Char → List Char
  | _, [] => []
  | room, c :: cs => if c.utf8Size ≤ room then c :: takeBytes (room - c.utf8Size) cs else []

/-- The part of a text that is read. -/
def window (text : List Char) : List Char := takeBytes windowSize text

/-- The lines of the part that is read. -/
def windowLines (text : List Char) : List (List Char) :=
  -- a carriage return ends a line, too
  splitOn '\n' ((window text).map fun c => if c == '\r' then '\n' else c)

/-- Signs that may stand between the start of a line and a label. -/
def isDecoration (c : Char) : Bool :=
  c == ' ' || c == '\t' || c == '/' || c == '*' || c == '#' || c == '@'

/-- A line without the tag that opens the code, if it starts with one. -/
def dropOpeningTag (line : List Char) : List Char :=
  (afterFolded? ['<', '?', 'p', 'h', 'p']
    (line.dropWhile fun c => c == ' ' || c == '\t')).getD line

/-- What follows a label and its colon on a line, if the line names the field. -/
def fieldOnLine? (label : List Char) (line : List Char) : Option (List Char) :=
  afterFolded? (label ++ [':']) ((dropOpeningTag line).dropWhile isDecoration)

/-- The text before the first `mark`, or the whole text. -/
def cutAt (mark text : List Char) : List Char := (upTo? mark text).getD text

/-- A value without the end of its comment and without surrounding space. -/
def cleanValue (raw : List Char) : List Char :=
  trim (cutAt ['?', '>'] (cutAt ['*', '/'] (trim raw)))

/-- The value of a field, empty if no line names it. -/
def fieldIn (lines : List (List Char)) (label : String) : List Char :=
  cleanValue ((lines.findSome? (fieldOnLine? label.toList)).getD [])

/-- Read the header of a file; there is none without a plugin name. -/
def parse? (content : String) : Option PluginHeader :=
  let lines := windowLines content.toList
  let field (label : String) := String.ofList (fieldIn lines label)
  if (fieldIn lines "Plugin Name").isEmpty then none
  else
    some {
      name := field "Plugin Name"
      pluginUri := field "Plugin URI"
      version := field "Version"
      description := field "Description"
      author := field "Author"
      authorUri := field "Author URI"
      textDomain := field "Text Domain"
      domainPath := field "Domain Path"
      network := sameAsciiFolded (fieldIn lines "Network") "true".toList
      requiresWp := field "Requires at least"
      requiresPhp := field "Requires PHP"
      requiresPlugins := (commaItems (fieldIn lines "Requires Plugins")).map String.ofList
      updateUri := field "Update URI"
      license := field "License"
      licenseUri := field "License URI" }

/-- Read the header of the file a path leads to. -/
def read (disk : Disk) (path : Path) : Except Error (Option PluginHeader) :=
  match disk.readLossy path with
  | .ok content => .ok (parse? content)
  | .error fault => .error (.file path fault)

end PluginHeader

end PluginAudit
