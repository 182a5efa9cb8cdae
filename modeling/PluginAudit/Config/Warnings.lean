import PluginAudit.Config

/-!
# Unknown settings

What is reported about keys of a configuration that are not known.  For the name
of a check that was probably misspelt, the right one is suggested.
-/

namespace PluginAudit

open PluginAudit.Text

namespace Config

def configurableChecks : List String :=
  ["enqueued_scripts_size", "enqueued_styles_size", "file_type", "code_obfuscation",
    "trademarks"]

/-- The check that is meant by one of its usual other names. -/
def aliasOf? : String → Option String
  | "enqueued_scripts" | "scripts_size" | "script_size" => some "enqueued_scripts_size"
  | "enqueued_styles" | "styles_size" | "style_size" => some "enqueued_styles_size"
  | "file_types" | "filetype" | "files" => some "file_type"
  | "obfuscation" | "obfuscated_code" => some "code_obfuscation"
  | "trademark" | "brands" => some "trademarks"
  | _ => none

/-- Whether one of two texts starts with the other. -/
def oneStartsOther (a b : List Char) : Bool := a.isPrefixOf b || b.isPrefixOf a

/-- The check that is meant by a name that is not known. -/
def suggestion? (unknown : String) : Option String :=
  match aliasOf? unknown with
  | some name => some name
  | none =>
      -- a single letter starts too many names
      if unknown.utf8ByteSize < 2 then none
      else configurableChecks.find? fun name => oneStartsOther name.toList unknown.toList

/-- The start of every report about the file at a path. -/
def reportStart (path : Path) : String := "plugin-check: warning: " ++ path.text ++ ": "

def unknownKey (path : Path) (key : String) : String :=
  reportStart path ++ "unrecognized field \x60" ++ key ++ "\x60 (ignored)"

def unknownCheck (path : Path) (key : String) : String :=
  reportStart path ++ "unknown check \x60" ++ key ++ "\x60" ++
    match suggestion? key with
    | some name => ". Did you mean \x60" ++ name ++ "\x60?"
    | none => "\n  Configurable checks: " ++ ", ".intercalate configurableChecks

/-- The keys of a table that are not among the known ones. -/
def unknownKeysOf (known : List String) (t : Toml) : List String :=
  (Assoc.keys (t.entries?.getD [])).filter fun key => !known.contains key

/-- The reports about the table of a section. -/
def sectionWarnings (path : Path) (name : String) (known : List String) (t : Toml) :
    List String :=
  (unknownKeysOf known t).map fun key => unknownKey path (name ++ "." ++ key)

/-- The reports about the table of a check. -/
def checkWarnings (path : Path) (checks : Toml) (name : String) (known : List String) :
    List String :=
  sectionWarnings path ("check." ++ name) known (tableAt checks name)

/-- The reports about all keys of a document. -/
def documentWarnings (path : Path) (t : Toml) : List String :=
  let checks := tableAt t "check"
  ((unknownKeysOf ["version", "wordpress", "runtime", "linter", "check"] t).map
      (unknownKey path)) ++
    sectionWarnings path "wordpress" ["root", "environment_type", "home_url", "plugins_url"]
      (tableAt t "wordpress") ++
    sectionWarnings path "runtime" ["table_prefix", "theme_root"] (tableAt t "runtime") ++
    sectionWarnings path "linter" ["phpcs"] (tableAt t "linter") ++
    ((unknownKeysOf configurableChecks checks).map (unknownCheck path)) ++
    checkWarnings path checks "file_type" ["types", "ignore_directories"] ++
    checkWarnings path checks "code_obfuscation" ["tools"] ++
    checkWarnings path checks "trademarks" ["extra_terms"] ++
    checkWarnings path checks "enqueued_scripts_size" ["threshold"] ++
    checkWarnings path checks "enqueued_styles_size" ["threshold"]

/-- Read the file at a path and report the keys that are not known. -/
def loadWithWarnings (disk : Disk) (path : Path) : Except Error (Config × List String) :=
  match disk.readText path with
  | .error fault => .error (.file path fault)
  | .ok content =>
      (parse content path).map fun config =>
        (config, ((Toml.parse? content).map (documentWarnings path)).getD [])

end Config

end PluginAudit
