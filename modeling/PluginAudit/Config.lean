import PluginAudit.Host
import PluginAudit.Toml.Reader

/-!
# Configuration

The settings of a project, read from the file `plugin-check.toml`.  A value of
the wrong kind counts as missing, except where a wrong value would put the site
at risk or was clearly meant otherwise; then reading fails.  Keys that are not
known are reported and passed over.
-/

namespace PluginAudit

open PluginAudit.Text

/-- Where the site is and how it is reached. -/
structure SiteConfig where
  root : Option Path := none
  environment : Option EnvironmentType := none
  homeAddress : Option String := none
  pluginsAddress : Option String := none
deriving DecidableEq, Inhabited

structure RuntimeConfig where
  /-- The prefix of the tables that runtime checks use. -/
  tablePrefix : String := "wppc_"
  themeDirectory : Option Path := none
deriving DecidableEq, Inhabited

structure CheckConfig where
  /-- The size in bytes above which scripts are reported. -/
  scriptThreshold : UInt64 := 300000
  /-- The size in bytes above which style sheets are reported. -/
  styleThreshold : UInt64 := 300000
  /-- The kinds of files to look for; all of them if none are given. -/
  fileKinds : Option (List String) := none
  ignoredDirectories : Option (List String) := none
  /-- The obfuscation tools to look for; all of them if none are given. -/
  obfuscationTools : Option (List String) := none
  extraTerms : List String := []
deriving DecidableEq, Inhabited

structure Config where
  /-- The version of the format, zero if there is no file. -/
  version : Int := 0
  site : SiteConfig := {}
  runtime : RuntimeConfig := {}
  /-- The linter, a path or a name to look up. -/
  linter : String := "phpcs"
  checks : CheckConfig := {}
deriving DecidableEq, Inhabited

namespace Config

def fileName : String := "plugin-check.toml"

def supportedVersion : Int := 1

/-- A failure to read the file at a path. -/
def invalid (path : Path) (reason : String) : Error := .config reason (some path)

/-! ## Values -/

def textAt? (t : Toml) (key : String) : Option String := (t.get? key).bind Toml.text?

/-- The path under a key; a relative one starts at `base`. -/
def pathAt? (base : Path) (t : Toml) (key : String) : Option Path := (textAt? t key).map base.join

/-- The texts in the list under a key. -/
def textsAt? (t : Toml) (key : String) : Option (List String) :=
  ((t.get? key).bind Toml.items?).map fun items => items.filterMap Toml.text?

/-- The number under a key, if it is not negative. -/
def sizeAt? (t : Toml) (key : String) : Option UInt64 :=
  match (t.get? key).bind Toml.integer? with
  | some (.ofNat n) => some n.toUInt64
  | _ => none

/-- The table under a key; anything else counts as an empty table. -/
def tableAt (t : Toml) (key : String) : Toml :=
  match t.get? key with
  | some (.table origin entries) => .table origin entries
  | _ => .empty

/-! ## Sections -/

def readSite (path base : Path) (t : Toml) : Except Error SiteConfig :=
  let build (environment : Option EnvironmentType) : SiteConfig :=
    { root := pathAt? base t "root", environment, homeAddress := textAt? t "home_url"
      pluginsAddress := textAt? t "plugins_url" }
  match textAt? t "environment_type" with
  | none => .ok (build none)
  | some name =>
      match EnvironmentType.parse name with
      | .ok kind => .ok (build (some kind))
      | .error e => .error (invalid path e.message)

/-- Read what is said about the environment of runtime checks. -/
def readRuntime (path base : Path) (t : Toml) : Except Error RuntimeConfig :=
  let standard : RuntimeConfig := {}
  let tablePrefix := (textAt? t "table_prefix").getD standard.tablePrefix
  if Host.isTablePrefix tablePrefix then
    .ok { tablePrefix, themeDirectory := pathAt? base t "theme_root" }
  else .error (invalid path ("invalid runtime.table_prefix " ++ quoted tablePrefix))

def readChecks (t : Toml) : CheckConfig :=
  let standard : CheckConfig := {}
  { scriptThreshold :=
      (sizeAt? (tableAt t "enqueued_scripts_size") "threshold").getD standard.scriptThreshold
    styleThreshold :=
      (sizeAt? (tableAt t "enqueued_styles_size") "threshold").getD standard.styleThreshold
    fileKinds := textsAt? (tableAt t "file_type") "types"
    ignoredDirectories := textsAt? (tableAt t "file_type") "ignore_directories"
    obfuscationTools := textsAt? (tableAt t "code_obfuscation") "tools"
    extraTerms := (textsAt? (tableAt t "trademarks") "extra_terms").getD [] }

def readDocument (path : Path) (t : Toml) : Except Error Config := do
  let base := path.parent?.getD ⟨""⟩
  let site ← readSite path base (tableAt t "wordpress")
  let runtime ← readRuntime path base (tableAt t "runtime")
  return { version := supportedVersion, site, runtime
           linter := (textAt? (tableAt t "linter") "phpcs").getD "phpcs"
           checks := readChecks (tableAt t "check") }

/-- Read the text of the file at a path. -/
def parse (content : String) (path : Path) : Except Error Config :=
  match Toml.parse? content with
  | none => .error (invalid path "TOML parse error")
  | some t =>
      match t.get? "version" with
      | none => .error (invalid path "missing required field: version")
      | some (.integer version) =>
          if version == supportedVersion then readDocument path t
          else
            .error (invalid path ("unsupported config version " ++ toString version ++
              " (supported: " ++ toString supportedVersion ++
              ")\n  Upgrade plugin-check to use this config."))
      | some _ => .error (invalid path "TOML parse error")

def load (disk : Disk) (path : Path) : Except Error Config :=
  match disk.readText path with
  | .ok content => parse content path
  | .error fault => .error (.file path fault)

end Config

end PluginAudit
