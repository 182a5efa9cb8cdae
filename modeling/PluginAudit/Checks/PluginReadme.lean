import PluginAudit.Checks.Files
import PluginAudit.Checks.License
import PluginAudit.Readme

/-!
# The readme of a plugin

A plugin in a directory needs a readme, whose fields must be filled in and agree
with the header of the main file.
-/

namespace PluginAudit

open PluginAudit.Text

namespace PluginReadmeCheck

/-- The most characters of an upgrade notice. -/
def maximalNotice : Nat := 300

/-- The short description of the readme that plugins start from. -/
def defaultDescription : String := "Here is a short description of the plugin."

/-- A tag of the readme that plugins start from. -/
def defaultTag : String := "tag1"

/-- The donate link of the readme that plugins start from. -/
def defaultDonateLink : String := "http://example.com/"

def finding (file : Path) (severity : Severity) (code text : String) : Finding :=
  { severity, text, code, file := file.text }

/-- The findings about what could not be read. -/
def warningFindings (file : Path) (readme : Readme) : List Finding :=
  readme.warnings.map fun warning =>
    finding file (if warning == .invalidPluginNameHeader then .error else .warning) warning.code
      warning.message

/-- The findings about text that was not filled in. -/
def defaultTextFindings (file : Path) (readme : Readme) : List Finding :=
  if readme.shortDescription == defaultDescription || readme.tags.contains defaultTag ||
      readme.donateLink == defaultDonateLink then
    [finding file .error "default_readme_text" "The readme appears to contain default text."]
  else []

def licenseFindings (file : Path) (readme : Readme) (header : PluginHeader) : List Finding :=
  if readme.license.isEmpty then
    [finding file .error "no_license"
      "Your plugin has no license declared. Please update your readme with a GPLv2 (or later) compatible license."]
  else if !License.isCompatible readme.license then
    [finding file .error "invalid_license"
      "Your plugin has an invalid license declared. Please update your readme with a valid SPDX license identifier."]
  else if !header.license.isEmpty &&
      License.normalize header.license != License.normalize readme.license then
    [finding file .warning "license_mismatch"
      ("Your plugin has a different license declared in the readme file (\"" ++ readme.license ++
        "\") and plugin header (\"" ++ header.license ++ "\").")]
  else []

def stableTagFindings (file : Path) (readme : Readme) (header : PluginHeader) : List Finding :=
  let tag := readme.stableTag.trimmed
  if tag.isEmpty then
    [finding file .error "no_stable_tag"
      "Invalid or missing Stable Tag. Your Stable Tag is meant to be the stable version of your plugin and it needs to be exactly the same as the Version in your main plugin file's header."]
  else if sameAsciiFolded tag.toList "trunk".toList then
    [finding file .error "trunk_stable_tag" "It's recommended not to use 'Stable Tag: trunk'."]
  else if !header.version.isEmpty && tag != header.version then
    [finding file .error "stable_tag_mismatch"
      ("The Stable Tag in your readme file (\"" ++ tag ++
        "\") does not match the version in your main plugin file (\"" ++ header.version ++ "\").")]
  else []

def nameFindings (file : Path) (readme : Readme) (header : PluginHeader) : List Finding :=
  if !readme.name.isEmpty && !header.name.isEmpty && readme.name != header.name then
    [finding file .warning "mismatched_plugin_name"
      ("Plugin name \"" ++ readme.name ++
        "\" is different from the name declared in plugin header \"" ++ header.name ++ "\".")]
  else []

def noticeFindings (file : Path) (readme : Readme) : List Finding :=
  (readme.upgradeNotice.filter fun (_, notice) => notice.length > maximalNotice).map
    fun (version, _) =>
      finding file .warning "upgrade_notice_limit"
        ("The upgrade notice for \"" ++ version ++ "\" exceeds the limit of " ++
          toString maximalNotice ++ " characters.")

/-- The findings about the readme in a file. -/
def readmeFindings (file : Path) (readme : Readme) (header : PluginHeader) : List Finding :=
  warningFindings file readme ++ defaultTextFindings file readme ++
    licenseFindings file readme header ++ stableTagFindings file readme header ++
    nameFindings file readme header ++ noticeFindings file readme

/-- The findings about the readme of a plugin. -/
def look (context : PluginContext) (disk : Disk) : CheckOutcome :=
  if context.isSingleFile then {}
  else
    match Readme.find? disk context.directory with
    | none =>
        .found [finding ⟨"readme.txt"⟩ .error "no_plugin_readme"
          "The plugin readme.txt does not exist."]
    | some path =>
        .needing (Readme.read disk path) fun readme =>
          .needing (context.header disk) fun header => .found (readmeFindings path readme header)

def check : Check :=
  .ofFiles [.pluginRepo] "Checks adherence to the readme requirements."
    (handbook ++ "wordpress-org/how-your-readme-txt-works/") look

end PluginReadmeCheck

end PluginAudit
