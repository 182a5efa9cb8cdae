import PluginAudit.Checks.Files
import PluginAudit.Text.Version

/-!
# The header of a plugin

The fields in the header of the main file must be there where they are needed
and well-formed where they are there.
-/

namespace PluginAudit

open PluginAudit.Text

namespace HeaderFieldsCheck

def behindScheme? (address : List Char) : Option (List Char) :=
  (after? "https://".toList address).or (after? "http://".toList address)

/-- Whether a text is an address of a page: a scheme and a host with a dot. -/
def isAddress (text : String) : Bool :=
  match behindScheme? text.toList with
  | none => false
  | some rest =>
      let host := rest.takeWhile fun c => c != '/' && c != '?' && c != '#'
      !host.isEmpty && host.contains '.' && !host.any isBlank

/-- Drop a text as often as it starts another. -/
def dropRepeated (head : List Char) (room : Nat) (text : List Char) : List Char :=
  match room with
  | 0 => text
  | room + 1 =>
      match after? head text with
      | some rest => dropRepeated head room rest
      | none => text

/-- An address without its scheme, `www.` and slashes at its end, in lower
case. -/
def comparableAddress (address : String) : List Char :=
  let drop (head : String) (text : List Char) : List Char :=
    dropRepeated head.toList text.length text
  lowercase (trimEndBy (· == '/')
    (drop "www." (drop "http://" (drop "https://" (trim address.toList)))))

/-- Whether two addresses lead to the same page. -/
def sameAddress (a b : String) : Bool := comparableAddress a == comparableAddress b

def finding (file : Path) (severity : Severity) (code text : String) : Finding :=
  { severity, text, code, file := file.text }

def complainIf (condition : Bool) (complaint : Finding) : List Finding :=
  if condition then [complaint] else []

/-- The text of a complaint about a value. -/
def found (text value : String) : String := text ++ " Found \"" ++ value ++ "\"."

/-- Whether a value is there and does not have a form. -/
def isMalformed (form : List Char → Bool) (value : String) : Bool :=
  !value.isEmpty && !form value.toList

/-- The findings about the name and the version. -/
def identityFindings (file : Path) (header : PluginHeader) : List Finding :=
  complainIf header.name.isEmpty (finding file .error "plugin_header_no_name"
    "The \"Plugin Name\" header is missing in the main plugin file.") ++
  complainIf header.version.isEmpty (finding file .error "plugin_header_no_version"
    "The \"Version\" header is missing in the main plugin file.") ++
  complainIf (isMalformed isPluginVersion header.version)
    (finding file .error "plugin_header_invalid_version"
      (found "The \"Version\" header in the main plugin file must be a version number such as 1.0.0."
        header.version))

def requirementFindings (file : Path) (header : PluginHeader) : List Finding :=
  complainIf (isMalformed isReleaseVersion header.requiresWp)
    (finding file .error "plugin_header_invalid_requires_wp"
      (found "The \"Requires at least\" header must be a WordPress version such as 6.5."
        header.requiresWp)) ++
  complainIf (isMalformed isReleaseVersion header.requiresPhp)
    (finding file .error "plugin_header_invalid_requires_php"
      (found "The \"Requires PHP\" header must be a PHP version such as 7.4."
        header.requiresPhp)) ++
  match header.requiresPlugins.find? fun slug => !isPluginSlug slug.toList with
  | some invalid =>
      [finding file .warning "plugin_header_invalid_requires_plugins"
        (found "The \"Requires Plugins\" header must be a comma-separated list of plugin slugs."
          invalid)]
  | none => []

def addressFindings (file : Path) (header : PluginHeader) : List Finding :=
  complainIf (!header.pluginUri.isEmpty && !isAddress header.pluginUri)
    (finding file .warning "plugin_header_invalid_plugin_uri"
      (found "The \"Plugin URI\" header is not a valid URL." header.pluginUri)) ++
  complainIf (!header.authorUri.isEmpty && !isAddress header.authorUri)
    (finding file .warning "plugin_header_invalid_author_uri"
      (found "The \"Author URI\" header is not a valid URL." header.authorUri)) ++
  complainIf (!header.pluginUri.isEmpty && !header.authorUri.isEmpty &&
      sameAddress header.pluginUri header.authorUri)
    (finding file .warning "plugin_header_same_plugin_author_uri"
      "The \"Plugin URI\" and \"Author URI\" headers must be different.") ++
  complainIf (!header.updateUri.isEmpty)
    (finding file .error "plugin_header_update_uri_not_allowed"
      "Plugin Updater detected. Use of the Update URI header is not allowed in plugins hosted on WordPress.org.")

/-- The findings about the license and the text domain. -/
def domainFindings (file : Path) (slug : String) (header : PluginHeader) : List Finding :=
  complainIf header.license.isEmpty (finding file .warning "plugin_header_no_license"
    "The \"License\" header is missing in the main plugin file.") ++
  complainIf (!header.textDomain.isEmpty && header.textDomain != slug)
    (finding file .warning "textdomain_mismatch"
      ("The \"Text Domain\" header in the main plugin file does not match the plugin slug. Found \""
        ++ header.textDomain ++ "\", expected \"" ++ slug ++ "\"."))

def headerFindings (context : PluginContext) (header : PluginHeader) : List Finding :=
  identityFindings context.mainFile header ++ requirementFindings context.mainFile header ++
    addressFindings context.mainFile header ++
    domainFindings context.mainFile context.slug header

def check : Check :=
  .ofFiles [.pluginRepo] "Checks adherence to the plugin header requirements."
    (handbook ++ "plugin-basics/header-requirements/")
    fun context disk => .needing (context.header disk) fun header =>
      .found (headerFindings context header)

end HeaderFieldsCheck

end PluginAudit
