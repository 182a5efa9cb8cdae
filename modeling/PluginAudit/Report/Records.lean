import PluginAudit.Config
import PluginAudit.Linter
import PluginAudit.Readme
import PluginAudit.Run.Request

/-!
# Records as JSON

Headers, readmes, configurations, linter reports and requests in the form in
which other tools read them.
-/

namespace PluginAudit

open PluginAudit.Text

def optionalJson {α : Type} (toJson : α → Json) : Option α → Json
  | some value => toJson value
  | none => .null

def textsJson (items : List String) : Json := .list (items.map Json.text)

def namedTextsJson (entries : List (String × String)) : Json :=
  .object (entries.map fun (name, value) => (name, .text value))

def PluginHeader.toJson (h : PluginHeader) : Json :=
  .object [
    ("name", .text h.name), ("plugin_uri", .text h.pluginUri), ("version", .text h.version),
    ("description", .text h.description), ("author", .text h.author),
    ("author_uri", .text h.authorUri), ("text_domain", .text h.textDomain),
    ("domain_path", .text h.domainPath), ("network", .bool h.network),
    ("requires_wp", .text h.requiresWp), ("requires_php", .text h.requiresPhp),
    ("requires_plugins", textsJson h.requiresPlugins), ("update_uri", .text h.updateUri),
    ("license", .text h.license), ("license_uri", .text h.licenseUri)]

def InstalledPlugins.toJson (plugins : InstalledPlugins) : Json :=
  .object (plugins.map fun (name, header) => (name, header.toJson))

def Readme.toJson (r : Readme) : Json :=
  .object [
    ("name", .text r.name), ("contributors", textsJson r.contributors),
    ("tags", textsJson r.tags), ("donate_link", .text r.donateLink),
    ("requires", .text r.requires), ("tested", .text r.tested),
    ("requires_php", .text r.requiresPhp), ("stable_tag", .text r.stableTag),
    ("license", .text r.license), ("license_uri", .text r.licenseUri),
    ("short_description", .text r.shortDescription), ("sections", namedTextsJson r.sections),
    ("upgrade_notice", namedTextsJson r.upgradeNotice),
    ("warnings", .list (r.warnings.map fun w => .list [.text w.code, .text w.message]))]

/-- What is said about the site, as JSON. -/
def SiteConfig.toJson (s : SiteConfig) : Json :=
  .object [
    ("root", optionalJson (fun p => .text p.text) s.root),
    ("environment_type", optionalJson (fun kind => .text kind.name) s.environment),
    ("home_url", optionalJson .text s.homeAddress),
    ("plugins_url", optionalJson .text s.pluginsAddress)]

def RuntimeConfig.toJson (r : RuntimeConfig) : Json :=
  .object [("table_prefix", .text r.tablePrefix),
    ("theme_root", optionalJson (fun p => .text p.text) r.themeDirectory)]

def CheckConfig.toJson (c : CheckConfig) : Json :=
  .object [
    ("enqueued_scripts_size", .number c.scriptThreshold.toNat),
    ("enqueued_styles_size", .number c.styleThreshold.toNat),
    ("file_type", .object [("types", optionalJson textsJson c.fileKinds),
      ("ignore_directories", optionalJson textsJson c.ignoredDirectories)]),
    ("code_obfuscation", .object [("tools", optionalJson textsJson c.obfuscationTools)]),
    ("trademarks", .object [("extra_terms", textsJson c.extraTerms)])]

def Config.toJson (c : Config) : Json :=
  .object [("version", .number c.version), ("wordpress", c.site.toJson),
    ("runtime", c.runtime.toJson), ("linter", .object [("phpcs", .text c.linter)]),
    ("check", c.checks.toJson)]

def LinterMessage.toJson (m : LinterMessage) : Json :=
  .list [.text m.kind, .number m.line, .number m.column, .text m.source, .text m.text]

def LinterReport.toJson (r : LinterReport) : Json :=
  .object [("count", .number r.messageCount),
    ("files", .object (r.files.map fun (file, messages) =>
      (file, .list (messages.map LinterMessage.toJson))))]

def AssetKind.toJson : AssetKind → Json
  | .script => .text "script"
  | .style => .text "style"

/-- An asset as JSON: its handle, kind, address, file and size. -/
def Asset.toJson (a : Asset) : Json :=
  .list [.text a.handle, a.kind.toJson, .text a.source,
    optionalJson (fun p => .text p.text) a.path, .number a.size.toNat]

def RunRequest.toJson (q : RunRequest) : Json :=
  .object [
    ("is_check", .bool q.isPluginCheck), ("plugin", optionalJson .text q.plugin),
    ("checks", textsJson q.checks), ("exclude", textsJson q.excluded),
    ("categories", textsJson (q.categories.map Category.slug)),
    ("experimental", .bool q.includesExperimental), ("manages", .bool q.managesEnvironment)]

end PluginAudit
