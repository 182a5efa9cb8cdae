import PluginAudit.Checks.Files
import PluginAudit.Linter

/-!
# Rules of coding standards

Checks that leave the looking to a linter: each runs it with a standard, limited
to some of the rules in it, and takes over what it reports.
-/

namespace PluginAudit

structure LinterRule where
  slug : String
  standard : String
  sniffs : List String
  categories : List Category
  stability : Stability
  description : String
  documentation : String

namespace LinterRule

def all : List LinterRule := [
  { slug := "i18n_usage"
    standard := "WordPress"
    sniffs :=
      ["WordPress.WP.I18n"]
    categories := [.general]
    stability := .stable
    description := "Checks for various internationalization best practices."
    documentation := handbook ++ "internationalization/how-to-internationalize-your-plugin/" },
  { slug := "late_escaping"
    standard := "WordPress"
    sniffs :=
      ["WordPress.Security.EscapeOutput"]
    categories := [.security]
    stability := .stable
    description := "Checks that all output is escaped before being printed."
    documentation := "https://developer.wordpress.org/apis/security/escaping/" },
  { slug := "plugin_review_phpcs"
    standard := "WordPress"
    sniffs :=
      ["Generic.PHP.DisallowShortOpenTag", "Generic.PHP.DisallowAlternativePHPTags",
        "Generic.PHP.ForbiddenFunctions", "WordPress.WP.DeprecatedFunctions",
        "WordPress.WP.DeprecatedClasses", "WordPress.WP.DeprecatedParameters",
        "WordPress.PHP.DontExtract", "WordPress.PHP.RestrictedPHPFunctions",
        "WordPress.WP.AlternativeFunctions", "WordPress.Security.ValidatedSanitizedInput",
        "WordPress.Security.NonceVerification"]
    categories := [.pluginRepo]
    stability := .stable
    description := "Runs the coding standard rules used in the plugin review."
    documentation := handbook ++ "wordpress-org/detailed-plugin-guidelines/" },
  { slug := "direct_db_queries"
    standard := "WordPress"
    sniffs :=
      ["WordPress.DB.DirectDatabaseQuery", "WordPress.DB.PreparedSQL",
        "WordPress.DB.PreparedSQLPlaceholders"]
    categories := [.security]
    stability := .stable
    description := "Checks the usage of direct database queries, which should be avoided."
    documentation := "https://developer.wordpress.org/apis/database/" },
  { slug := "performant_wp_query_params"
    standard := "WordPress"
    sniffs :=
      ["WordPress.DB.SlowDBQuery", "WordPress.WP.PostsPerPage"]
    categories := [.performance]
    stability := .stable
    description := "Checks for potentially slow database query parameters."
    documentation := handbook },
  { slug := "enqueued_scripts_in_footer"
    standard := "WordPress"
    sniffs :=
      ["WordPress.WP.EnqueuedResourceParameters"]
    categories := [.performance]
    stability := .stable
    description := "Checks whether scripts are loaded in the footer or deferred."
    documentation := "https://developer.wordpress.org/reference/functions/wp_enqueue_script/" },
  { slug := "enqueued_resources"
    standard := "WordPress"
    sniffs :=
      ["WordPress.WP.EnqueuedResources"]
    categories := [.pluginRepo, .performance]
    stability := .stable
    description := "Checks that scripts and styles are enqueued rather than printed."
    documentation := handbook ++ "javascript/enqueuing/" },
  { slug := "localhost"
    standard := "PluginCheck"
    sniffs :=
      ["PluginCheck.CodeAnalysis.Localhost"]
    categories := [.pluginRepo]
    stability := .stable
    description := "Detects references to localhost URLs."
    documentation := handbook },
  { slug := "setting_sanitization"
    standard := "PluginCheck"
    sniffs :=
      ["PluginCheck.CodeAnalysis.SettingSanitization"]
    categories := [.pluginRepo]
    stability := .experimental
    description := "Checks that registered settings are sanitized."
    documentation := "https://developer.wordpress.org/apis/security/sanitizing/" },
  { slug := "offloading_files"
    standard := "PluginCheck"
    sniffs :=
      ["PluginCheck.CodeAnalysis.Offloading"]
    categories := [.pluginRepo, .performance]
    stability := .stable
    description := "Detects assets loaded from external content delivery networks."
    documentation := handbook ++ "wordpress-org/detailed-plugin-guidelines/#8-plugins-may-not-send-executable-code-via-third-party-systems" }]

/-- The options that limit a linter to the rules and to the files that count. -/
def options (rule : LinterRule) : List (String × String) :=
  [("sniffs", ",".intercalate rule.sniffs), ("extensions", "php"),
    ("ignore", "*/vendor/*,*/node_modules/*")]

def look (rule : LinterRule) (linter : Linter) (context : PluginContext) (world : World) :
    CheckOutcome × World :=
  let (outcome, world) := (linter.lint rule.standard rule.options context.root).runIn world
  (.needing outcome fun report => .found report.findings, world)

def check (rule : LinterRule) (linter : Linter) : Check where
  stability := rule.stability
  categories := rule.categories
  description := rule.description
  documentation := rule.documentation
  unavailability world :=
    if linter.isAvailable world then none else some "the phpcs executable was not found"
  run := rule.look linter

end LinterRule

end PluginAudit
