import PluginAudit.Checks.Files
import PluginAudit.Pattern.Automaton
import PluginAudit.Readme

/-!
# Restricted terms

Names of products and companies that the name and the slug of a plugin must not
use.  Names are compared as slugs.  A term that ends with a dash is restricted
at the start of a slug only, all others are restricted anywhere.  Some terms
may end a name behind `for`.
-/

namespace PluginAudit

open PluginAudit.Text

namespace Trademarks

def terms : List String :=
  ["adobe-", "adsense-", "advanced-custom-fields-", "adwords-", "akismet-",
    "all-in-one-wp-migration", "amazon-", "android-", "apple-", "applenews-", "aws-", "bbpress-",
    "bing-", "bootstrap-", "buddypress-", "chatgpt-", "chat-gpt-", "contact-form-7-", "cpanel-",
    "disqus-", "divi-", "dropbox-", "easy-digital-downloads-", "elementor-", "envato-", "fbook",
    "facebook", "fb-", "fedex-", "feedburner", "firefox-", "fontawesome-", "font-awesome-",
    "ganalytics-", "gberg", "github-", "givewp-", "google-", "googlebot-", "googles-",
    "gravity-form-", "gravity-forms-", "gravityforms-", "gutenberg", "guten-", "hubspot-", "ig-",
    "insta-", "instagram", "internet-explorer-", "jetpack-", "macintosh-", "mailchimp-",
    "microsoft-", "ninja-forms-", "oculus", "onlyfans-", "only-fans-", "opera-", "paddle-",
    "paypal-", "pinterest-", "skype-", "stripe-", "tiktok-", "tik-tok-", "trustpilot", "twitch-",
    "twitter-", "tweet", "ups-", "usps-", "vvhatsapp", "vvcommerce", "vva-", "vvoocommerce",
    "wa-", "wh4tsapps", "whatsapp", "whats-app", "watson", "windows-", "wocommerce", "woocom-",
    "woocommerce", "woocomerce", "woo-commerce", "woo-", "wo-", "wordpress", "wordpess",
    "wpress", "wp-mail-smtp-", "yandex-", "yahoo-", "yoast", "youtube-", "you-tube-"]

/-- Terms that may end a name behind `for`. -/
def endingTerms : List String := ["woocommerce"]

/-- Put dashes between the runs of alphanumeric characters. -/
def dashedFrom (started due : Bool) : List Char → List Char
  | [] => []
  | c :: cs =>
      if isAlphanumeric c then
        if due then '-' :: c :: dashedFrom true false cs else c :: dashedFrom true false cs
      -- a dash is due only once a character was written
      else dashedFrom started started cs

/-- The slug of a name: its alphanumeric characters in lower case, with single
dashes in place of everything between them. -/
def slugOf (name : List Char) : List Char :=
  dashedFrom false false ((trim name).flatMap lowercaseChar)

def slugify (name : String) : String := String.ofList (slugOf name.toList)

/-- The restricted term that a configuration adds, unless its slug is empty. -/
def extraTerm? (text : String) : Option String :=
  let slug := slugify text
  if slug.isEmpty then none
  else if (trim text.toList).getLast? == some '-' then some (slug ++ "-")
  else some slug

/-- The restricted terms and those that a configuration adds. -/
def allTerms (extra : List String) : List String := terms ++ extra.filterMap extraTerm?

/-- A slug without the first ending that it may have. -/
def withoutEnding (slug : List Char) : List Char :=
  (endingTerms.findSome? fun term => before? ("-for-" ++ term).toList slug).getD slug

/-- Whether a term is restricted at the start of a slug only. -/
def isLeading (term : String) : Bool := term.toList.getLast? == some '-'

/-- Whether an occurrence is one of a term where it is restricted. -/
def counts (terms : List String) (found : Occurrence) : Bool :=
  terms[found.word]?.any fun term => !isLeading term || found.span.start == 0

/-- The first term that a name uses, without its dash. -/
def findTerm? (terms : List String) (name : String) : Option String :=
  let slug := withoutEnding (slugOf name.toList)
  let found := ((Automaton.ofTexts terms).occurrences slug).filter (counts terms)
  -- the terms are found in the order they end in, and the first one of the list is wanted
  (found.map Occurrence.word).min?.bind fun first => terms[first]?.map fun term =>
    String.ofList (trimEndBy (· == '-') term.toList)

/-- What is said about a name or a slug that uses a term. -/
def complaint (kind name term : String) : String :=
  "The plugin " ++ kind ++ " includes a restricted term. Your chosen plugin " ++ kind ++ " - \"" ++
    name ++ "\" - contains the restricted term \"" ++ term ++
    "\" which cannot be used within your plugin " ++ kind ++
    (if endingTerms.contains term then
      ", unless your plugin " ++ kind ++ " ends with \"for " ++ term ++ "\""
    else "") ++ "."

/-- The findings about a name or a slug. -/
def findings (terms : List String) (kind name : String) (file : Path) : List Finding :=
  match findTerm? terms name with
  | some term =>
      [{ severity := .error, text := complaint kind name term, code := "trademarked_term"
         file := file.text }]
  | none => []

/-- The findings about the name in the readme. -/
def readmeOutcome (terms : List String) (context : PluginContext) (disk : Disk) :
    CheckOutcome :=
  if context.isSingleFile then {}
  else
    match Readme.find? disk context.directory with
    | none => {}
    | some path =>
        .needing (Readme.read disk path) fun readme =>
          .found (findings terms "name" readme.name path)

/-- The findings about the names and the slug of a plugin. -/
def look (terms : List String) (context : PluginContext) (disk : Disk) : CheckOutcome :=
  (readmeOutcome terms context disk).andThen <|
    .needing (context.header disk) fun header =>
      .found (findings terms "name" header.name context.mainFile ++
        findings terms "slug" context.slug context.mainFile)

def check (extra : List String) : Check :=
  .ofFiles [.pluginRepo]
    "Checks the usage of trademarks or restricted terms in the plugin name and slug."
    (handbook ++ "wordpress-org/detailed-plugin-guidelines/#17-plugins-must-respect-trademarks-copyrights-and-project-names")
    (look (allTerms extra))

end Trademarks

end PluginAudit
