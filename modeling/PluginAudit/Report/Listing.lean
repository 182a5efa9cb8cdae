import PluginAudit.Check.Collection
import PluginAudit.Report.Style
import PluginAudit.Text.Json

/-!
# Listings

The checks and the categories there are, as text in columns and as JSON.
-/

namespace PluginAudit

open PluginAudit.Text

/-- The length of the longest text in bytes. -/
def columnWidth (texts : List String) : Nat :=
  texts.foldl (fun widest text => max widest text.utf8ByteSize) 0

/-- A text with spaces behind it, up to a number of characters. -/
def padded (width : Nat) (text : String) : String :=
  text ++ String.ofList (List.replicate (width - text.length) ' ')

namespace Check

/-- The line of a check in a listing. -/
def listed (width : Nat) (slug : String) (check : Check) : List Segment :=
  [.styled .code (padded width slug),
    .plain ("  " ++ padded 7 check.mode.name ++ "  " ++
      ",".intercalate (check.categories.map Category.slug))] ++
    (if check.isExperimental then [.styled .warning " (experimental)"] else []) ++
    [.plain "\n"]

/-- What is said about a check in a listing. -/
def listedJson (slug : String) (check : Check) : Json :=
  .object ([("slug", .text slug), ("mode", .text check.mode.name),
      ("stability", .text check.stability.name),
      ("categories", .list (check.categories.map fun c => .text c.slug)),
      ("description", .text check.description)] ++
    (if check.documentation.isEmpty then []
    else [("documentation_url", .text check.documentation)]))

end Check

namespace CheckCollection

def listing (color : Bool) (c : CheckCollection) : String :=
  let width := columnWidth c.slugs
  renderSegments color (c.entries.flatMap fun (slug, check) => check.listed width slug)

def listingJson (c : CheckCollection) : String :=
  (Json.list (c.entries.map fun (slug, check) => check.listedJson slug)).pretty ++ "\n"

end CheckCollection

namespace Vocabulary

def listing (color : Bool) (v : Vocabulary) : String :=
  let width := columnWidth (v.categories.map Category.slug)
  renderSegments color (v.categories.flatMap fun category =>
    [.styled .code (padded width category.slug), .plain ("  " ++ v.label category ++ "\n")])

def listingJson (v : Vocabulary) : String :=
  (Json.list (v.categories.map fun category =>
    .object [("slug", .text category.slug), ("name", .text (v.label category))])).pretty ++ "\n"

end Vocabulary

end PluginAudit
