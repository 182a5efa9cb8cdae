import PluginAudit.Text.Slicing

/-!
# Version numbers and slugs

The written forms that header and readme fields are checked against.
-/

namespace PluginAudit.Text

/-- A non-empty run of decimal digits. -/
def isNumeral (piece : List Char) : Bool := !piece.isEmpty && piece.all isDecimal

/-- Two or three numerals with dots between them: the version of a release of
the site software or of the language it runs on. -/
def isReleaseVersion (text : List Char) : Bool :=
  let pieces := splitOn '.' text
  (pieces.length == 2 || pieces.length == 3) && pieces.all isNumeral

/-- Characters of the suffix of a plugin version. -/
def isSuffixChar (c : Char) : Bool := isAsciiAlphanumeric c || c == '.' || c == '-'

/-- Numerals with dots between them, and a suffix behind a `-` or `+`. -/
def isPluginVersion (text : List Char) : Bool :=
  let isNumberPart (c : Char) : Bool := isDecimal c || c == '.'
  (splitOn '.' (text.takeWhile isNumberPart)).all isNumeral &&
    match text.dropWhile isNumberPart with
    | [] => true
    | c :: suffix => (c == '-' || c == '+') && !suffix.isEmpty && suffix.all isSuffixChar

def isSlugChar (c : Char) : Bool := ('a' ≤ c && c ≤ 'z') || isAsciiDigit c

/-- Words of lowercase ASCII letters and digits with single dashes between
them. -/
def isPluginSlug (text : List Char) : Bool :=
  (splitOn '-' text).all fun piece => !piece.isEmpty && piece.all isSlugChar

end PluginAudit.Text
