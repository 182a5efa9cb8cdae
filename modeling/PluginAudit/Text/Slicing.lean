import PluginAudit.Text.Character

/-!
# Cutting and comparing text

Operations on character sequences that the parsers of this library share:
trimming, splitting into lines and items, searching, replacing, and lowercasing
whole words.  Every operation keeps the characters it is given in order.
-/

namespace PluginAudit.Text

/-! ## Trimming -/

/-- Drop the leading characters in `p`. -/
def trimStartBy (p : Char → Bool) (text : List Char) : List Char := text.dropWhile p

/-- Drop the trailing characters in `p`. -/
def trimEndBy (p : Char → Bool) (text : List Char) : List Char :=
  (text.reverse.dropWhile p).reverse

/-- Drop the characters in `p` at both ends. -/
def trimBy (p : Char → Bool) (text : List Char) : List Char := trimEndBy p (trimStartBy p text)

def trim (text : List Char) : List Char := trimBy isBlank text

/-- Whether a text holds nothing but white space. -/
def isBlankText (text : List Char) : Bool := text.all isBlank

/-! ## Searching -/

/-- What follows `head`, if the text starts with it. -/
def after? : (head text : List Char) → Option (List Char)
  | [], text => some text
  | _ :: _, [] => none
  | h :: hs, c :: cs => if h == c then after? hs cs else none

/-- What follows `head`, if the text starts with it up to case. -/
def afterFolded? : (head text : List Char) → Option (List Char)
  | [], text => some text
  | _ :: _, [] => none
  | h :: hs, c :: cs => if sameFolded h c then afterFolded? hs cs else none

/-- What precedes `tail`, if the text ends with it. -/
def before? (tail text : List Char) : Option (List Char) :=
  (after? tail.reverse text.reverse).map List.reverse

/-- The text before the first occurrence of `needle`, if there is one. -/
def upTo? (needle : List Char) : List Char → Option (List Char)
  | [] => if needle.isEmpty then some [] else none
  | c :: cs =>
      if (after? needle (c :: cs)).isSome then some [] else (upTo? needle cs).map (c :: ·)

/-- Whether `needle` occurs in the text. -/
def hasInfix (needle : List Char) : List Char → Bool
  | [] => needle.isEmpty
  | c :: cs => (after? needle (c :: cs)).isSome || hasInfix needle cs

/-- Replace every occurrence of `needle`, from the left and without overlap;
the first argument counts the characters of an occurrence still to skip. -/
def replaceFrom (needle replacement : List Char) : Nat → List Char → List Char
  | _, [] => []
  | skip + 1, _ :: cs => replaceFrom needle replacement skip cs
  | 0, c :: cs =>
      if (after? needle (c :: cs)).isSome then
        replacement ++ replaceFrom needle replacement (needle.length - 1) cs
      else c :: replaceFrom needle replacement 0 cs

/-- Replace every occurrence of a non-empty `needle`. -/
def replace (needle replacement text : List Char) : List Char :=
  if needle.isEmpty then text else replaceFrom needle replacement 0 text

/-! ## Splitting -/

/-- The pieces between the characters in `p`; there is always at least one. -/
def splitBy (p : Char → Bool) : List Char → List (List Char)
  | [] => [[]]
  | c :: cs =>
      if p c then [] :: splitBy p cs
      else
        match splitBy p cs with
        | [] => [[c]]
        | piece :: pieces => (c :: piece) :: pieces

/-- The pieces between the occurrences of `separator`. -/
def splitOn (separator : Char) (text : List Char) : List (List Char) :=
  splitBy (· == separator) text

/-- The text before and after the first occurrence of `separator`. -/
def splitOnce? (separator : Char) : List Char → Option (List Char × List Char)
  | [] => none
  | c :: cs =>
      if c == separator then some ([], cs)
      else (splitOnce? separator cs).map fun (head, tail) => (c :: head, tail)

/-- The words of a text: its maximal runs without white space. -/
def words (text : List Char) : List (List Char) :=
  (splitBy isBlank text).filter fun piece => !piece.isEmpty

/-- The trimmed, non-empty items of a comma-separated list. -/
def commaItems (text : List Char) : List (List Char) :=
  ((splitOn ',' text).map trim).filter fun item => !item.isEmpty

/-- Drop one carriage return at the end of a line that a line feed ended. -/
def dropLineReturn (line : List Char) : List Char :=
  (before? ['\r'] line).getD line

/-- The lines among the pieces between line feeds: every piece but the last was
ended by a line feed, and the last one is a line only if it is not empty. -/
def linesOfPieces : List (List Char) → List (List Char)
  | [] => []
  | [last] => if last.isEmpty then [] else [last]
  | piece :: pieces => dropLineReturn piece :: linesOfPieces pieces

/-- The lines of a text, each without its line ending. -/
def lines (text : List Char) : List (List Char) := linesOfPieces (splitOn '\n' text)

/-- The pieces with `separator` between them. -/
def joinWith (separator : List Char) : List (List Char) → List Char
  | [] => []
  | [piece] => piece
  | piece :: pieces => piece ++ separator ++ joinWith separator pieces

/-! ## Case -/

/-- ASCII letters in lower case, everything else unchanged. -/
def asciiLowercase (text : List Char) : List Char := text.map Char.toLower

/-- Equality up to the case of ASCII letters. -/
def sameAsciiFolded (a b : List Char) : Bool := asciiLowercase a == asciiLowercase b

/-- Whether a word character with case is the first one met that is not
passed over. -/
def meetsCased : List Char → Bool
  | [] => false
  | c :: cs => if isCaseIgnorable c then meetsCased cs else isCased c

/-- The lowercase form of a text, given what precedes it in reverse. -/
def lowercaseAfter : (before text : List Char) → List Char
  | _, [] => []
  | before, c :: cs =>
      let image :=
        if c == 'Σ' then
          -- a sigma that ends a word has a form of its own
          if meetsCased before && !meetsCased cs then ['ς'] else ['σ']
        else lowercaseChar c
      image ++ lowercaseAfter (c :: before) cs

def lowercase (text : List Char) : List Char := lowercaseAfter [] text

end PluginAudit.Text

namespace String

/-- The text without white space at both ends. -/
def trimmed (s : String) : String := String.ofList (PluginAudit.Text.trim s.toList)

def lowercased (s : String) : String := String.ofList (PluginAudit.Text.lowercase s.toList)

end String
