import PluginAudit.Text.Unicode.Letters
import PluginAudit.Text.Unicode.Casing

/-!
# Character classes and case

The classes that decide trimming, slugs, version numbers and word boundaries,
and the case maps used when names are compared.  ASCII characters are decided
by their code point; all others are looked up in the property tables.
-/

namespace PluginAudit.Text

open PluginAudit.Text.Unicode

/-- White space: the characters that trimming removes. -/
def isBlank (c : Char) : Bool :=
  let n := c.toNat
  (9 ≤ n && n ≤ 13) || n == 0x20 || n == 0x85 || n == 0xA0 || n == 0x1680 ||
    (0x2000 ≤ n && n ≤ 0x200A) || n == 0x2028 || n == 0x2029 || n == 0x202F ||
    n == 0x205F || n == 0x3000

def isDecimal (c : Char) : Bool :=
  let n := c.toNat
  if n < 0x80 then 0x30 ≤ n && n ≤ 0x39 else decimalRanges.contains n

/-- The ASCII digits `0` to `9`. -/
def isAsciiDigit (c : Char) : Bool := '0' ≤ c && c ≤ '9'

def isAsciiLetter (c : Char) : Bool := ('a' ≤ c && c ≤ 'z') || ('A' ≤ c && c ≤ 'Z')

def isAsciiAlphanumeric (c : Char) : Bool := isAsciiLetter c || isAsciiDigit c

/-- Alphabetic characters of any script. -/
def isAlphabetic (c : Char) : Bool :=
  if c.toNat < 0x80 then isAsciiLetter c else alphabeticRanges.contains c.toNat

/-- Alphabetic characters and numbers of any script. -/
def isAlphanumeric (c : Char) : Bool :=
  let n := c.toNat
  if n < 0x80 then isAsciiAlphanumeric c
  else alphabeticRanges.contains n || decimalRanges.contains n || otherNumberRanges.contains n

/-- Characters that make up words: letters, marks, decimal digits, connectors
and the two joiners. -/
def isWord (c : Char) : Bool :=
  let n := c.toNat
  if n < 0x80 then isAsciiAlphanumeric c || c == '_'
  else alphabeticRanges.contains n || markRanges.contains n || decimalRanges.contains n ||
    connectorRanges.contains n || n == 0x200C || n == 0x200D

/-- The lowercase form of one character. -/
def lowercaseChar (c : Char) : List Char :=
  let n := c.toNat
  if n < 0x80 then [c.toLower]
  -- the capital I with a dot above is the only one with two characters
  else if n == 0x130 then ['i', Char.ofNat 0x307]
  else [Char.ofNat (lowercaseRuns.apply n)]

/-- The representative of the characters that differ from `c` only by case. -/
def foldChar (c : Char) : Char :=
  let n := c.toNat
  if n < 0x80 then c.toLower else Char.ofNat (foldingRuns.apply n)

/-- Equality up to case. -/
def sameFolded (a b : Char) : Bool := foldChar a == foldChar b

/-- All characters that are equal to `c` up to case. -/
def caseVariants (c : Char) : List Char :=
  let key := foldChar c
  key :: (foldingRuns.preimages key.toNat).map Char.ofNat

/-- Whether a character has case. -/
def isCased (c : Char) : Bool :=
  let n := c.toNat
  if n < 0x80 then isAsciiLetter c else casedRanges.contains n

/-- Whether a character is passed over when the case of a word is judged. -/
def isCaseIgnorable (c : Char) : Bool := caseIgnorableRanges.contains c.toNat

end PluginAudit.Text
