import PluginAudit.Error
import PluginAudit.Pattern.Literals
import PluginAudit.Pattern.Regex.Reader

/-!
# Source patterns

What content checks search for.  A pattern without signs of a regular
expression is a literal, one that is nothing but an alternation of such texts a
list of literals, and everything else a regular expression.
-/

namespace PluginAudit

open PluginAudit.Text

inductive Pattern
  | literal (text : List Char)
  | literals (texts : List (List Char))
  | regex (expression : Regex)

structure Located where
  position : Position
  text : String
deriving DecidableEq

namespace Pattern

/-- The signs that make a pattern more than a literal. -/
def isRegexSign (c : Char) : Bool := "\\.*+?()[]\x7b\x7d^$|".toList.contains c

def isLiteral (text : List Char) : Bool := !text.isEmpty && !text.any isRegexSign

/-- The texts of an alternation that is nothing more. -/
def alternatives? (text : List Char) : Option (List (List Char)) :=
  let parts := splitOn '|' text
  if parts.length ≥ 2 && parts.all isLiteral then some parts else none

def compile (text : String) : Except Error Pattern :=
  if isLiteral text.toList then .ok (.literal text.toList)
  else
    match alternatives? text.toList with
    | some texts => .ok (.literals texts)
    | none =>
        match Regex.read text.toList with
        | .ok expression => .ok (.regex expression)
        | .error fault => .error (.internal ("invalid regex pattern: " ++ fault.message))

/-- The spans of all matches in a text. -/
def spans (content : List Char) : Pattern → List Span
  | literal text => Literal.spans text content
  | literals texts => Literals.spans texts content
  | regex expression => expression.spans content

/-- The spans of all matches in a text. -/
def findAll (p : Pattern) (content : String) : List Span := p.spans content.toList

def isMatch (p : Pattern) (content : String) : Bool := !(p.findAll content).isEmpty

/-- The place and the text of a span. -/
def locate (content : String) (span : Span) : Except Error Located :=
  (lineColumn content span.start).map fun position =>
    ⟨position, String.ofList (span.slice content.toList)⟩

def locateAll (p : Pattern) (content : String) : Except Error (List Located) :=
  (p.findAll content).mapM (locate content)

/-- The first of all matches, which are located together. -/
def locateFirst (p : Pattern) (content : String) : Except Error (Option Located) :=
  (p.locateAll content).map List.head?

end Pattern

end PluginAudit
