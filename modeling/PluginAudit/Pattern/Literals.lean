import PluginAudit.Pattern.Span

/-!
# Literal patterns

Matching a text against one literal or against several at once.  A single
literal is found at its first place.  Of several literals the one that ends
first is found, and among those that end together the longest one.
-/

namespace PluginAudit

open PluginAudit.Text

namespace Literal

/-- The spans of one literal.  An empty literal matches everywhere. -/
def spans (literal text : List Char) : List Span :=
  PluginAudit.spans (Cursor.behindLiteral? literal) text

end Literal

namespace Literals

/-- The size of the longest literal that ends where `seen` does, which is held
in reverse; the literals are, too. -/
def longestEnding : (reversed : List (List Char)) → (seen : List Char) → Option Nat
  | [], _ => none
  | literal :: others, seen =>
      let best := longestEnding others seen
      if (after? literal seen).isSome then some (max (textSize literal) (best.getD 0)) else best

/-- The spans of non-empty literals, behind those already found. `seen` is the
text since the last match. -/
def spansFrom (reversed : List (List Char)) (done : List Span) (seen : List Char)
    (offset : Nat) : List Char → List Span
  | [] => done.reverse
  | c :: rest =>
      let offset' := offset + c.utf8Size
      match longestEnding reversed (c :: seen) with
      -- what matched takes no part in a later match
      | some size => spansFrom reversed (⟨offset' - size, offset'⟩ :: done) [] offset' rest
      | none => spansFrom reversed done (c :: seen) offset' rest

def spans (literals : List (List Char)) (text : List Char) : List Span :=
  -- an empty literal is found at every place, before any other
  if literals.any List.isEmpty then Literal.spans [] text
  else spansFrom (literals.map List.reverse) [] [] 0 text

end Literals

end PluginAudit
