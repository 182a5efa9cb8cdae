/-!
# Coloured text

Text as segments, some of them styled, and its form with and without the escape
sequences of a terminal.
-/

namespace PluginAudit

inductive Style
  | pass
  | error
  | warning
  | code
  | path
  | place
deriving DecidableEq

def escape (code : String) : String := "\x1b[" ++ code ++ "m"

/-- The sequences that turn a style on: reset, bold, colour. -/
def Style.sequence : Style → String
  | .pass => escape "0" ++ escape "1" ++ escape "32"
  | .error => escape "0" ++ escape "1" ++ escape "31"
  | .warning => escape "0" ++ escape "1" ++ escape "33"
  | .code => escape "0" ++ escape "1"
  | .path => escape "0" ++ escape "36"
  | .place => escape "0" ++ escape "33"

structure Segment where
  style : Option Style
  text : String
deriving DecidableEq

namespace Segment

def plain (text : String) : Segment := ⟨none, text⟩

def styled (style : Style) (text : String) : Segment := ⟨some style, text⟩

/-- The text of a part, with escape sequences if `color` is set. -/
def render (color : Bool) (s : Segment) : String :=
  match s.style with
  | none => s.text
  | some style => if color then style.sequence ++ s.text ++ escape "0" else s.text

end Segment

def renderSegments (color : Bool) (segments : List Segment) : String :=
  String.join (segments.map (Segment.render color))

end PluginAudit
