import PluginAudit.Error
import PluginAudit.Text.Slicing

/-!
# Spans and positions

Where a pattern matched a text.  Offsets are counted in bytes of the encoded
text, lines and columns from one, columns in characters.  `spans` is the one
scanner that all starting-point matchers share: it goes through the text once,
tries every position behind the last match, and leaves out an empty match that
touches the match before it.
-/

namespace PluginAudit

open PluginAudit.Text

/-- A stretch of a text, in bytes. -/
structure Span where
  start : Nat
  stop : Nat
deriving DecidableEq, Inhabited

/-- The number of bytes a text takes. -/
def textSize (text : List Char) : Nat := text.foldl (fun n c => n + c.utf8Size) 0

/-- The text behind a number of bytes. -/
def dropBytes : Nat → List Char → List Char
  | _, [] => []
  | n, c :: cs => if n == 0 then c :: cs else dropBytes (n - c.utf8Size) cs

/-- The part of a text before a number of bytes. -/
def takeBytes : Nat → List Char → List Char
  | _, [] => []
  | n, c :: cs => if n == 0 then [] else c :: takeBytes (n - c.utf8Size) cs

namespace Span

def slice (s : Span) (text : List Char) : List Char :=
  takeBytes (s.stop - s.start) (dropBytes s.start text)

end Span

/-- A line and a column, both counted from one. -/
structure Position where
  line : UInt32
  /-- The column, in characters. -/
  column : UInt32
deriving DecidableEq, Inhabited

/-- The number behind a count, unless 32 bits do not hold it. -/
def ordinal (count : Nat) : Except Error UInt32 :=
  -- the count itself is cut to 32 bits
  let counted := UInt32.ofNat count
  if counted + 1 == 0 then .error .overflow else .ok (counted + 1)

/-- The characters behind the last line feed of a text. -/
def lastLine (text : List Char) : List Char := (text.reverse.takeWhile (· != '\n')).reverse

/-- The position at a byte offset of a text. -/
def lineColumn (text : String) (offset : Nat) : Except Error Position := do
  let before := takeBytes offset text.toList
  let line ← ordinal (before.count '\n')
  let column ← ordinal (lastLine before).length
  return ⟨line, column⟩

/-- A place in a text: the character before it, the text behind it, and its
offset. -/
structure Cursor where
  /-- The character before the place, if it is not the start. -/
  before : Option Char
  rest : List Char
  /-- The number of bytes before the place. -/
  offset : Nat
deriving DecidableEq, Inhabited

namespace Cursor

def atStart (text : List Char) : Cursor := ⟨none, text, 0⟩

/-- The place behind the next character, given that and what follows it. -/
def behind (c : Cursor) (next : Char) (rest : List Char) : Cursor :=
  ⟨some next, rest, c.offset + next.utf8Size⟩

/-- The place behind a literal, if the text there is the literal. -/
def behindLiteral? : List Char → Cursor → Option Cursor
  | [], c => some c
  | l :: ls, c =>
      match c.rest with
      | [] => none
      | next :: rest => if l == next then behindLiteral? ls (c.behind next rest) else none

end Cursor

/-- The span of a match tried at `here`, unless the place lies within the last
match or the match is empty and touches it. -/
def spanAt? (attempt : Cursor → Option Cursor) (lastStop : Option Nat) (here : Cursor) :
    Option Span :=
  if here.offset < lastStop.getD 0 then none
  else
    match attempt here with
    | none => none
    | some there =>
        if there.offset == here.offset && lastStop == some here.offset then none
        else some ⟨here.offset, there.offset⟩

/-- The spans from a place on, behind those already found, which are held in
reverse. -/
def spansFrom (attempt : Cursor → Option Cursor) (lastStop : Option Nat) (done : List Span)
    (before : Option Char) (offset : Nat) : List Char → List Span
  | [] =>
      match spanAt? attempt lastStop ⟨before, [], offset⟩ with
      | some span => (span :: done).reverse
      | none => done.reverse
  | c :: rest =>
      match spanAt? attempt lastStop ⟨before, c :: rest, offset⟩ with
      | some span =>
          spansFrom attempt (some span.stop) (span :: done) (some c) (offset + c.utf8Size) rest
      | none => spansFrom attempt lastStop done (some c) (offset + c.utf8Size) rest

/-- The spans of all matches in a text, from the left and without overlap.
`attempt` gives the end of the match that starts at a place, if there is one. -/
def spans (attempt : Cursor → Option Cursor) (text : List Char) : List Span :=
  spansFrom attempt none [] none 0 text

end PluginAudit
