import PluginAudit.Pattern.Span
import PluginAudit.Text.Unicode.Ranges

/-!
# Regular expressions

The expressions, the character sets in them, and how they match.  `ends` lists
the places where a match from a given place may end, the preferred one first
and each once; the match is the first of them, at the first place that has any.
-/

namespace PluginAudit

open PluginAudit.Text PluginAudit.Text.Unicode

inductive CharSet
  | oneOf (chars : List Char)
  /-- The characters between two bounds, which are in it. -/
  | interval (low high : Char)
  | property (ranges : Ranges)
  | word
  /-- All characters that equal one of the set up to case. -/
  | folded (set : CharSet)
  /-- The same for ASCII letters alone. -/
  | asciiFolded (set : CharSet)
  /-- The characters that are not in the set. -/
  | complement (set : CharSet)
  | union (a b : CharSet)
  | both (a b : CharSet)
deriving Inhabited

namespace CharSet

/-- An ASCII letter in the other case. -/
def otherCase (c : Char) : Char := if c.isUpper then c.toLower else c.toUpper

def mem : CharSet → Char → Bool
  | oneOf chars, c => chars.contains c
  | interval low high, c => low ≤ c && c ≤ high
  | property ranges, c => ranges.contains c.toNat
  | word, c => isWord c
  | folded set, c => mem set c || (caseVariants c).any fun v => mem set v
  | asciiFolded set, c => mem set c || mem set (otherCase c)
  | complement set, c => !mem set c
  | union a b, c => mem a c || mem b c
  | both a b, c => mem a c && mem b c

def empty : CharSet := oneOf []

/-- The characters of the first set that are not in the second. -/
def difference (a b : CharSet) : CharSet := both a (complement b)

/-- The characters in exactly one of two sets. -/
def symmetricDifference (a b : CharSet) : CharSet :=
  union (difference a b) (difference b a)

end CharSet

/-- A condition on a place in a text. -/
inductive Assertion
  | textStart
  | textEnd
  /-- The start of a line; `returns` says whether carriage returns end lines. -/
  | lineStart (returns : Bool)
  | lineEnd (returns : Bool)
  /-- A place between a character of the set and one that is not in it. -/
  | boundary (letters : CharSet)
  /-- A place that is no boundary. -/
  | noBoundary (letters : CharSet)
  | wordStart (letters : CharSet)
  | wordEnd (letters : CharSet)
  /-- A place behind no word character. -/
  | wordStartHalf (letters : CharSet)
  /-- A place before no word character. -/
  | wordEndHalf (letters : CharSet)

namespace Assertion

/-- Whether a character is there and in the set. -/
def isIn (set : CharSet) : Option Char → Bool
  | some c => set.mem c
  | none => false

def holds (here : Cursor) : Assertion → Bool
  | textStart => here.before.isNone
  | textEnd => here.rest.isEmpty
  | lineStart false => here.before.isNone || here.before == some '\n'
  | lineStart true =>
      here.before.isNone || here.before == some '\n' ||
        (here.before == some '\r' && here.rest.head? != some '\n')
  | lineEnd false => here.rest.isEmpty || here.rest.head? == some '\n'
  | lineEnd true =>
      here.rest.isEmpty || here.rest.head? == some '\r' ||
        (here.rest.head? == some '\n' && here.before != some '\r')
  | boundary letters => isIn letters here.before != isIn letters here.rest.head?
  | noBoundary letters => isIn letters here.before == isIn letters here.rest.head?
  | wordStart letters => !isIn letters here.before && isIn letters here.rest.head?
  | wordEnd letters => isIn letters here.before && !isIn letters here.rest.head?
  | wordStartHalf letters => !isIn letters here.before
  | wordEndHalf letters => !isIn letters here.rest.head?

end Assertion

inductive Regex
  | empty
  | char (set : CharSet)
  | assertion (condition : Assertion)
  | sequence (a b : Regex)
  /-- One of two expressions, the first preferred. -/
  | choice (a b : Regex)
  /-- An expression or nothing; a greedy one prefers the expression. -/
  | optional (greedy : Bool) (body : Regex)
  /-- An expression once or more; a greedy one prefers more. -/
  | repeated (greedy : Bool) (body : Regex)
deriving Inhabited

namespace Regex

/-- The places of a list, each at its first occurrence only. -/
def distinctPlaces : (seen : List Nat) → List Cursor → List Cursor
  | _, [] => []
  | seen, c :: cs =>
      if seen.contains c.offset then distinctPlaces seen cs
      else c :: distinctPlaces (c.offset :: seen) cs

/-- The places of a list, each once. -/
def distinct : List Cursor → List Cursor
  | [] => []
  | [c] => [c]
  | cs => distinctPlaces [] cs

/-- What is known while a repetition is explored. -/
structure Exploration where
  reached : List Nat := []
  /-- The places where the repetition may end, in reverse. -/
  ends : List Cursor := []

/-- Explore the iterations of a repetition from a place; `room` bounds how often the place
moves on. -/
def explore (step : Cursor → List Cursor) (greedy : Bool) :
    (room : List Char) → Cursor → Exploration → Exploration
  | [], _, known => known
  | _ :: room, here, known =>
      (step here).foldl (fun known there =>
        -- an iteration that ends where another one did leads nowhere new
        if known.reached.contains there.offset then known
        else
          let noted : Exploration := { known with reached := there.offset :: known.reached }
          let more (known : Exploration) : Exploration :=
            -- an iteration that takes up no text may only end the repetition
            if here.offset < there.offset then explore step greedy room there known else known
          let stop (known : Exploration) : Exploration :=
            { known with ends := there :: known.ends }
          if greedy then stop (more noted) else more (stop noted)) known

/-- The places behind one character of a set and more of them, the farthest
first. -/
def runEnds (set : CharSet) (done : List Cursor) (before : Option Char) (offset : Nat) :
    List Char → List Cursor
  | [] => done
  | c :: rest =>
      if set.mem c then
        let there : Cursor := (Cursor.mk before (c :: rest) offset).behind c rest
        runEnds set (there :: done) there.before there.offset rest
      else done

/-- The places where a match from `here` may end, the preferred one first. -/
def ends : Regex → Cursor → List Cursor
  | empty, here => [here]
  | char set, here =>
      match here.rest with
      | [] => []
      | c :: rest => if set.mem c then [here.behind c rest] else []
  | assertion condition, here => if condition.holds here then [here] else []
  | sequence a b, here => distinct ((ends a here).flatMap (ends b))
  | choice a b, here => distinct (ends a here ++ ends b here)
  | optional greedy body, here =>
      if greedy then distinct (ends body here ++ [here]) else distinct (here :: ends body here)
  | repeated greedy (char set), here =>
      let run := runEnds set [] here.before here.offset here.rest
      if greedy then run else run.reverse
  | repeated greedy body, here =>
      (explore (ends body) greedy (' ' :: here.rest) here {}).ends.reverse

/-- The end of the preferred match that starts at a place. -/
def attempt (r : Regex) (here : Cursor) : Option Cursor := (r.ends here).head?

/-- The spans of all matches in a text. -/
def spans (r : Regex) (text : List Char) : List Span := PluginAudit.spans r.attempt text

/-! ## Building expressions -/

def sequenceOf : List Regex → Regex
  | [] => empty
  | [r] => r
  | r :: rs => sequence r (sequenceOf rs)

/-- One of several expressions, the first preferred. -/
def choiceOf : List Regex → Regex
  | [] => empty
  | [r] => r
  | r :: rs => choice r (choiceOf rs)

/-- An expression up to `n` times. -/
def upToTimes (greedy : Bool) (body : Regex) : Nat → Regex
  | 0 => empty
  | 1 => optional greedy body
  | n + 1 => optional greedy (sequence body (upToTimes greedy body n))

/-- An expression at least `low` and at most `high` times, or without limit. -/
def times (greedy : Bool) (body : Regex) (low : Nat) (high : Option Nat) : Regex :=
  match low, high with
  | 0, none => optional greedy (repeated greedy body)
  | n + 1, none => sequenceOf (List.replicate n body ++ [repeated greedy body])
  | n, some m =>
      if m = n then sequenceOf (List.replicate n body)
      else sequenceOf (List.replicate n body ++ [upToTimes greedy body (m - n)])

def size : Regex → Nat
  | empty => 1
  | char _ => 1
  | assertion _ => 1
  | sequence a b => size a + size b
  | choice a b => size a + size b + 1
  | optional _ body => size body + 1
  | repeated _ body => size body + 1

end Regex

end PluginAudit
