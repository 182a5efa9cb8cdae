import PluginAudit.Pattern.Span

/-!
# Searching for many words at once

An automaton that goes through a text once and reports every occurrence of every
word of a list, those that overlap too.  Its states are the texts that some word
begins with: it is in the longest one that the text read so far ends with.
-/

namespace PluginAudit

/-- A word that occurs in a text, by its place in the list of words. -/
structure Occurrence where
  word : Nat
  span : Span
deriving DecidableEq, Inhabited

structure Automaton where
  words : List (List Char)
deriving DecidableEq, Inhabited

namespace Automaton

def ofTexts (texts : List String) : Automaton := ⟨texts.map String.toList⟩

/-- Whether a word begins with a text. -/
def isState (a : Automaton) (text : List Char) : Bool := a.words.any text.isPrefixOf

/-- The longest state that a text ends with. -/
def longestState (a : Automaton) : List Char → List Char
  | [] => []
  | c :: cs => if a.isState (c :: cs) then c :: cs else a.longestState cs

/-- The state behind one more character. -/
def advance (a : Automaton) (state : List Char) (c : Char) : List Char :=
  a.longestState (state ++ [c])

/-- The places of a text in the list of words. -/
def numbers (a : Automaton) (text : List Char) : List Nat :=
  (List.range a.words.length).filter fun n => a.words[n]? == some text

/-- The words that a state ends with, which end at `stop`; the longest first. -/
def reports (a : Automaton) (stop : Nat) : List Char → List Occurrence
  | [] => (a.numbers []).map fun n => ⟨n, stop, stop⟩
  | c :: cs =>
      ((a.numbers (c :: cs)).map fun n => ⟨n, stop - textSize (c :: cs), stop⟩) ++
        a.reports stop cs

/-- The occurrences that end at `offset` or behind it, from a state on. -/
def scan (a : Automaton) (state : List Char) (offset : Nat) : List Char → List Occurrence
  | [] => a.reports offset state
  | c :: rest =>
      a.reports offset state ++ a.scan (a.advance state c) (offset + c.utf8Size) rest

/-- The occurrences in a text in the order they end in. -/
def occurrences (a : Automaton) (text : List Char) : List Occurrence := a.scan [] 0 text

end Automaton

end PluginAudit
