import PluginAudit.Pattern.Regex
import PluginAudit.Text.Unicode.Category
import PluginAudit.SortedList

/-!
# Reading regular expressions

The written form of regular expressions: literals and escapes, classes with
nested sets and set operations, groups with names and flags, and counted
repetitions.  References to groups and conditions on what surrounds a match are
no part of it.

The reader goes through the text once and keeps the groups that are open on a
stack; every step takes at least one character.
-/

namespace PluginAudit

open PluginAudit.Text PluginAudit.Text.Unicode

namespace Regex

inductive Fault
  /-- The text ends within an escape, a group, a class or a count. -/
  | unfinished
  /-- A group is closed that is not open. -/
  | unopenedGroup
  | nothingToRepeat
  /-- A count is no number, or the counts are in the wrong order. -/
  | badCount
  | badEscape
  /-- A class item that cannot stand where it does. -/
  | badClass
  | unknownProperty
  /-- A flag that is not known, or flags that contradict each other. -/
  | badFlags
  | badGroupName
  /-- Conditions on what surrounds a match are not supported. -/
  | lookAround
  /-- The expression may match something that is no text. -/
  | notText
  | tooLarge
deriving DecidableEq

def Fault.message : Fault → String
  | .unfinished => "unexpected end of the pattern"
  | .unopenedGroup => "unopened group"
  | .nothingToRepeat => "repetition operator missing expression"
  | .badCount => "invalid repetition count range"
  | .badEscape => "unrecognized escape sequence"
  | .badClass => "invalid character class"
  | .unknownProperty => "Unicode property not found"
  | .badFlags => "unrecognized flag"
  | .badGroupName => "invalid capture group name"
  | .lookAround => "look-around is not supported"
  | .notText => "pattern can match invalid UTF-8"
  | .tooLarge => "compiled regex exceeds size limit"

/-- The flags that are set at a place of an expression. -/
structure Flags where
  foldCase : Bool := false
  /-- `^` and `$` stand for starts and ends of lines. -/
  multiLine : Bool := false
  /-- The dot stands for line feeds, too. -/
  dotAll : Bool := false
  /-- Repetitions are lazy unless marked. -/
  swapGreed : Bool := false
  unicode : Bool := true
  spaced : Bool := false
  /-- Carriage returns end lines, too. -/
  returns : Bool := false
deriving DecidableEq

/-- The flag a letter stands for, given a value. -/
def Flags.set? (flags : Flags) (value : Bool) : Char → Option Flags
  | 'i' => some { flags with foldCase := value }
  | 'm' => some { flags with multiLine := value }
  | 's' => some { flags with dotAll := value }
  | 'U' => some { flags with swapGreed := value }
  | 'u' => some { flags with unicode := value }
  | 'x' => some { flags with spaced := value }
  | 'R' => some { flags with returns := value }
  | _ => none

/-! ## White space -/

def skipSpaceAnd (inComment : Bool) : List Char → List Char
  | [] => []
  | c :: cs =>
      if inComment then skipSpaceAnd (c != '\n') cs
      else if isBlank c then skipSpaceAnd false cs
      else if c == '#' then skipSpaceAnd true cs
      else c :: cs

/-- Skip what the flags leave out. -/
def skipSpace (flags : Flags) (text : List Char) : List Char :=
  if flags.spaced then skipSpaceAnd false text else text

/-! ## Character sets -/

def digitSet (flags : Flags) : CharSet :=
  if flags.unicode then .property decimalRanges else .interval '0' '9'

def spaceSet (flags : Flags) : CharSet :=
  if flags.unicode then .property whiteSpaceRanges
  else .oneOf ['\t', '\n', '\x0b', '\x0c', '\r', ' ']

def asciiAlphanumericSet : CharSet :=
  .union (.interval 'a' 'z') (.union (.interval 'A' 'Z') (.interval '0' '9'))

def wordSet (flags : Flags) : CharSet :=
  if flags.unicode then .word else .union asciiAlphanumericSet (.oneOf ['_'])

/-- A set with the characters that equal its own up to case, if case makes no
difference. -/
def foldSet (flags : Flags) (set : CharSet) : CharSet :=
  if !flags.foldCase then set
  else if flags.unicode then .folded set
  else .asciiFolded set

def charSet (flags : Flags) (c : Char) : CharSet :=
  if !flags.foldCase then .oneOf [c]
  else if flags.unicode then .oneOf (caseVariants c)
  else .oneOf [c, CharSet.otherCase c]

def asciiClass? (name : String) : Option CharSet :=
  match name with
  | "alnum" => some asciiAlphanumericSet
  | "alpha" => some (.union (.interval 'a' 'z') (.interval 'A' 'Z'))
  | "ascii" => some (.interval (Char.ofNat 0) (Char.ofNat 0x7F))
  | "blank" => some (.oneOf [' ', '\t'])
  | "cntrl" => some (.union (.interval (Char.ofNat 0) '\x1f') (.oneOf ['\x7f']))
  | "digit" => some (.interval '0' '9')
  | "graph" => some (.interval '!' '~')
  | "lower" => some (.interval 'a' 'z')
  | "print" => some (.interval ' ' '~')
  | "punct" =>
      some (.union (.union (.interval '!' '/') (.interval ':' '@'))
        (.union (.interval '[' '\x60') (.interval '\x7b' '~')))
  | "space" => some (.oneOf ['\t', '\n', '\x0b', '\x0c', '\r', ' '])
  | "upper" => some (.interval 'A' 'Z')
  | "word" => some (.union asciiAlphanumericSet (.oneOf ['_']))
  | "xdigit" =>
      some (.union (.interval '0' '9') (.union (.interval 'A' 'F') (.interval 'a' 'f')))
  | _ => none

/-- The set of a property named as a whole or as `name=value`; `!=` negates. -/
def propertySet? (flags : Flags) (negated : Bool) (name : List Char) : Option CharSet :=
  let build (flip : Bool) (value : List Char) : Option CharSet :=
    (propertyRanges? (String.ofList value)).map fun ranges =>
      let set := foldSet flags (.property ranges)
      if flip then .complement set else set
  let isKnownKey (key : List Char) : Bool :=
    ["gc", "generalcategory", "sc", "script", "scx", "scriptextensions"].contains
      (String.ofList (looseName key))
  match upTo? ['!', '='] name with
  | some key =>
      if isKnownKey key then build (!negated) (name.drop (key.length + 2)) else none
  | none =>
      match splitOnce? ':' name with
      | some (key, value) => if isKnownKey key then build negated value else none
      | none =>
          match splitOnce? '=' name with
          | some (key, value) => if isKnownKey key then build negated value else none
          | none => build negated name

/-! ## Escapes -/

/-- What an escape or another single item stands for. -/
inductive Item
  | literal (c : Char)
  | set (set : CharSet)
  | condition (holds : Assertion)

/-- The result of reading one item: the item and what follows it. -/
abbrev Step (α : Type) := Except Fault (α × List Char)

/-- Characters with a meaning of their own. -/
def isMeta (c : Char) : Bool := "\\.+*?()|[]\x7b\x7d^$#&-~".toList.contains c

/-- Characters that stand for themselves behind a backslash. -/
def mayBeEscaped (c : Char) : Bool :=
  isMeta c || (c.toNat < 0x80 && !isAsciiAlphanumeric c && c != '<' && c != '>')

def hexValue? (c : Char) : Option Nat :=
  if isAsciiDigit c then some (c.toNat - '0'.toNat)
  else if 'a' ≤ c && c ≤ 'f' then some (c.toNat - 'a'.toNat + 10)
  else if 'A' ≤ c && c ≤ 'F' then some (c.toNat - 'A'.toNat + 10)
  else none

def charOfNumber? (n : Nat) : Option Char :=
  if n.isValidChar then some (Char.ofNat n) else none

def hexNumber? (digits : List Char) : Option Nat :=
  digits.foldl (fun n c =>
    match n, hexValue? c with
    | some n, some v => some (n * 16 + v)
    | _, _ => none) (some 0)

/-- The text of a bracketed argument and what follows it. -/
def bracketed (flags : Flags) (text : List Char) : Step (List Char) :=
  match splitOnce? '\x7d' text with
  | none => .error .unfinished
  | some (argument, rest) =>
      .ok (if flags.spaced then argument.filter fun c => !isBlank c else argument, rest)

/-- Read a hexadecimal escape behind its letter; `digits` is the number of
digits of its form without brackets. -/
def readHex (flags : Flags) (digits : Nat) (text : List Char) : Step Item :=
  let finish (number : List Char) (rest : List Char) : Step Item :=
    if number.isEmpty then .error .badEscape
    else
      match (hexNumber? number).bind charOfNumber? with
      | none => .error .badEscape
      | some c =>
          -- without Unicode these are single bytes
          if !flags.unicode && digits == 2 && c.toNat > 0x7F then .error .notText
          else .ok (.literal c, rest)
  match skipSpace flags text with
  | [] => .error .unfinished
  | '\x7b' :: rest =>
      match bracketed flags rest with
      | .error fault => .error fault
      | .ok (number, rest) => finish number rest
  | rest =>
      if rest.length < digits then .error .unfinished
      else finish (rest.take digits) (rest.drop digits)

def readProperty (flags : Flags) (negated : Bool) (text : List Char) : Step Item :=
  let finish (name : List Char) (rest : List Char) : Step Item :=
    if !flags.unicode then .error .notText
    else
      match propertySet? flags negated name with
      | some set => .ok (.set set, rest)
      | none => .error .unknownProperty
  match skipSpace flags text with
  | [] => .error .unfinished
  | '\x7b' :: rest =>
      match bracketed flags rest with
      | .error fault => .error fault
      | .ok (name, rest) => finish name rest
  | c :: rest => if c == '\\' then .error .badEscape else finish [c] rest

/-- The set of a letter escape, negated for a capital letter. -/
def letterSet (flags : Flags) (negated : Bool) (set : CharSet) (rest : List Char) : Step Item :=
  if negated && !flags.unicode then .error .notText
  else .ok (.set (if negated then .complement set else set), rest)

/-- The letters of the names of word conditions. -/
def isConditionLetter (c : Char) : Bool := isAsciiLetter c || c == '-'

/-- Read what follows an escaped `b`: a named word condition in brackets, or
nothing that belongs to it. -/
def readBoundary (flags : Flags) (text : List Char) : Step Item :=
  let letters := wordSet flags
  let plain : Step Item := .ok (.condition (.boundary letters), text)
  match text with
  | '\x7b' :: rest =>
      match skipSpace flags rest with
      | [] => .error .unfinished
      | c :: cs =>
          if !isConditionLetter c then plain
          else
            let name := (c :: cs).takeWhile isConditionLetter
            match (c :: cs).drop name.length with
            | '\x7d' :: rest =>
                match String.ofList name with
                | "start" => .ok (.condition (.wordStart letters), rest)
                | "end" => .ok (.condition (.wordEnd letters), rest)
                | "start-half" => .ok (.condition (.wordStartHalf letters), rest)
                | "end-half" => .ok (.condition (.wordEndHalf letters), rest)
                | _ => .error .badEscape
            | _ => .error .unfinished
  | _ => plain

def readEscape (flags : Flags) : List Char → Step Item
  | [] => .error .unfinished
  | c :: rest =>
      if isAsciiDigit c then .error .badEscape
      else if mayBeEscaped c then .ok (.literal c, rest)
      else
        match c with
        | 'x' => readHex flags 2 rest
        | 'u' => readHex flags 4 rest
        | 'U' => readHex flags 8 rest
        | 'p' => readProperty flags false rest
        | 'P' => readProperty flags true rest
        | 'd' => letterSet flags false (digitSet flags) rest
        | 'D' => letterSet flags true (digitSet flags) rest
        | 's' => letterSet flags false (spaceSet flags) rest
        | 'S' => letterSet flags true (spaceSet flags) rest
        | 'w' => letterSet flags false (wordSet flags) rest
        | 'W' => letterSet flags true (wordSet flags) rest
        | 'a' => .ok (.literal '\x07', rest)
        | 'f' => .ok (.literal '\x0c', rest)
        | 't' => .ok (.literal '\t', rest)
        | 'n' => .ok (.literal '\n', rest)
        | 'r' => .ok (.literal '\r', rest)
        | 'v' => .ok (.literal '\x0b', rest)
        | 'A' => .ok (.condition .textStart, rest)
        | 'z' => .ok (.condition .textEnd, rest)
        | 'b' => readBoundary flags rest
        | 'B' => .ok (.condition (.noBoundary (wordSet flags)), rest)
        | '<' => .ok (.condition (.wordStart (wordSet flags)), rest)
        | '>' => .ok (.condition (.wordEnd (wordSet flags)), rest)
        | _ => .error .badEscape

/-! ## Classes -/

inductive SetOperation
  | intersection
  | difference
  | symmetricDifference

def SetOperation.apply (a b : CharSet) : SetOperation → CharSet
  | .intersection => .both a b
  | .difference => a.difference b
  | .symmetricDifference => a.symmetricDifference b

def SetOperation.ofSign? : Char → Option SetOperation
  | '&' => some .intersection
  | '-' => some .difference
  | '~' => some .symmetricDifference
  | _ => none

structure OpenClass where
  negated : Bool
  /-- The operand and the operation read before, if there is one. -/
  pending : Option (CharSet × SetOperation) := none
  items : CharSet := .empty

namespace OpenClass

def add (open' : OpenClass) (set : CharSet) : OpenClass :=
  { open' with items := .union open'.items set }

/-- The set of what was read so far. -/
def operand (flags : Flags) (open' : OpenClass) : CharSet :=
  match open'.pending with
  | none => open'.items
  | some (left, operation) => operation.apply (foldSet flags left) (foldSet flags open'.items)

def operate (flags : Flags) (operation : SetOperation) (open' : OpenClass) : OpenClass :=
  { open' with pending := some (open'.operand flags, operation), items := .empty }

/-- The set of a class that is closed. -/
def close (flags : Flags) (open' : OpenClass) : CharSet :=
  let set := foldSet flags (open'.operand flags)
  if open'.negated then .complement set else set

end OpenClass

/-- Read the start of a class behind its bracket: a negation, dashes, and a
closing bracket, which at this place is a literal. -/
def readClassStart (flags : Flags) (text : List Char) : Step OpenClass :=
  let text := skipSpace flags text
  let (negated, text) :=
    match text with
    | '^' :: rest => (true, skipSpace flags rest)
    | _ => (false, text)
  let unspaced := if flags.spaced then skipSpaceAnd false text else text
  let dashes := unspaced.takeWhile (· == '-')
  let rest := skipSpace flags (unspaced.drop dashes.length)
  let started : OpenClass := ⟨negated, none, if dashes.isEmpty then .empty else .oneOf ['-']⟩
  match rest with
  | [] => .error .unfinished
  | ']' :: rest' =>
      if dashes.isEmpty then .ok (started.add (.oneOf [']']), skipSpace flags rest')
      else .ok (started, rest)
  | _ => .ok (started, rest)

/-- Read a named ASCII class behind its bracket, if there is one. -/
def readNamedClass? (flags : Flags) : List Char → Option (CharSet × List Char)
  | ':' :: rest =>
      let (negated, rest) :=
        match rest with
        | '^' :: rest => (true, rest)
        | _ => (false, rest)
      let name := rest.takeWhile (· != ':')
      match rest.drop name.length with
      | ':' :: ']' :: rest =>
          (asciiClass? (String.ofList name)).map fun set =>
            let set := foldSet flags set
            (if negated then .complement set else set, rest)
      | _ => none
  | _ => none

def readClassItem (flags : Flags) : List Char → Step Item
  | [] => .error .unfinished
  | '\\' :: rest =>
      match readEscape flags rest with
      | .ok (.condition _, _) => .error .badClass
      | result => result
  | c :: rest => .ok (.literal c, rest)

/-- The set of an item of a class. -/
def Item.toSet : Item → CharSet
  | .literal c => .oneOf [c]
  | .set chars => chars
  | .condition _ => .empty

/-- Whether the dash at the start of a text stands between the bounds of a
range. -/
def isRangeDash (flags : Flags) : List Char → Bool
  | '-' :: rest =>
      match skipSpace flags rest with
      | ']' :: _ => false
      | '-' :: _ => false
      | _ => true
  | _ => false

/-- Read an item of a class or a range of characters. -/
def readClassRange (flags : Flags) (text : List Char) : Step CharSet :=
  match readClassItem flags text with
  | .error fault => .error fault
  | .ok (first, rest) =>
      let rest := skipSpace flags rest
      if rest.isEmpty then .error .unfinished
      else if isRangeDash flags rest then
        match readClassItem flags (skipSpace flags (rest.drop 1)) with
        | .error fault => .error fault
        | .ok (last, rest) =>
            match first, last with
            | .literal low, .literal high =>
                if low ≤ high then .ok (.interval low high, rest) else .error .badClass
            | _, _ => .error .badClass
      else .ok (first.toSet, rest)

/-- Read the rest of a class.  `outer` holds the classes around the one that is
being read, and `room` bounds the number of steps. -/
def readClassBody (flags : Flags) :
    (room : Nat) → OpenClass → (outer : List OpenClass) → List Char → Step CharSet
  | 0, _, _, _ => .error .unfinished
  | room + 1, here, outer, text =>
      let next (here : OpenClass) (outer : List OpenClass) (text : List Char) : Step CharSet :=
        readClassBody flags room here outer text
      match skipSpace flags text with
      | [] => .error .unfinished
      | '[' :: rest =>
          match readNamedClass? flags rest with
          | some (set, rest) => next (here.add set) outer rest
          | none =>
              match readClassStart flags rest with
              | .error fault => .error fault
              | .ok (inner, rest) => next inner (here :: outer) rest
      | ']' :: rest =>
          match outer with
          | [] => .ok (here.close flags, rest)
          | around :: outer => next (around.add (here.close flags)) outer rest
      | c :: rest =>
          let operation :=
            -- operations are written with a doubled sign
            if rest.head? == some c then SetOperation.ofSign? c else none
          match operation with
          | some operation => next (here.operate flags operation) outer (rest.drop 1)
          | none =>
              match readClassRange flags (c :: rest) with
              | .error fault => .error fault
              | .ok (set, rest) => next (here.add set) outer rest

def readClass (flags : Flags) (text : List Char) : Step CharSet :=
  match readClassStart flags text with
  | .error fault => .error fault
  | .ok (started, rest) =>
      if started.negated && !flags.unicode then .error .notText
      else readClassBody flags (text.length + 1) started [] rest

/-! ## Repetitions -/

/-- Read a decimal number between optional spaces; `none` if there is no
digit. -/
def readCount (flags : Flags) (text : List Char) : Step (Option Nat) :=
  let text := text.dropWhile isBlank
  let digits := text.takeWhile isAsciiDigit
  let rest := (skipSpace flags (text.drop digits.length)).dropWhile isBlank
  if digits.isEmpty then .ok (none, rest)
  else
    let n := digits.foldl (fun n c => n * 10 + (c.toNat - '0'.toNat)) 0
    if n < Nat.pow 2 32 then .ok (some n, rest) else .error .badCount

/-- Read the counts of a repetition behind the opening bracket, up to the
closing one. -/
def readCounts (flags : Flags) (text : List Char) : Step (Nat × Option Nat) :=
  let close (low : Nat) (high : Option Nat) : List Char → Step (Nat × Option Nat)
    | '\x7d' :: rest =>
        if high.all (low ≤ ·) then .ok ((low, high), rest) else .error .badCount
    | _ => .error .unfinished
  let text := skipSpace flags text
  if text.isEmpty then .error .unfinished
  else
    match readCount flags text with
    | .error fault => .error fault
    | .ok (_, []) => .error .unfinished
    | .ok (low, ',' :: rest) =>
        match low, skipSpace flags rest with
        | _, [] => .error .unfinished
        | none, _ => .error .badCount
        | some low, '\x7d' :: rest => close low none ('\x7d' :: rest)
        | some low, rest =>
            match readCount flags rest with
            | .error fault => .error fault
            | .ok (none, _) => .error .badCount
            | .ok (some high, rest) => close low (some high) rest
    | .ok (none, _) => .error .badCount
    | .ok (some n, rest) => close n (some n) rest

/-! ## Groups -/

/-- The parts read in one alternative: expressions, or places where only flags
were set, in reverse. -/
abbrev Parts := List (Option Regex)

structure OpenGroup where
  /-- The alternatives that are complete, in reverse. -/
  done : List Regex := []
  parts : Parts := []
  outerFlags : Flags := {}

namespace OpenGroup

def add (group : OpenGroup) (r : Regex) : OpenGroup :=
  { group with parts := some r :: group.parts }

def alternative (group : OpenGroup) : Regex := sequenceOf (group.parts.reverse.filterMap id)

def another (group : OpenGroup) : OpenGroup :=
  { group with done := group.alternative :: group.done, parts := [] }

def close (group : OpenGroup) : Regex := choiceOf (group.alternative :: group.done).reverse

def repeatLast? (group : OpenGroup) (build : Regex → Regex) : Option OpenGroup :=
  match group.parts with
  | some r :: parts => some { group with parts := some (build r) :: parts }
  | _ => none

end OpenGroup

def isNameChar (isFirst : Bool) (c : Char) : Bool :=
  if isFirst then c == '_' || isAlphabetic c
  else c == '_' || c == '.' || c == '[' || c == ']' || isAlphanumeric c

/-- Whether a text can be a group name. -/
def isGroupName : List Char → Bool
  | [] => false
  | c :: cs => isNameChar true c && cs.all (isNameChar false)

/-- Read flags up to the sign behind them.  `seen` holds the signs read so
far. -/
def readFlags (flags : Flags) (value : Bool) (seen : List Char) : List Char → Step Flags
  | [] => .error .unfinished
  | c :: rest =>
      if c == ':' || c == ')' then
        if seen.head? == some '-' then .error .badFlags else .ok (flags, c :: rest)
      else if seen.contains c then .error .badFlags
      else if c == '-' then readFlags flags false (c :: seen) rest
      else
        match flags.set? value c with
        | some flags => readFlags flags value (c :: seen) rest
        | none => .error .badFlags

inductive GroupStart
  | group (flags : Flags)
  | named (name : List Char)
  /-- No group: flags for what follows. -/
  | flags (flags : Flags)

/-- Read the start of a group behind its parenthesis. -/
def readGroupStart (flags : Flags) (text : List Char) : Step GroupStart :=
  let readName (rest : List Char) : Step GroupStart :=
    match splitOnce? '>' rest with
    | none => .error .unfinished
    | some (name, rest) =>
        if isGroupName name then .ok (.named name, rest) else .error .badGroupName
  match skipSpace flags text with
  | '?' :: '=' :: _ => .error .lookAround
  | '?' :: '!' :: _ => .error .lookAround
  | '?' :: '<' :: '=' :: _ => .error .lookAround
  | '?' :: '<' :: '!' :: _ => .error .lookAround
  | '?' :: 'P' :: '<' :: rest => readName rest
  | '?' :: '<' :: rest => readName rest
  | '?' :: rest =>
      match readFlags flags true [] rest with
      | .error fault => .error fault
      | .ok (changed, ')' :: behind) =>
          if rest.head? == some ')' then .error .nothingToRepeat
          else .ok (.flags changed, behind)
      | .ok (changed, behind) => .ok (.group changed, behind.drop 1)
  | rest => .ok (.group flags, rest)

/-! ## The reader -/

/-- What is known while an expression is read. -/
structure Reading where
  flags : Flags := {}
  here : OpenGroup := {}
  outer : List OpenGroup := []
  names : List (List Char) := []

def dotSet (flags : Flags) : CharSet :=
  if flags.dotAll then .complement .empty
  else if flags.returns then .complement (.oneOf ['\r', '\n'])
  else .complement (.oneOf ['\n'])

def Item.toRegex (flags : Flags) : Item → Regex
  | .literal c => .char (charSet flags c)
  | .set chars => .char chars
  | .condition holds => .assertion holds

/-- Read the mark behind a repetition sign that turns its greed around. -/
def readGreed (flags : Flags) : List Char → Bool × List Char
  | '?' :: rest => (flags.swapGreed, rest)
  | rest => (!flags.swapGreed, rest)

def maximalSize : Nat := 320000

/-- Whether an expression can be repeated so often. -/
def mayRepeat (r : Regex) (low : Nat) (high : Option Nat) : Bool :=
  r.size * (low + high.getD 0) ≤ maximalSize

namespace Reading

def add (s : Reading) (r : Regex) : Reading := { s with here := s.here.add r }

def repeatLast (s : Reading) (low : Nat) (high : Option Nat) (text : List Char) :
    Step Reading :=
  let (greedy, rest) := readGreed s.flags text
  let allowed := s.here.parts.head?.all fun part =>
    part.all fun r => mayRepeat r low high
  if !allowed then .error .tooLarge
  else
    match s.here.repeatLast? fun r => r.times greedy low high with
    | some here => .ok ({ s with here }, rest)
    | none => .error .nothingToRepeat

def repeatOnceOrMore (s : Reading) (text : List Char) : Step Reading :=
  let (greedy, rest) := readGreed s.flags text
  match s.here.repeatLast? (.repeated greedy) with
  | some here => .ok ({ s with here }, rest)
  | none => .error .nothingToRepeat

def openGroup (s : Reading) (flags : Flags) : Reading :=
  { s with flags, here := { outerFlags := s.flags }, outer := s.here :: s.outer }

/-- Read one part of an expression from a non-empty text. -/
def step (s : Reading) (c : Char) (rest : List Char) : Step Reading :=
  match c with
  | '(' =>
      match readGroupStart s.flags rest with
      | .error fault => .error fault
      | .ok (.group flags, rest) => .ok (s.openGroup flags, rest)
      | .ok (.named name, rest) =>
          if s.names.contains name then .error .badGroupName
          else .ok ({ s.openGroup s.flags with names := name :: s.names }, rest)
      | .ok (.flags flags, rest) =>
          .ok ({ s with flags, here := { s.here with parts := none :: s.here.parts } }, rest)
  | ')' =>
      match s.outer with
      | [] => .error .unopenedGroup
      | around :: outer =>
          .ok ({ s with flags := s.here.outerFlags, here := around.add s.here.close, outer }, rest)
  | '|' => .ok ({ s with here := s.here.another }, rest)
  | '[' =>
      match readClass s.flags rest with
      | .error fault => .error fault
      | .ok (set, rest) => .ok (s.add (.char set), rest)
  | '?' => s.repeatLast 0 (some 1) rest
  | '*' => s.repeatLast 0 none rest
  | '+' => s.repeatOnceOrMore rest
  | '\x7b' =>
      if s.here.parts.head?.isNone || s.here.parts.head? matches some none then
        .error .nothingToRepeat
      else
        match readCounts s.flags rest with
        | .error fault => .error fault
        | .ok ((low, high), rest) => s.repeatLast low high (skipSpace s.flags rest)
  | '\\' =>
      match readEscape s.flags rest with
      | .error fault => .error fault
      | .ok (item, rest) => .ok (s.add (item.toRegex s.flags), rest)
  | '.' =>
      if s.flags.unicode then .ok (s.add (.char (dotSet s.flags)), rest) else .error .notText
  | '^' =>
      .ok (s.add (.assertion
        (if s.flags.multiLine then .lineStart s.flags.returns else .textStart)), rest)
  | '$' =>
      .ok (s.add (.assertion
        (if s.flags.multiLine then .lineEnd s.flags.returns else .textEnd)), rest)
  | c => .ok (s.add (.char (charSet s.flags c)), rest)

/-- Read the parts of an expression; `room` bounds their number. -/
def run : (room : Nat) → Reading → List Char → Except Fault Regex
  | 0, _, _ => .error .tooLarge
  | room + 1, s, text =>
      match skipSpace s.flags text with
      | [] => if s.outer.isEmpty then .ok s.here.close else .error .unfinished
      | c :: rest =>
          match s.step c rest with
          | .error fault => .error fault
          | .ok (s, rest) => run room s rest

end Reading

def read (text : List Char) : Except Fault Regex :=
  match Reading.run (text.length + 1) {} text with
  | .error fault => .error fault
  | .ok r => if r.size ≤ maximalSize then .ok r else .error .tooLarge

end Regex

end PluginAudit
