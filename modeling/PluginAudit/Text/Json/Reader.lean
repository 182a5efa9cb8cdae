import PluginAudit.Text.Json

/-!
# Reading JSON

The text is first cut into tokens; the values are then put together with a
stack of the containers that are open.
-/

namespace PluginAudit.Text.Json

inductive Token
  | openList
  | closeList
  | openObject
  | closeObject
  | comma
  | colon
  /-- A text, unless it is unusable. -/
  | text (value : Option String)
  /-- Any other value without parts. -/
  | atom (value : Json)

def isSpace (c : Char) : Bool := c == ' ' || c == '\t' || c == '\n' || c == '\r'

def hexDigit? (c : Char) : Option Nat :=
  if isAsciiDigit c then some (c.toNat - '0'.toNat)
  else if 'a' ≤ c && c ≤ 'f' then some (c.toNat - 'a'.toNat + 10)
  else if 'A' ≤ c && c ≤ 'F' then some (c.toNat - 'A'.toNat + 10)
  else none

def fourDigits? (a b c d : Char) : Option Nat := do
  let a ← hexDigit? a
  let b ← hexDigit? b
  let c ← hexDigit? c
  let d ← hexDigit? d
  return ((a * 16 + b) * 16 + c) * 16 + d

def simpleEscape? : Char → Option Char
  | '"' => some '"'
  | '\\' => some '\\'
  | '/' => some '/'
  | 'b' => some '\x08'
  | 'f' => some '\x0c'
  | 'n' => some '\n'
  | 'r' => some '\r'
  | 't' => some '\t'
  | _ => none

/-- Read a text behind its opening quote.  The units are code points, or halves
of a surrogate pair, in reverse. -/
def readUnits (units : List Nat) : List Char → Option (List Nat × List Char)
  | [] => none
  | '"' :: rest => some (units, rest)
  | '\\' :: 'u' :: a :: b :: c :: d :: rest =>
      match fourDigits? a b c d with
      | some n => readUnits (n :: units) rest
      | none => none
  | '\\' :: c :: rest =>
      match simpleEscape? c with
      | some e => readUnits (e.toNat :: units) rest
      | none => none
  | c :: rest => if c.toNat < 0x20 then none else readUnits (c.toNat :: units) rest

def isHighHalf (n : Nat) : Bool := 0xD800 ≤ n && n ≤ 0xDBFF

def isLowHalf (n : Nat) : Bool := 0xDC00 ≤ n && n ≤ 0xDFFF

/-- The characters of units, unless a half stands alone. -/
def charsOfUnits? : List Nat → Option (List Char)
  | [] => some []
  | [n] => if isHighHalf n || isLowHalf n then none else some [Char.ofNat n]
  | n :: m :: rest =>
      if isHighHalf n then
        if isLowHalf m then
          (charsOfUnits? rest).map
            (Char.ofNat (0x10000 + (n - 0xD800) * 0x400 + (m - 0xDC00)) :: ·)
        else none
      else if isLowHalf n then none
      else (charsOfUnits? (m :: rest)).map (Char.ofNat n :: ·)

def maximalInteger : Nat := Nat.pow 2 64

/-- The value of an integer with a sign. -/
def integerValue (negative : Bool) (digits : List Char) : Json :=
  let n := digits.foldl (fun n c => n * 10 + (c.toNat - '0'.toNat)) 0
  if negative then
    -- minus zero and integers out of range are no integers
    if n == 0 || n > Nat.pow 2 63 then .unusable else .number (-(n : Int))
  else if n < maximalInteger then .number n
  else .unusable

/-- The exponent of a number, if it has a well-formed one or none at all. -/
def readExponent? : List Char → Option (Bool × List Char)
  | c :: rest =>
      if c == 'e' || c == 'E' then
        let behindSign :=
          match rest with
          | '+' :: r => r
          | '-' :: r => r
          | r => r
        let digits := behindSign.takeWhile isAsciiDigit
        if digits.isEmpty then none else some (true, behindSign.drop digits.length)
      else some (false, c :: rest)
  | [] => some (false, [])

def readNumber? (source : List Char) : Option (Json × List Char) :=
  let (negative, unsigned) :=
    match source with
    | '-' :: rest => (true, rest)
    | _ => (false, source)
  let digits := unsigned.takeWhile isAsciiDigit
  let behind := unsigned.drop digits.length
  if digits.isEmpty || (digits.length > 1 && digits.head? == some '0') then none
  else
    let (hasFraction, fraction, behindFraction) :=
      match behind with
      | '.' :: rest =>
          let f := rest.takeWhile isAsciiDigit
          (true, f, rest.drop f.length)
      | _ => (false, [], behind)
    if hasFraction && fraction.isEmpty then none
    else
      (readExponent? behindFraction).map fun (hasExponent, rest) =>
        (if hasFraction || hasExponent then .unusable else integerValue negative digits, rest)

/-- Read one token from a text that does not start with space. -/
def readToken? : List Char → Option (Token × List Char)
  | [] => none
  | '[' :: rest => some (.openList, rest)
  | ']' :: rest => some (.closeList, rest)
  | '\x7b' :: rest => some (.openObject, rest)
  | '\x7d' :: rest => some (.closeObject, rest)
  | ',' :: rest => some (.comma, rest)
  | ':' :: rest => some (.colon, rest)
  | '"' :: rest =>
      (readUnits [] rest).map fun (units, rest) =>
        (.text ((charsOfUnits? units.reverse).map String.ofList), rest)
  | 'n' :: 'u' :: 'l' :: 'l' :: rest => some (.atom .null, rest)
  | 't' :: 'r' :: 'u' :: 'e' :: rest => some (.atom (.bool true), rest)
  | 'f' :: 'a' :: 'l' :: 's' :: 'e' :: rest => some (.atom (.bool false), rest)
  | source => (readNumber? source).map fun (value, rest) => (.atom value, rest)

/-- The tokens of a text; `room` bounds their number. -/
def tokensWithin? : (room : Nat) → List Char → Option (List Token)
  | 0, source => if (source.dropWhile isSpace).isEmpty then some [] else none
  | room + 1, source =>
      let source := source.dropWhile isSpace
      if source.isEmpty then some []
      else
        match readToken? source with
        | none => none
        | some (token, rest) => (tokensWithin? room rest).map (token :: ·)

def tokens? (source : List Char) : Option (List Token) := tokensWithin? source.length source

inductive Frame
  /-- A list and its items so far, in reverse. -/
  | inList (items : List Json)
  /-- An object, its members so far, in reverse, and the name of the member
  that is being read; the flag tells that a name was unusable. -/
  | inObject (members : List (String × Json)) (name : String) (spoiled : Bool)

inductive Expected
  | value
  /-- A value or the end of the list that was just opened. -/
  | itemOrEnd
  | name
  /-- The name of a member or the end of the object that was just opened. -/
  | nameOrEnd
  /-- A comma or the end of the innermost container. -/
  | separator

/-- The object of the members that were read. -/
def closedObject (members : List (String × Json)) (spoiled : Bool) : Json :=
  if spoiled then .unusable else .object members.reverse

/-- Put values together from tokens.  `done` is the value that was just
completed, if what comes next is a separator. -/
def assemble : List Frame → Expected → (done : Json) → List Token → Option Json
  | [], .separator, done, [] => some done
  | _, _, _, [] => none
  | frames, expected, done, token :: rest =>
      let value : Option Json :=
        match token with
        | .text t => some ((t.map Json.text).getD .unusable)
        | .atom a => some a
        | _ => none
      let start : Option Json :=
        match token with
        | .openList => assemble (.inList [] :: frames) .itemOrEnd .null rest
        | .openObject => assemble (.inObject [] "" false :: frames) .nameOrEnd .null rest
        | _ =>
            match value with
            | some v => assemble frames .separator v rest
            | none => none
      let named (members : List (String × Json)) (spoiled : Bool) (frames : List Frame) :
          Option Json :=
        match token, rest with
        | .text t, .colon :: rest' =>
            assemble (.inObject members (t.getD "") (spoiled || t.isNone) :: frames) .value .null
              rest'
        | _, _ => none
      match expected, frames, token with
      | .value, _, _ => start
      | .itemOrEnd, .inList items :: outer, .closeList =>
          assemble outer .separator (.list items.reverse) rest
      | .itemOrEnd, _, _ => start
      | .name, .inObject members _ spoiled :: outer, _ => named members spoiled outer
      | .name, _, _ => none
      | .nameOrEnd, .inObject members _ spoiled :: outer, .closeObject =>
          assemble outer .separator (closedObject members spoiled) rest
      | .nameOrEnd, .inObject members _ spoiled :: outer, _ => named members spoiled outer
      | .nameOrEnd, _, _ => none
      | .separator, .inList items :: outer, .comma =>
          assemble (.inList (done :: items) :: outer) .value .null rest
      | .separator, .inList items :: outer, .closeList =>
          assemble outer .separator (.list (done :: items).reverse) rest
      | .separator, .inObject members name spoiled :: outer, .comma =>
          assemble (.inObject ((name, done) :: members) "" spoiled :: outer) .name .null rest
      | .separator, .inObject members name spoiled :: outer, .closeObject =>
          assemble outer .separator (closedObject ((name, done) :: members) spoiled) rest
      | .separator, _, _ => none

def parse? (source : String) : Option Json :=
  (tokens? source.toList).bind fun tokens => assemble [] .value .null tokens

end PluginAudit.Text.Json
