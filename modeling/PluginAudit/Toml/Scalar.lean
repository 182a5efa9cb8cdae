import PluginAudit.Text.Slicing
import PluginAudit.Toml

/-!
# Numbers, dates and texts in documents

Readers for the values without parts.  Each takes the text from the start of the
value on and gives the value and what follows it.
-/

namespace PluginAudit.Toml

open PluginAudit.Text

/-- The result of reading one thing: the thing and what follows it. -/
abbrev Reading (α : Type) : Type := Option (α × List Char)

/-! ## Digits -/

def isDigitOf (base : Nat) (c : Char) : Bool :=
  if base == 16 then isAsciiDigit c || ('a' ≤ c && c ≤ 'f') || ('A' ≤ c && c ≤ 'F')
  else isAsciiDigit c && c.toNat < '0'.toNat + base

def digitValue (c : Char) : Nat :=
  if isAsciiDigit c then c.toNat - '0'.toNat
  else if 'a' ≤ c && c ≤ 'f' then c.toNat - 'a'.toNat + 10
  else c.toNat - 'A'.toNat + 10

def numberOf (base : Nat) (digits : List Char) : Nat :=
  digits.foldl (fun n c => n * base + digitValue c) 0

def readDigits (base : Nat) : (done : List Char) → List Char → Reading (List Char)
  | done, '_' :: c :: rest =>
      if isDigitOf base c && !done.isEmpty then readDigits base (c :: done) rest else none
  | done, c :: rest =>
      if isDigitOf base c then readDigits base (c :: done) rest
      else if c == '_' || done.isEmpty then none
      else some (done.reverse, c :: rest)
  | done, [] => if done.isEmpty then none else some (done.reverse, [])

/-- Read exactly `n` decimal digits. -/
def readExactly (n : Nat) (source : List Char) : Reading Nat :=
  let digits := source.take n
  if digits.length == n && digits.all isAsciiDigit then some (numberOf 10 digits, source.drop n)
  else none

/-- Read exactly `n` decimal digits that stand for a number between bounds. -/
def readBetween (n low high : Nat) (source : List Char) : Reading Nat :=
  match readExactly n source with
  | some (value, rest) => if low ≤ value && value ≤ high then some (value, rest) else none
  | none => none

/-! ## Dates -/

def daysOf (year month : Nat) : Nat :=
  if month == 2 then
    if year % 4 == 0 && (year % 100 != 0 || year % 400 == 0) then 29 else 28
  else if month == 4 || month == 6 || month == 9 || month == 11 then 30
  else 31

/-- The rest of a text behind a date, if it starts with one. -/
def afterDate? (source : List Char) : Option (List Char) := do
  let (year, rest) ← readExactly 4 source
  let rest ← after? ['-'] rest
  let (month, rest) ← readBetween 2 1 12 rest
  let rest ← after? ['-'] rest
  let (_, rest) ← readBetween 2 1 (daysOf year month) rest
  return rest

/-- The rest of a text behind the fraction of a second, if there is one. -/
def afterFraction? : List Char → Option (List Char)
  | '.' :: rest =>
      if rest.head?.any isAsciiDigit then some (rest.dropWhile isAsciiDigit) else none
  | rest => some rest

/-- The rest of a text behind a time, if it starts with one. -/
def afterTime? (source : List Char) : Option (List Char) := do
  let (_, rest) ← readBetween 2 0 23 source
  let rest ← after? [':'] rest
  let (_, rest) ← readBetween 2 0 59 rest
  let rest ← after? [':'] rest
  let (_, rest) ← readBetween 2 0 60 rest
  afterFraction? rest

/-- The rest of a text behind the offset of a time, if there is one. -/
def afterOffset? : List Char → Option (List Char)
  | 'Z' :: rest => some rest
  | 'z' :: rest => some rest
  | c :: rest =>
      if c == '+' || c == '-' then do
        let (_, rest) ← readBetween 2 0 23 rest
        let rest ← after? [':'] rest
        let (_, rest) ← readBetween 2 0 59 rest
        return rest
      else some (c :: rest)
  | [] => some []

/-- Whether a text starts like a date: four digits and a dash. -/
def startsDate (source : List Char) : Bool :=
  (readExactly 4 source).any fun (_, rest) => rest.head? == some '-'

/-- Whether a text starts like a time: an hour and a colon. -/
def startsTime (source : List Char) : Bool :=
  (readBetween 2 0 23 source).any fun (_, rest) => rest.head? == some ':'

/-- The rest of a text behind a date, a time, or both. -/
def afterDateTime? (source : List Char) : Option (List Char) :=
  if startsTime source then afterTime? source
  else
    match afterDate? source with
    | none => none
    | some [] => some []
    | some (c :: rest) =>
        if (c == 'T' || c == 't' || c == ' ') && startsTime rest then
          (afterTime? rest).bind afterOffset?
        else some (c :: rest)

/-! ## Numbers -/

/-- A sign and what follows it. -/
def splitSign : List Char → Bool × List Char
  | '+' :: rest => (false, rest)
  | '-' :: rest => (true, rest)
  | rest => (false, rest)

/-- Read a decimal number without sign: no zero stands in front of a digit. -/
def readDecimal : List Char → Reading (List Char)
  | '0' :: rest => some (['0'], rest)
  | source => readDigits 10 [] source

/-- The integer of a sign and a number, if it has at most 64 bits. -/
def integerOf? (negative : Bool) (n : Nat) : Option Toml :=
  if negative then if n ≤ Nat.pow 2 63 then some (.integer (-(n : Int))) else none
  else if n < Nat.pow 2 63 then some (.integer n) else none

/-- Read an integer with the sign of its base behind the zero. -/
def readInBase (base : Nat) (source : List Char) : Option (Toml × List Char) := do
  let (digits, rest) ← readDigits base [] source
  return (← integerOf? false (numberOf base digits), rest)

/-- Read the fraction and the exponent of a number: their digits behind the
point, the exponent, and what follows.  The flag tells that there is either. -/
def readFraction (source : List Char) : Option (Bool × List Char × Int × List Char) := do
  let (hasPoint, fraction, rest) ←
    match source with
    | '.' :: rest => do
        let (digits, rest) ← readDigits 10 [] rest
        pure (true, digits, rest)
    | rest => pure (false, [], rest)
  match rest with
  | c :: behind =>
      if c == 'e' || c == 'E' then do
        let (negative, behind) := splitSign behind
        let (digits, rest) ← readDigits 10 [] behind
        let n : Int := numberOf 10 digits
        return (true, fraction, if negative then -n else n, rest)
      else return (hasPoint, fraction, 0, rest)
  | [] => return (hasPoint, fraction, 0, [])

/-- Whether a number without sign is too large for a floating-point number of 64
bits: it is not below the middle between the largest one and the next power of
two. -/
def overflows (whole fraction : List Char) (exponent : Int) : Bool :=
  let n := numberOf 10 (whole ++ fraction)
  let power := exponent - fraction.length
  let limit := Nat.pow 2 1024 - Nat.pow 2 970
  if n == 0 then false
  else if power ≥ 400 then true
  else if power ≥ 0 then n * Nat.pow 10 power.toNat ≥ limit
  else if (-power).toNat > (whole ++ fraction).length + 400 then false
  else n ≥ limit * Nat.pow 10 (-power).toNat

def readNumber (source : List Char) : Option (Toml × List Char) :=
  let (negative, unsigned) := splitSign source
  match after? ['i', 'n', 'f'] unsigned, after? ['n', 'a', 'n'] unsigned with
  | some rest, _ => some (.scalar, rest)
  | none, some rest => some (.scalar, rest)
  | none, none =>
      match source with
      | '0' :: 'x' :: rest => readInBase 16 rest
      | '0' :: 'o' :: rest => readInBase 8 rest
      | '0' :: 'b' :: rest => readInBase 2 rest
      | _ => do
          let (whole, rest) ← readDecimal unsigned
          let (isReal, fraction, exponent, rest) ← readFraction rest
          if isReal then
            if !negative && overflows whole fraction exponent then none else some (.scalar, rest)
          else return (← integerOf? negative (numberOf 10 whole), rest)

def readNumberOrDate (source : List Char) : Reading Toml :=
  if startsDate source || startsTime source then
    (afterDateTime? source).map fun rest => (.scalar, rest)
  else readNumber source

/-! ## Texts -/

/-- Characters of comments and of texts on one line. -/
def isLineChar (c : Char) : Bool := c == '\t' || (0x20 ≤ c.toNat && c.toNat != 0x7F)

/-- The character of an escape with hexadecimal digits. -/
def escapedNumber? (digits : List Char) (count : Nat) : Option Char :=
  if digits.length == count && digits.all (isDigitOf 16) then
    let n := numberOf 16 digits
    if n.isValidChar then some (Char.ofNat n) else none
  else none

def readEscape : List Char → Reading Char
  | 'b' :: rest => some ('\x08', rest)
  | 'f' :: rest => some ('\x0c', rest)
  | 'n' :: rest => some ('\n', rest)
  | 'r' :: rest => some ('\r', rest)
  | 't' :: rest => some ('\t', rest)
  | '"' :: rest => some ('"', rest)
  | '\\' :: rest => some ('\\', rest)
  | 'u' :: rest => (escapedNumber? (rest.take 4) 4).map fun c => (c, rest.drop 4)
  | 'U' :: rest => (escapedNumber? (rest.take 8) 8).map fun c => (c, rest.drop 8)
  | _ => none

/-- Read a text on one line behind its opening quote.  `room` bounds its
length. -/
def readLine (quote : Char) : (room : Nat) → (done : List Char) → List Char → Reading String
  | 0, _, _ => none
  | _ + 1, _, [] => none
  | room + 1, done, c :: rest =>
      if c == quote then some (String.ofList done.reverse, rest)
      else if c == '\\' && quote == '"' then
        match readEscape rest with
        | some (e, rest) => readLine quote room (e :: done) rest
        | none => none
      else if isLineChar c then readLine quote room (c :: done) rest
      else none

/-- The rest of a text behind a line break, if it starts with one. -/
def afterBreak? : List Char → Option (List Char)
  | '\n' :: rest => some rest
  | '\r' :: '\n' :: rest => some rest
  | _ => none

def isGap (c : Char) : Bool := c == ' ' || c == '\t'

/-- Skip spaces, tabs and line breaks. -/
def skipBreaks : List Char → List Char
  | '\r' :: '\n' :: rest => skipBreaks rest
  | c :: rest => if isGap c || c == '\n' then skipBreaks rest else c :: rest
  | [] => []

/-- Read a text over several lines behind its three opening quotes. -/
def readLines (quote : Char) : (room : Nat) → (done : List Char) → List Char → Reading String
  | 0, _, _ => none
  | _ + 1, _, [] => none
  | room + 1, done, c :: rest =>
      if c == quote then
        let run := (c :: rest).takeWhile (· == quote)
        let behind := (c :: rest).drop run.length
        if run.length < 3 then readLines quote room (run ++ done) behind
        else
          -- up to two quotes right before the three at the end are part of the text
          let kept := min (run.length - 3) 2
          some (String.ofList ((List.replicate kept quote) ++ done).reverse,
            List.replicate (run.length - 3 - kept) quote ++ behind)
      else if c == '\\' && quote == '"' then
        match afterBreak? (rest.dropWhile isGap) with
        | some behind => readLines quote room done (skipBreaks behind)
        | none =>
            match readEscape rest with
            | some (e, rest) => readLines quote room (e :: done) rest
            | none => none
      else
        match afterBreak? (c :: rest) with
        | some behind => readLines quote room ('\n' :: done) behind
        | none => if isLineChar c then readLines quote room (c :: done) rest else none

/-- Read a text behind its first quote. -/
def readText (quote : Char) (source : List Char) : Reading String :=
  match after? [quote, quote] source with
  | some rest => readLines quote (rest.length + 1) [] ((afterBreak? rest).getD rest)
  | none => readLine quote (source.length + 1) [] source

end PluginAudit.Toml
