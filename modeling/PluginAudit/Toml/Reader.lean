import PluginAudit.Toml.Scalar

/-!
# Reading documents of settings

A document is a sequence of lines, each with a pair of a key and a value, with
the header of a table, or with nothing but a comment.  Values may be nested up
to a fixed depth.
-/

namespace PluginAudit.Toml

open PluginAudit.Text

/-! ## Space and comments -/

def skipGaps (source : List Char) : List Char := source.dropWhile isGap

/-- The rest of a text behind a comment, if it starts with one; the line break
is left. -/
def afterComment? : List Char → Option (List Char)
  | '#' :: rest =>
      let behind := rest.dropWhile isLineChar
      if behind.isEmpty || (afterBreak? behind).isSome then some behind else none
  | rest => some rest

/-- The rest of a text behind the end of a line. -/
def afterLineEnd? (source : List Char) : Option (List Char) :=
  match afterComment? (skipGaps source) with
  | none => none
  | some [] => some []
  | some rest => afterBreak? rest

/-- Skip spaces, line breaks and comments; `room` bounds their number. -/
def skipLines : (room : Nat) → List Char → Option (List Char)
  | 0, source => some source
  | room + 1, source =>
      match afterComment? (skipGaps source) with
      | none => none
      | some rest =>
          match afterBreak? rest with
          | some behind => skipLines room behind
          | none => some rest

/-! ## Keys -/

/-- Characters of keys without quotes. -/
def isBareKeyChar (c : Char) : Bool := isAsciiAlphanumeric c || c == '_' || c == '-'

/-- Read a key without dots. -/
def readSimpleKey : List Char → Reading String
  | [] => none
  | c :: rest =>
      if c == '"' || c == '\'' then readLine c (rest.length + 1) [] rest
      else
        let key := (c :: rest).takeWhile isBareKeyChar
        if key.isEmpty then none else some (String.ofList key, (c :: rest).drop key.length)

/-- The greatest number of keys with dots between them, and of values within
each other. -/
def maximalDepth : Nat := 79

/-- Read a key with dots; `room` bounds the number of its parts. -/
def readKey : (room : Nat) → List Char → Reading (List String)
  | 0, _ => none
  | room + 1, source =>
      match readSimpleKey (skipGaps source) with
      | none => none
      | some (key, rest) =>
          match skipGaps rest with
          | '.' :: behind => (readKey room behind).map fun (keys, rest) => (key :: keys, rest)
          | rest => some ([key], rest)

/-- The path and the last part of a key. -/
def splitKey (keys : List String) : List String × String :=
  (keys.dropLast, keys.getLast?.getD "")

/-! ## Values -/

/-- Read the items of a list behind its bracket, or behind the comma in front of
an item.  `room` bounds their number. -/
def readItems (readValue : List Char → Reading Toml) :
    (room : Nat) → (done : List Toml) → List Char → Reading Toml
  | 0, _, _ => none
  | room + 1, done, source =>
      match skipLines source.length source with
      | none => none
      | some (']' :: rest) => some (.list done.reverse, rest)
      | some rest =>
          match readValue rest with
          | none => none
          | some (item, rest) =>
              match skipLines rest.length rest with
              | some (',' :: rest) => readItems readValue room (item :: done) rest
              | some (']' :: rest) => some (.list (item :: done).reverse, rest)
              | _ => none

/-- Read the pairs of a table that is a value, from the start of a pair on.
`room` bounds their number. -/
def readPairs (readValue : List Char → Reading Toml) :
    (room : Nat) → (done : Toml) → List Char → Reading Toml
  | 0, _, _ => none
  | room + 1, done, source =>
      match readKey maximalDepth source with
      | some (keys, '=' :: rest) =>
          match readValue (skipGaps rest) with
          | none => none
          | some (value, rest) =>
              let (path, key) := splitKey keys
              match done.addPair path key value, skipGaps rest with
              | some done, ',' :: rest => readPairs readValue room done rest
              | some done, '\x7d' :: rest => some (done, rest)
              | _, _ => none
      | _ => none

/-- A table with the origin of a value. -/
def asValue : Toml → Toml
  | table _ entries => .table .value entries
  | other => other

/-- Read a value that is nested at most `depth` deep. -/
def readValue : (depth : Nat) → List Char → Reading Toml
  | _, [] => none
  | 0, '[' :: _ => none
  | depth + 1, '[' :: rest => readItems (readValue depth) (rest.length + 1) [] rest
  | 0, '\x7b' :: _ => none
  | depth + 1, '\x7b' :: rest =>
      match skipGaps rest with
      | '\x7d' :: rest => some (.table .value [], rest)
      | rest =>
          (readPairs (readValue depth) (rest.length + 1) empty rest).map fun (t, rest) =>
            (t.asValue, rest)
  | _, '"' :: rest => (readText '"' rest).map fun (value, rest) => (.text value, rest)
  | _, '\'' :: rest => (readText '\'' rest).map fun (value, rest) => (.text value, rest)
  | _, 't' :: 'r' :: 'u' :: 'e' :: rest => some (.scalar, rest)
  | _, 'f' :: 'a' :: 'l' :: 's' :: 'e' :: rest => some (.scalar, rest)
  | _, source => readNumberOrDate source

/-! ## Documents -/

/-- A document that is being read: what it holds so far, and the path of the
table that pairs are added to. -/
structure Draft where
  root : Toml := empty
  current : List String := []

namespace Draft

def addPair (d : Draft) (keys : List String) (value : Toml) : Option Draft :=
  let (path, key) := splitKey keys
  (d.root.changeAt false (·.addPair path key value) d.current).map fun root => { d with root }

def open' (d : Draft) (isItem : Bool) (keys : List String) : Option Draft :=
  let (path, key) := splitKey keys
  (d.root.changeAt false (if isItem then openItem key else openTable key) path).map fun root =>
    ⟨root, keys⟩

end Draft

def readHeader (d : Draft) (source : List Char) : Option (Draft × List Char) :=
  let (isItem, source, closing) :=
    match source with
    | '[' :: rest => (true, rest, [']', ']'])
    | _ => (false, source, [']'])
  match readKey maximalDepth source with
  | none => none
  | some (keys, rest) =>
      match after? closing rest with
      | none => none
      | some rest => do
          let d ← d.open' isItem keys
          return (d, ← afterLineEnd? rest)

def readPair (d : Draft) (source : List Char) : Option (Draft × List Char) :=
  match readKey maximalDepth source with
  | some (keys, '=' :: rest) => do
      let (value, rest) ← readValue maximalDepth (skipGaps rest)
      let d ← d.addPair keys value
      return (d, ← afterLineEnd? rest)
  | _ => none

/-- Read the lines of a document; `room` bounds their number. -/
def readDocument : (room : Nat) → Draft → List Char → Option Toml
  | 0, _, _ => none
  | room + 1, d, source =>
      match skipLines source.length source with
      | none => none
      | some [] => some d.root
      | some ('[' :: rest) => (readHeader d rest).bind fun (d, rest) => readDocument room d rest
      | some rest => (readPair d rest).bind fun (d, rest) => readDocument room d rest

def parse? (document : String) : Option Toml :=
  let chars := document.toList
  let chars := if chars.head? == some (Char.ofNat 0xFEFF) then chars.drop 1 else chars
  readDocument (chars.length + 1) {} chars

end PluginAudit.Toml
