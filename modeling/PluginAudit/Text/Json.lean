import PluginAudit.SortedList
import PluginAudit.Text.Quoted
import PluginAudit.Text.Slicing

/-!
# JSON values

The values that reports, requests and preparations are written in, and their
written forms: the compact one, the one spread over lines, and the one shown
when a value is inspected.
-/

namespace PluginAudit.Text

/-- A JSON value.  Members of an object are kept in the order they are written
in. -/
inductive Json
  | null
  | bool (value : Bool)
  | number (value : Int)
  | text (value : String)
  | list (items : List Json)
  | object (members : List (String × Json))
  /-- A value that is well-formed but of no use here: a number that is no
  integer, or text that holds half a surrogate pair. -/
  | unusable
deriving Inhabited

namespace Json

/-- A text as it is written in JSON, one character at a time. -/
def escapedChar (c : Char) : List Char :=
  if c == '"' then ['\\', '"']
  else if c == '\\' then ['\\', '\\']
  else if c == '\n' then ['\\', 'n']
  else if c == '\r' then ['\\', 'r']
  else if c == '\t' then ['\\', 't']
  else if c == '\x08' then ['\\', 'b']
  else if c == '\x0c' then ['\\', 'f']
  else if c.toNat < 0x20 then
    ['\\', 'u', '0', '0'] ++ (if c.toNat < 0x10 then ['0'] else []) ++ hexDigits c.toNat
  else [c]

def escaped (s : String) : String :=
  String.ofList (['"'] ++ s.toList.flatMap escapedChar ++ ['"'])

mutual

/-- The written form of a value without any space. -/
def compact : Json → String
  | null => "null"
  | bool value => if value then "true" else "false"
  | number value => toString value
  | text value => escaped value
  | list items => "[" ++ compactItems items ++ "]"
  | object members => "\x7b" ++ compactMembers members ++ "\x7d"
  | unusable => "null"

/-- The items of a list with commas between them. -/
def compactItems : List Json → String
  | [] => ""
  | [item] => compact item
  | item :: items => compact item ++ "," ++ compactItems items

/-- The members of an object with commas between them. -/
def compactMembers : List (String × Json) → String
  | [] => ""
  | [(key, value)] => escaped key ++ ":" ++ compact value
  | (key, value) :: members => escaped key ++ ":" ++ compact value ++ "," ++ compactMembers members

end

/-- A line break and the space in front of a line at a depth. -/
def lineBreak (depth : Nat) : String := "\n" ++ String.ofList (List.replicate (2 * depth) ' ')

mutual

/-- The written form of a value at a depth, with every item on a line of its
own. -/
def prettyAt (depth : Nat) : Json → String
  | list [] => "[]"
  | list items => "[" ++ prettyItems depth items ++ lineBreak depth ++ "]"
  | object [] => "\x7b\x7d"
  | object members => "\x7b" ++ prettyMembers depth members ++ lineBreak depth ++ "\x7d"
  | null => "null"
  | bool value => if value then "true" else "false"
  | number value => toString value
  | text value => escaped value
  | unusable => "null"

/-- The items of a list, each on a line of its own. -/
def prettyItems (depth : Nat) : List Json → String
  | [] => ""
  | [item] => lineBreak (depth + 1) ++ prettyAt (depth + 1) item
  | item :: items =>
      lineBreak (depth + 1) ++ prettyAt (depth + 1) item ++ "," ++ prettyItems depth items

/-- The members of an object, each on a line of its own. -/
def prettyMembers (depth : Nat) : List (String × Json) → String
  | [] => ""
  | [(key, value)] =>
      lineBreak (depth + 1) ++ escaped key ++ ": " ++ prettyAt (depth + 1) value
  | (key, value) :: members =>
      lineBreak (depth + 1) ++ escaped key ++ ": " ++ prettyAt (depth + 1) value ++ "," ++
        prettyMembers depth members

end

/-- The written form of a value over several lines. -/
def pretty (value : Json) : String := prettyAt 0 value

mutual

/-- The form in which a value is shown to someone who inspects it. -/
def inspect : Json → String
  | null => "Null"
  | bool value => if value then "Bool(true)" else "Bool(false)"
  | number value => "Number(" ++ toString value ++ ")"
  | text value => "String(" ++ quoted value ++ ")"
  | list items => "Array [" ++ inspectItems items ++ "]"
  | object members => "Object \x7b" ++ inspectMembers members ++ "\x7d"
  | unusable => "Null"

def inspectItems : List Json → String
  | [] => ""
  | [item] => inspect item
  | item :: items => inspect item ++ ", " ++ inspectItems items

def inspectMembers : List (String × Json) → String
  | [] => ""
  | [(key, value)] => quoted key ++ ": " ++ inspect value
  | (key, value) :: members =>
      quoted key ++ ": " ++ inspect value ++ ", " ++ inspectMembers members

end

mutual

/-- The value with the members of every object in the order of their names. -/
def sorted : Json → Json
  | list items => .list (sortedItems items)
  | object members => .object (sortedMembers members)
  | value => value

/-- The items of a list, each sorted within. -/
def sortedItems : List Json → List Json
  | [] => []
  | item :: items => sorted item :: sortedItems items

def sortedMembers : List (String × Json) → List (String × Json)
  | [] => []
  | (key, value) :: members =>
      let rest := sortedMembers members
      -- of two members with one name the last is kept
      if Assoc.contains key rest then rest else Assoc.put textLess key (sorted value) rest

end

/-! ## Reading typed values -/

/-- The value of an optional member, `null` standing for none. -/
def nonNull? : Option Json → Option Json
  | some null => none
  | value => value

/-- The values of the named members of a record, in the order of `names`.  Unknown members
are passed over. -/
def record? (names : List String) : Json → Option (List (Option Json))
  | list items =>
      -- a record may also be a list of its members in order
      if items.length ≤ names.length then
        some (items.map some ++ List.replicate (names.length - items.length) none)
      else none
  | object members =>
      let known := members.filter fun member => names.contains member.1
      -- a member named twice makes the record unreadable
      if (known.map Prod.fst).eraseDups.length == known.length then
        some (names.map fun name => Assoc.get? name known)
      else none
  | _ => none

def text? : Json → Option String
  | text value => some value
  | _ => none

def bool? : Json → Option Bool
  | bool value => some value
  | _ => none

/-- An unsigned number below `limit`. -/
def nat? (limit : Nat) : Json → Option Nat
  | number (.ofNat n) => if n < limit then some n else none
  | _ => none

/-- A list of values that are all of one kind. -/
def list? {α : Type} (item? : Json → Option α) : Json → Option (List α)
  | list items => items.mapM item?
  | _ => none

/-- A value that has a default when it is missing. -/
def orDefault {α : Type} (read? : Json → Option α) (default' : α) : Option Json → Option α
  | none => some default'
  | some value => read? value

end Json

end PluginAudit.Text
