import PluginAudit.Text.Slicing

/-!
# Paths

A path is kept as the text it was written as and compared by its components:
repeated slashes and inner `.` components make no difference, `..` is kept.
-/

namespace PluginAudit

open PluginAudit.Text

structure Path where
  text : String
deriving DecidableEq, Inhabited

namespace Path

inductive Component
  | root
  | here
  | up
  | normal (name : List Char)
deriving DecidableEq

/-- A path cut at its slashes.  Only the first component of a path can be a
root or a `.`; `pieces` holds what follows it. -/
structure Cut where
  /-- The root or leading `.`, if the path has one. -/
  lead : Option Component
  pieces : List (List Char)

def cut (p : Path) : Cut :=
  match p.text.toList with
  | '/' :: rest => ⟨some .root, splitOn '/' rest⟩
  | ['.'] => ⟨some .here, []⟩
  | '.' :: '/' :: rest => ⟨some .here, [] :: splitOn '/' rest⟩
  | chars => ⟨none, splitOn '/' chars⟩

/-- Pieces that are no component: empty ones and inner `.`. -/
def isIdle (piece : List Char) : Bool := piece.isEmpty || piece == ['.']

def Component.ofPiece (piece : List Char) : Component :=
  if piece == ['.', '.'] then .up else .normal piece

def components (p : Path) : List Component :=
  let c := p.cut
  c.lead.toList ++ (c.pieces.filter fun piece => !isIdle piece).map Component.ofPiece

def same (p q : Path) : Bool := p.components == q.components

/-- The place of a component kind in the order of components. -/
def Component.rank : Component → Nat
  | .root => 0
  | .here => 1
  | .up => 2
  | .normal _ => 3

/-- The order of components: kinds first, names by code points. -/
def Component.less : Component → Component → Bool
  | .normal a, .normal b => decide (a < b)
  | a, b => a.rank < b.rank

def componentsLess : List Component → List Component → Bool
  | [], [] => false
  | [], _ :: _ => true
  | _ :: _, [] => false
  | a :: as, b :: bs => if a == b then componentsLess as bs else a.less b

def less (p q : Path) : Bool := componentsLess p.components q.components

def isAbsolute (p : Path) : Bool :=
  match p.text.toList with
  | '/' :: _ => true
  | _ => false

/-- The path `name` below `p`. -/
def join (p : Path) (name : String) : Path :=
  -- an absolute name stands alone
  if (Path.mk name).isAbsolute then ⟨name⟩
  else
    match p.text.toList.getLast? with
    | none => ⟨name⟩
    | some '/' => ⟨p.text ++ name⟩
    | some _ => ⟨p.text ++ "/" ++ name⟩

/-- Drop the pieces at the end that are no component. -/
def dropIdleEnd (pieces : List (List Char)) : List (List Char) :=
  (pieces.reverse.dropWhile isIdle).reverse

def leadText : Option Component → List Char
  | some .root => ['/']
  | some .here => ['.']
  | _ => []

def ofCut (c : Cut) : Path :=
  ⟨String.ofList (leadText c.lead ++ joinWith ['/'] c.pieces)⟩

/-- The path without its last component, if that is not the root. -/
def parent? (p : Path) : Option Path :=
  let c := p.cut
  match (dropIdleEnd c.pieces).reverse with
  | _ :: before => some (ofCut ⟨c.lead, dropIdleEnd before.reverse⟩)
  | [] =>
      match c.lead with
      | some .here => some ⟨""⟩
      | _ => none

/-- The last component, if it is a name. -/
def fileName? (p : Path) : Option String :=
  match p.components.getLast? with
  | some (.normal name) => some (String.ofList name)
  | _ => none

/-- What follows the last dot of a name that does not start with it. -/
def extensionOf? (name : List Char) : Option (List Char) :=
  if name == ['.', '.'] then none
  else
    let tail := name.reverse.takeWhile (· != '.')
    match name.reverse.dropWhile (· != '.') with
    | _ :: _ :: _ => some tail.reverse
    | _ => none

def extension? (p : Path) : Option String :=
  p.fileName?.bind fun name => (extensionOf? name.toList).map String.ofList

/-- Whether the extension is `ext` up to the case of ASCII letters. -/
def hasExtension (p : Path) (ext : String) : Bool :=
  match p.extension? with
  | some e => sameAsciiFolded e.toList ext.toList
  | none => false

/-- Whether the components of `base` are the first components of `p`. -/
def startsWith (p base : Path) : Bool := base.components.isPrefixOf p.components

/-- The pieces behind those that make up the given components. -/
def piecesAfter? : List Component → List (List Char) → Option (List (List Char))
  | [], pieces => some pieces
  | _ :: _, [] => none
  | c :: cs, piece :: pieces =>
      if isIdle piece then piecesAfter? (c :: cs) pieces
      else if Component.ofPiece piece == c then piecesAfter? cs pieces
      else none

/-- The path behind `base`, if `p` starts with it by components. -/
def below? (p base : Path) : Option Path :=
  let c := p.cut
  match c.lead, base.components with
  | some _, [] => some (ofCut ⟨c.lead, dropIdleEnd c.pieces⟩)
  | some lead, b :: bs =>
      if lead == b then
        (piecesAfter? bs c.pieces).map fun rest =>
          ofCut ⟨none, dropIdleEnd (rest.dropWhile isIdle)⟩
      else none
  | none, bs =>
      (piecesAfter? bs c.pieces).map fun rest =>
        ofCut ⟨none, dropIdleEnd (rest.dropWhile isIdle)⟩

end Path

end PluginAudit
