import Mathlib.Data.List.DropRight
import PluginAudit.Proofs.Disk.Directory
import PluginAudit.Proofs.Text.Parts

/-!
# Components of paths

Joining names to a path adds them to its components, its parent lacks the last of them, and
what is below a base is what its components have behind those of the base.  How a path is
written makes no difference to any of these.
-/

namespace PluginAudit

open PluginAudit.Text

namespace Path

variable {p base : Path} {front : List Component} {pieces before : List (List Char)}

/-! ## Pieces -/

/-- The components that pieces stand for. -/
def named (pieces : List (List Char)) : List Component :=
  (pieces.filter fun piece => !isIdle piece).map Component.ofPiece

theorem components_eq (p : Path) : p.components = p.cut.lead.toList ++ named p.cut.pieces := rfl

@[simp] theorem named_nil : named [] = [] := rfl

@[simp] theorem named_append (pieces more : List (List Char)) :
    named (pieces ++ more) = named pieces ++ named more := by
  simp [named]

theorem named_cons_idle {piece : List Char} (idle : isIdle piece) (pieces : List (List Char)) :
    named (piece :: pieces) = named pieces := by
  simp [named, idle]

theorem named_cons {piece : List Char} (kept : isIdle piece = false) (pieces : List (List Char)) :
    named (piece :: pieces) = .ofPiece piece :: named pieces := by
  simp [named, kept]

theorem named_eq_nil (idle : ∀ piece ∈ pieces, isIdle piece) : named pieces = [] := by
  simpa [named] using idle

theorem dropIdleEnd_eq (pieces : List (List Char)) : dropIdleEnd pieces = pieces.rdropWhile isIdle := rfl

theorem named_dropIdleEnd (pieces : List (List Char)) : named (dropIdleEnd pieces) = named pieces := by
  have dropped : named (pieces.rtakeWhile isIdle) = [] :=
    named_eq_nil fun piece member => List.mem_rtakeWhile_imp member
  conv_rhs => rw [← List.rdropWhile_append_rtakeWhile (p := isIdle) (l := pieces)]
  rw [named_append, dropped, List.append_nil, dropIdleEnd_eq]

/-- The last piece that is left is a component. -/
theorem not_isIdle_of_dropIdleEnd {last : List Char} (left : dropIdleEnd pieces = before ++ [last]) :
    isIdle last = false := by
  have some : pieces.rdropWhile isIdle ≠ [] := by
    rw [← dropIdleEnd_eq, left]
    simp
  have stays := List.rdropWhile_last_not isIdle pieces some
  simpa [← dropIdleEnd_eq, left] using stays

/-! ## Names -/

theorem slash_not_mem_pieces (p : Path) : ∀ piece ∈ p.cut.pieces, '/' ∉ piece := by
  intro piece member
  unfold cut at member
  split at member
  · exact not_mem_of_mem_splitOn member
  · cases member
  · rcases List.mem_cons.mp member with rfl | later
    · exact List.not_mem_nil
    · exact not_mem_of_mem_splitOn later
  · exact not_mem_of_mem_splitOn member

/-- Only a root or a `.` can stand before the pieces. -/
theorem lead_ne_normal (p : Path) (name : List Char) : p.cut.lead ≠ some (.normal name) := by
  unfold cut
  split <;> simp

/-- No name in a path has a slash in it. -/
theorem slash_not_mem_name {name : List Char} (member : .normal name ∈ p.components) : '/' ∉ name := by
  rcases List.mem_append.mp member with isLead | isPiece
  · exact absurd (Option.mem_toList.mp isLead) (p.lead_ne_normal name)
  · obtain ⟨piece, kept, named⟩ := List.mem_map.mp isPiece
    unfold Component.ofPiece at named
    split at named <;> cases named
    exact p.slash_not_mem_pieces _ (List.mem_of_mem_filter kept)

/-- The last component of a path is its file name. -/
theorem fileName?_of_components {name : String} (components : p.components = front ++ [.normal name.toList]) :
    p.fileName? = some name := by
  simp [fileName?, components]

theorem slash_not_mem_fileName (p : Path) : '/' ∉ (p.fileName?.getD "").toList := by
  unfold fileName?
  split
  · rename_i name last
    simpa using slash_not_mem_name (List.mem_of_getLast? last)
  · simp

/-! ## Joining -/

/-- What follows a slash in a path makes no difference to how the text before it is cut. -/
theorem exists_cut_slash (given : p.text.toList ≠ []) :
    ∃ before, named before = named p.cut.pieces ∧
      ∀ (q : Path) (back : List Char), q.text.toList = p.text.toList ++ '/' :: back →
        q.cut = ⟨p.cut.lead, before ++ splitOn '/' back⟩ := by
  unfold cut
  split
  case h_1 rest written =>
    refine ⟨splitOn '/' rest, rfl, fun q back whole => ?_⟩
    simp [whole, written, splitOn_append_cons]
  case h_2 written =>
    refine ⟨[[]], rfl, fun q back whole => ?_⟩
    simp [whole, written]
  case h_3 rest written =>
    refine ⟨[] :: splitOn '/' rest, rfl, fun q back whole => ?_⟩
    simp [whole, written, splitOn_append_cons]
  case h_4 notRoot notHere notBelow =>
    refine ⟨splitOn '/' p.text.toList, rfl, fun q back whole => ?_⟩
    rw [← splitOn_append_cons, ← whole]
    obtain ⟨c, cs, text_eq⟩ := List.exists_cons_of_ne_nil given
    -- the text before the slash is not empty, so the root or `.` would be its own
    split
    case h_1 rest whole' =>
      simp only [whole', text_eq, List.cons_append, List.cons.injEq] at whole
      exact absurd (whole.1 ▸ text_eq) (notRoot cs)
    case h_2 whole' => simp [whole', text_eq] at whole
    case h_3 rest whole' =>
      cases cs with
      | nil =>
        simp only [whole', text_eq, List.cons_append, List.cons.injEq] at whole
        exact absurd (whole.1 ▸ text_eq) notHere
      | cons d ds =>
        simp only [whole', text_eq, List.cons_append, List.cons.injEq] at whole
        obtain ⟨rfl, rfl, -⟩ := whole
        exact absurd text_eq (notBelow ds)
    case h_4 => rfl

/-- A relative path that does not start with a `.` component. -/
def Plain (text : String) (pieces : List (List Char)) : Prop := (Path.mk text).cut = ⟨none, pieces⟩

theorem Plain.splitOn_eq {text : String} (plain : Plain text pieces) : splitOn '/' text.toList = pieces := by
  unfold Plain cut at plain
  split at plain <;> cases plain
  rfl

theorem Plain.isAbsolute {text : String} (plain : Plain text pieces) : (Path.mk text).isAbsolute = false := by
  unfold Plain cut at plain
  unfold Path.isAbsolute
  split at plain <;> simp_all

/-- The pieces of a relative path are joined behind those of a path. -/
theorem exists_cut_join {text : String} (plain : Plain text pieces) (p : Path) :
    ∃ before, (p.join text).cut = ⟨p.cut.lead, before ++ pieces⟩ ∧ named before = named p.cut.pieces := by
  have joined := plain.splitOn_eq
  simp only [join, plain.isAbsolute, Bool.false_eq_true, if_false]
  split
  case h_1 none =>
    have empty : p.text.toList = [] := List.getLast?_eq_none_iff.mp none
    refine ⟨[], plain.trans ?_, ?_⟩ <;> simp [cut, empty, splitOn, splitBy, named, isIdle]
  case h_2 last =>
    obtain ⟨start, text_eq⟩ := List.getLast?_eq_some_iff.mp last
    cases start with
    | nil => exact ⟨[], by simp [cut, text_eq, joined], by simp [cut, text_eq, splitOn, splitBy, named, isIdle]⟩
    | cons c cs =>
      -- the slash at the end stands behind a path of its own
      let start : Path := ⟨String.ofList (c :: cs)⟩
      have given : start.text.toList ≠ [] := by simp [start]
      obtain ⟨before, -, cuts⟩ := exists_cut_slash given
      have here := cuts p [] (by simp [start, text_eq])
      have there := cuts ⟨p.text ++ text⟩ text.toList (by simp [start, text_eq])
      refine ⟨before, by rw [there, here, joined], ?_⟩
      simp [here, splitOn, splitBy, named, isIdle]
  case h_3 c _ last =>
    have given : p.text.toList ≠ [] := fun empty => by simp [empty] at last
    obtain ⟨before, kept, cuts⟩ := exists_cut_slash given
    exact ⟨before, by rw [cuts ⟨p.text ++ "/" ++ text⟩ text.toList (by simp), joined], kept⟩

theorem components_join_plain {text : String} (plain : Plain text pieces) (p : Path) :
    (p.join text).components = p.components ++ named pieces := by
  obtain ⟨before, cut_eq, kept⟩ := exists_cut_join plain p
  simp [components_eq, cut_eq, kept]

/-! ## Texts of names -/

open Disk (IsName)

variable {name : String} {names : List String}

theorem isIdle_name (isName : IsName name) : isIdle name.toList = false := by
  obtain ⟨-, nonempty, notDot, -⟩ := isName
  have notDotText : name.toList ≠ ['.'] := fun same => notDot (String.toList_injective same)
  simp [isIdle, nonempty, notDotText]

theorem named_names (isName : ∀ name ∈ names, IsName name) :
    named (names.map String.toList) = names.map fun name => .normal name.toList := by
  induction names with
  | nil => rfl
  | cons name others inductionHypothesis =>
    obtain ⟨here, later⟩ := List.forall_mem_cons.mp isName
    have notUp : name.toList ≠ ['.', '.'] := fun same => here.2.2.2 (String.toList_injective same)
    rw [List.map_cons, named_cons (isIdle_name here), inductionHypothesis later]
    simp [Component.ofPiece, notUp]

theorem toList_intercalate_slash (names : List String) :
    ("/".intercalate names).toList = joinWith ['/'] (names.map String.toList) := by
  induction names with
  | nil => rfl
  | cons name others inductionHypothesis =>
    cases others with
    | nil => simp [joinWith]
    | cons next others =>
      rw [String.intercalate_cons_cons, String.toList_append, String.toList_append, inductionHypothesis]
      rfl

/-- A text whose first piece is a component is a relative path. -/
theorem plain_of_splitOn {text : String} {first : List Char} {others : List (List Char)}
    (kept : isIdle first = false) (split : splitOn '/' text.toList = first :: others) :
    Plain text (first :: others) := by
  rw [isIdle, Bool.or_eq_false_iff] at kept
  unfold Plain cut
  split
  case h_1 rest written => simp_all [splitOn, splitBy]
  case h_2 written => simp_all [splitOn, splitBy]
  case h_3 rest written => simp_all [splitOn, splitBy]
  case h_4 => rw [split]

/-- Names with slashes between them are a relative path. -/
theorem plain_names (some : names ≠ []) (isName : ∀ name ∈ names, IsName name) :
    Plain ("/".intercalate names) (names.map String.toList) := by
  have pieces : splitOn '/' ("/".intercalate names).toList = names.map String.toList := by
    rw [toList_intercalate_slash]
    apply splitOn_joinWith (by simpa using some)
    intro piece member
    obtain ⟨name, named, rfl⟩ := List.mem_map.mp member
    intro slash
    simpa using (isName name named).1 '/' slash
  cases names with
  | nil => exact absurd rfl some
  | cons name others => exact plain_of_splitOn (isIdle_name (isName name List.mem_cons_self)) pieces

theorem components_join (isName : IsName name) (p : Path) :
    (p.join name).components = p.components ++ [.normal name.toList] := by
  have all : ∀ other ∈ [name], IsName other := by simpa using isName
  have plain := plain_names (List.cons_ne_nil name []) all
  rw [String.intercalate_singleton] at plain
  rw [components_join_plain plain, named_names all]
  rfl

/-! ## The parent -/

/-- A relative path that has a text starts with a component. -/
theorem not_isIdle_first {first : List Char} {others : List (List Char)} (relative : p.cut = ⟨none, first :: others⟩)
    (given : p.text.toList ≠ []) : isIdle first = false := by
  unfold cut at relative
  split at relative
  case h_1 => cases relative
  case h_2 => cases relative
  case h_3 => cases relative
  case h_4 notRoot notHere notBelow =>
    injection relative with _ pieces
    have text_eq := joinWith_splitOn '/' p.text.toList
    rw [pieces] at text_eq
    by_contra idle
    rw [Bool.not_eq_false, isIdle, Bool.or_eq_true] at idle
    obtain rfl | rfl : first = [] ∨ first = ['.'] := by simpa using idle
    · cases others with
      | nil => exact given text_eq.symm
      | cons next others => exact notRoot _ text_eq.symm
    · cases others with
      | nil => exact notHere text_eq.symm
      | cons next others => exact notBelow _ text_eq.symm

/-- The ways in which a path can be cut. -/
theorem cut_cases (p : Path) :
    (∃ all, p.cut = ⟨some .root, all⟩) ∨ p.cut = ⟨some .here, []⟩ ∨ (∃ all, p.cut = ⟨some .here, [] :: all⟩) ∨
      ∃ first others, p.cut = ⟨none, first :: others⟩ := by
  unfold cut
  split
  case h_1 => exact .inl ⟨_, rfl⟩
  case h_2 => exact .inr (.inl rfl)
  case h_3 => exact .inr (.inr (.inl ⟨_, rfl⟩))
  case h_4 =>
    obtain ⟨first, others, pieces⟩ := List.exists_cons_of_ne_nil (splitBy_ne_nil (· == '/') p.text.toList)
    exact .inr (.inr (.inr ⟨first, others, by rw [splitOn, pieces]⟩))

theorem toList_ofCut (lead : Option Component) (pieces : List (List Char)) :
    (ofCut ⟨lead, pieces⟩).text.toList = leadText lead ++ joinWith ['/'] pieces := by
  simp [ofCut]

/-- What is left of the pieces of a path stands for the same components. -/
theorem components_ofCut (start : pieces <+: p.cut.pieces) (ends : dropIdleEnd pieces = pieces) :
    (ofCut ⟨p.cut.lead, pieces⟩).components = p.cut.lead.toList ++ named pieces := by
  have noSlash : ∀ piece ∈ pieces, '/' ∉ piece := fun piece member =>
    p.slash_not_mem_pieces piece (start.subset member)
  have text_eq := toList_ofCut p.cut.lead pieces
  obtain ⟨all, cut_eq⟩ | cut_eq | ⟨all, cut_eq⟩ | ⟨first, others, cut_eq⟩ := p.cut_cases
  · -- behind the root all pieces are read back
    rw [cut_eq] at text_eq ⊢
    simp only [components_eq, cut, text_eq, leadText, List.cons_append, List.nil_append]
    cases pieces with
    | nil => rfl
    | cons piece more => rw [splitOn_joinWith (List.cons_ne_nil piece more) noSlash]
  · rw [cut_eq] at start ⊢
    rw [List.prefix_nil.mp start]
    rfl
  · rw [cut_eq] at start text_eq ⊢
    cases pieces with
    | nil => simp [components_eq, cut, text_eq, leadText, joinWith]
    | cons piece more =>
      obtain ⟨rfl, behind⟩ := List.cons_prefix_cons.mp start
      cases more with
      | nil => cases ends
      | cons next more =>
        have later := splitOn_joinWith (List.cons_ne_nil next more) (List.forall_mem_cons.mp noSlash).2
        rw [joinWith_cons (List.cons_ne_nil next more)] at text_eq
        simp only [components_eq, cut, text_eq, leadText, List.cons_append, List.nil_append, later]
  · rw [cut_eq] at start text_eq ⊢
    cases pieces with
    | nil => rfl
    | cons piece more =>
      obtain ⟨rfl, behind⟩ := List.cons_prefix_cons.mp start
      have given : p.text.toList ≠ [] := by
        intro empty
        have noText : p.cut = ⟨none, [[]]⟩ := by simp [cut, empty, splitOn, splitBy]
        obtain ⟨rfl, rfl⟩ : piece = [] ∧ others = [] := by simpa [noText, eq_comm] using cut_eq
        rw [List.prefix_nil.mp behind] at ends
        cases ends
      have kept := not_isIdle_first cut_eq given
      have split := splitOn_joinWith (List.cons_ne_nil piece more) noSlash
      have plain : Plain (ofCut ⟨none, piece :: more⟩).text (piece :: more) := by
        apply plain_of_splitOn kept
        rw [text_eq]
        exact split
      rw [components_eq, plain]

/-- The parent stands for the pieces before the last one that is no idle piece. -/
theorem exists_parent?_of_pieces {last : List Char} (left : dropIdleEnd p.cut.pieces = before ++ [last]) :
    ∃ parent, p.parent? = some parent ∧ parent.components = p.cut.lead.toList ++ named before := by
  have whole : before ++ [last] <+: p.cut.pieces := left ▸ List.rdropWhile_prefix isIdle _
  have start : dropIdleEnd before <+: p.cut.pieces :=
    ((List.rdropWhile_prefix isIdle before).trans (List.prefix_append before [last])).trans whole
  refine ⟨ofCut ⟨p.cut.lead, dropIdleEnd before⟩, ?_, ?_⟩
  · simp [parent?, left]
  · rw [components_ofCut start (List.rdropWhile_idempotent isIdle before), named_dropIdleEnd]

theorem exists_parent? {name : List Char} (components : p.components = front ++ [.normal name]) :
    ∃ parent, p.parent? = some parent ∧ parent.components = front := by
  rw [components_eq, ← named_dropIdleEnd] at components
  rcases List.eq_nil_or_concat (dropIdleEnd p.cut.pieces) with none | ⟨before, last, left⟩
  · -- without pieces there is only a root or a `.`
    exfalso
    rw [none, named_nil, List.append_nil] at components
    have last : .normal name ∈ p.cut.lead.toList := by simp [components]
    exact p.lead_ne_normal name (Option.mem_toList.mp last)
  · rw [List.concat_eq_append] at left
    have kept := not_isIdle_of_dropIdleEnd left
    rw [left, named_append, named_cons kept, named_nil, ← List.append_assoc] at components
    obtain ⟨rfl, -⟩ := List.append_inj' components rfl
    exact exists_parent?_of_pieces left

/-! ## Paths below a base -/

theorem piecesAfter?_append (pieces more : List (List Char)) :
    ∃ rest, piecesAfter? (named pieces) (pieces ++ more) = some rest ∧
      rest.dropWhile isIdle = more.dropWhile isIdle := by
  induction pieces with
  | nil => exact ⟨more, by rw [named_nil, List.nil_append, piecesAfter?], rfl⟩
  | cons piece others inductionHypothesis =>
    obtain ⟨rest, found, same⟩ := inductionHypothesis
    cases kept : isIdle piece with
    | false => exact ⟨rest, by simpa [named_cons kept, piecesAfter?, kept] using found, same⟩
    | true =>
      rw [named_cons_idle kept, List.cons_append]
      cases components : named others with
      | nil =>
        -- nothing but idle pieces is left before the rest
        have idle : ∀ piece ∈ others, isIdle piece := by simpa [named] using components
        refine ⟨_, rfl, ?_⟩
        rw [List.dropWhile_cons_of_pos kept, List.dropWhile_append_of_pos idle]
      | cons component later => exact ⟨rest, by simpa [components, piecesAfter?, kept] using found, same⟩

theorem isSome_piecesAfter? {components : List Component} {pieces : List (List Char)} :
    (piecesAfter? components pieces).isSome ↔ components <+: named pieces := by
  induction pieces generalizing components with
  | nil => cases components <;> simp [piecesAfter?]
  | cons piece others inductionHypothesis =>
    cases components with
    | nil => simp [piecesAfter?]
    | cons component later =>
      rw [piecesAfter?]
      cases kept : isIdle piece with
      | true => simp [named_cons_idle kept, inductionHypothesis]
      | false =>
        rw [named_cons kept, List.cons_prefix_cons]
        by_cases same : Component.ofPiece piece = component
        · simp [same, inductionHypothesis]
        · simp [same, Ne.symm same]

/-- There is a path behind a base just for the paths that start with it. -/
theorem isSome_below? (p base : Path) : (p.below? base).isSome = p.startsWith base := by
  rw [Bool.eq_iff_iff, startsWith, List.isPrefixOf_iff_prefix, components_eq p, below?]
  cases lead_eq : p.cut.lead with
  | none => simp [isSome_piecesAfter?]
  | some lead =>
    cases base.components with
    | nil => simp
    | cons component later =>
      simp only [Option.toList_some, List.singleton_append, List.cons_prefix_cons]
      by_cases same : lead = component
      · simp [same, isSome_piecesAfter?]
      · simp [same, Ne.symm same]

/-- A relative path that is joined to a base is what is behind the base. -/
theorem below?_join {text : String} (plain : Plain text pieces) (base : Path) :
    (base.join text).below? base = some (ofCut ⟨none, dropIdleEnd (pieces.dropWhile isIdle)⟩) := by
  obtain ⟨before, cut_eq, kept⟩ := exists_cut_join plain base
  obtain ⟨rest, found, same⟩ := piecesAfter?_append before pieces
  rw [below?, cut_eq, components_eq, ← kept]
  cases base.cut.lead with
  | none => simp [found, same]
  | some lead => simp [found, same]

theorem below?_join_names (some : names ≠ []) (isName : ∀ name ∈ names, IsName name) (base : Path) :
    (base.join ("/".intercalate names)).below? base = .some ⟨"/".intercalate names⟩ := by
  have kept : ∀ piece ∈ names.map String.toList, isIdle piece = false := by
    intro piece member
    obtain ⟨name, named, rfl⟩ := List.mem_map.mp member
    exact isIdle_name (isName name named)
  have starts : (names.map String.toList).dropWhile isIdle = names.map String.toList := by
    cases names with
    | nil => rfl
    | cons name others => exact List.dropWhile_cons_of_neg (by simp [kept name.toList (by simp)])
  have ends : dropIdleEnd (names.map String.toList) = names.map String.toList := by
    rw [dropIdleEnd_eq, List.rdropWhile_eq_self_iff]
    intro given
    rw [kept _ (List.getLast_mem given)]
    exact Bool.false_ne_true
  rw [below?_join (plain_names some isName), starts, ends]
  show Option.some (Path.mk (String.ofList (joinWith ['/'] (names.map String.toList)))) = _
  rw [← toList_intercalate_slash, String.ofList_toList]

/-! ## The order of paths -/

theorem Component.order : KeyOrder Component.less where
  irreflexive component := by cases component <;> simp [Component.less]
  transitive := by
    intro a b c first second
    cases a <;> cases b <;> cases c <;> simp_all [Component.less, Component.rank]
    exact lt_trans first second
  connected := by
    intro a b notBefore notBehind
    cases a <;> cases b <;> simp_all [Component.less, Component.rank]
    exact le_antisymm notBehind notBefore

theorem componentsLess_cons (component other : Component) (components others : List Component) :
    componentsLess (component :: components) (other :: others) ↔
      component.less other ∨ component = other ∧ componentsLess components others := by
  rw [componentsLess]
  by_cases same : component = other
  · simp [same, Component.order.irreflexive]
  · simp [same]

theorem componentsOrder : KeyOrder componentsLess where
  irreflexive components := by
    induction components with
    | nil => rfl
    | cons component rest inductionHypothesis => simpa [componentsLess] using inductionHypothesis
  transitive := by
    intro as bs cs first second
    induction as generalizing bs cs with
    | nil =>
      cases bs <;> cases cs <;> simp_all [componentsLess]
    | cons a as inductionHypothesis =>
      cases bs with
      | nil => cases first
      | cons b bs =>
        cases cs with
        | nil => cases second
        | cons c cs =>
          rw [componentsLess_cons] at *
          obtain before | ⟨rfl, first⟩ := first
          · obtain after | ⟨rfl, second⟩ := second
            · exact .inl (Component.order.transitive before after)
            · exact .inl before
          · obtain after | ⟨rfl, second⟩ := second
            · exact .inl after
            · exact .inr ⟨rfl, inductionHypothesis first second⟩
  connected := by
    intro as bs notBefore notBehind
    induction as generalizing bs with
    | nil =>
      cases bs with
      | nil => rfl
      | cons b bs => cases notBefore
    | cons a as inductionHypothesis =>
      cases bs with
      | nil => cases notBehind
      | cons b bs =>
        rw [Bool.eq_false_iff, ne_eq, componentsLess_cons, not_or] at notBefore notBehind
        obtain rfl := Component.order.eq_of_not notBefore.1 notBehind.1
        congr
        apply inductionHypothesis
        · simpa using notBefore.2
        · simpa using notBehind.2

end Path

end PluginAudit
