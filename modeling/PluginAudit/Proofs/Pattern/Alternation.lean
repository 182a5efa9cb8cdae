import PluginAudit.Pattern
import PluginAudit.Proofs.Pattern.Search

/-!
# Alternations as regular expressions

A text without signs of a regular expression is read as its characters one after the
other, and such texts with bars between them as a choice of them.  The expression stops
where the first of the texts does that stands at a place.
-/

namespace PluginAudit

open PluginAudit.Text

namespace Regex

/-- The expression of a text that stands for itself. -/
def ofLiteral (text : List Char) : Regex := sequenceOf (text.map fun c => .char (.oneOf [c]))

/-- The expression of several such texts, the first preferred. -/
def ofLiterals (texts : List (List Char)) : Regex := choiceOf (texts.map ofLiteral)

/-! ## Reading -/

/-- A reading outside of all groups. -/
def Reading.within (done : List Regex) (parts : Parts) : Reading := { here := { done, parts } }

namespace Reading

theorem step_plain (s : Reading) {c : Char} (plain : Pattern.isRegexSign c = false) (rest : List Char) :
    s.step c rest = .ok (s.add (.char (charSet s.flags c)), rest) := by
  unfold step
  split
  case h_13 => rfl
  all_goals exact absurd plain (by decide)

theorem run_plain {text : List Char} (plain : ∀ c ∈ text, Pattern.isRegexSign c = false)
    (done : List Regex) (parts : Parts) (room : Nat) (rest : List Char) :
    run (text.length + room) (within done parts) (text ++ rest) =
      run room (within done ((text.map fun c => some (.char (.oneOf [c]))).reverse ++ parts)) rest := by
  induction text generalizing parts with
  | nil => simp
  | cons c cs inductionHypothesis =>
    have others := inductionHypothesis fun other member => plain other (List.mem_cons_of_mem c member)
    have more : (c :: cs).length + room = cs.length + room + 1 := by
      rw [List.length_cons]
      omega
    rw [more, List.cons_append, run]
    simp only [within, skipSpace, Bool.false_eq_true, if_false]
    rw [step_plain _ (plain c List.mem_cons_self)]
    simpa [within, add, OpenGroup.add, charSet] using others (some (.char (.oneOf [c])) :: parts)

theorem run_bar (done : List Regex) (parts : Parts) (room : Nat) (rest : List Char) :
    run (room + 1) (within done parts) ('|' :: rest) =
      run room (within (sequenceOf (parts.reverse.filterMap id) :: done) []) rest := rfl

theorem run_joinWith {texts : List (List Char)} (nonempty : texts ≠ [])
    (plain : ∀ text ∈ texts, ∀ c ∈ text, Pattern.isRegexSign c = false) (done : List Regex) :
    run ((joinWith ['|'] texts).length + 1) (within done []) (joinWith ['|'] texts) =
      .ok (choiceOf (done.reverse ++ texts.map ofLiteral)) := by
  induction texts generalizing done with
  | nil => exact absurd rfl nonempty
  | cons text others inductionHypothesis =>
    have read := run_plain (plain text List.mem_cons_self) done []
    have parts : ((text.map fun c => some (Regex.char (.oneOf [c]))).reverse ++ []).reverse.filterMap id =
        text.map fun c => .char (.oneOf [c]) := by
      rw [List.append_nil, List.reverse_reverse, List.filterMap_map]
      exact congrFun List.filterMap_eq_map' text
    cases others with
    | nil =>
      have last := read 1 []
      rw [List.append_nil] at last
      rw [joinWith, last, run]
      simp only [within, skipSpace, Bool.false_eq_true, if_false, List.isEmpty_nil, if_true,
        OpenGroup.close, OpenGroup.alternative, parts, List.reverse_cons, List.map_cons, List.map_nil]
      rfl
    | cons next others =>
      have later := inductionHypothesis (List.cons_ne_nil _ _)
        (fun text member => plain text (List.mem_cons_of_mem _ member)) (ofLiteral text :: done)
      have size : (joinWith ['|'] (text :: next :: others)).length + 1 =
          text.length + ((joinWith ['|'] (next :: others)).length + 1 + 1) := by
        simp only [joinWith, List.length_append, List.length_cons, List.length_nil]
        omega
      have split : joinWith ['|'] (text :: next :: others) =
          text ++ '|' :: joinWith ['|'] (next :: others) := by
        simp [joinWith]
      -- the bar closes the alternative that was read, and the others follow it
      rw [size, split, read, run_bar, parts]
      rw [ofLiteral] at later
      rw [later]
      simp [ofLiteral]

end Reading

theorem size_ofLiteral {text : List Char} (nonempty : text ≠ []) : (ofLiteral text).size = text.length := by
  induction text with
  | nil => exact absurd rfl nonempty
  | cons c cs inductionHypothesis =>
    cases cs with
    | nil => rfl
    | cons d ds =>
      have others := inductionHypothesis (List.cons_ne_nil d ds)
      simp only [ofLiteral, List.map_cons, sequenceOf, size, List.length_cons] at others ⊢
      omega

theorem size_ofLiterals {texts : List (List Char)} (some : texts ≠ []) (nonempty : [] ∉ texts) :
    (ofLiterals texts).size = (joinWith ['|'] texts).length := by
  induction texts with
  | nil => exact absurd rfl some
  | cons text others inductionHypothesis =>
    rw [List.mem_cons, not_or] at nonempty
    have first := size_ofLiteral (Ne.symm nonempty.1)
    cases others with
    | nil => exact first
    | cons next others =>
      have later := inductionHypothesis (List.cons_ne_nil _ _) nonempty.2
      simp only [ofLiterals, List.map_cons, choiceOf, size, joinWith, List.length_append,
        List.length_cons, List.length_nil, first] at later ⊢
      omega

/-- Texts without signs are read as themselves unless there is too much of them. -/
theorem read_joinWith {texts : List (List Char)} (some : texts ≠ [])
    (literal : ∀ text ∈ texts, Pattern.isLiteral text) :
    read (joinWith ['|'] texts) =
      if (joinWith ['|'] texts).length ≤ maximalSize then .ok (ofLiterals texts) else .error .tooLarge := by
  have plain : ∀ text ∈ texts, ∀ c ∈ text, Pattern.isRegexSign c = false := by
    intro text member c isIn
    have isLiteral := literal text member
    simp only [Pattern.isLiteral, Bool.and_eq_true, Bool.not_eq_true', List.any_eq_false] at isLiteral
    simpa using isLiteral.2 c isIn
  have nonempty : [] ∉ texts := fun member => by simpa [Pattern.isLiteral] using literal [] member
  -- nothing is read yet where reading starts
  have parsed : Reading.run ((joinWith ['|'] texts).length + 1) {} (joinWith ['|'] texts) =
      .ok (choiceOf (texts.map ofLiteral)) := Reading.run_joinWith some plain []
  rw [read, parsed]
  simp only [← size_ofLiterals some nonempty]
  rfl

/-! ## Matching -/

theorem distinct_toList (place : Option Cursor) : distinct place.toList = place.toList := by
  cases place <;> rfl

theorem head?_distinct (places : List Cursor) : (distinct places).head? = places.head? := by
  match places with
  | [] => rfl
  | [_] => rfl
  | _ :: _ :: _ => rfl

theorem behindLiteral?_cons (c : Char) (cs : List Char) (here : Cursor) :
    Cursor.behindLiteral? (c :: cs) here =
      (Cursor.behindLiteral? [c] here).bind (Cursor.behindLiteral? cs) := by
  obtain ⟨before, rest, offset⟩ := here
  cases rest with
  | nil => rfl
  | cons d rest => by_cases same : c = d <;> simp [Cursor.behindLiteral?, same]

theorem ends_char (c : Char) (here : Cursor) :
    ends (.char (.oneOf [c])) here = (Cursor.behindLiteral? [c] here).toList := by
  obtain ⟨before, rest, offset⟩ := here
  cases rest with
  | nil => rfl
  | cons d rest =>
    by_cases same : c = d
    · simp [ends, CharSet.mem, Cursor.behindLiteral?, same]
    · simp [ends, CharSet.mem, Cursor.behindLiteral?, same, Ne.symm same]

theorem ends_ofLiteral (text : List Char) (here : Cursor) :
    (ofLiteral text).ends here = (Cursor.behindLiteral? text here).toList := by
  induction text generalizing here with
  | nil => rfl
  | cons c cs inductionHypothesis =>
    cases cs with
    | nil => exact ends_char c here
    | cons d ds =>
      have parts : ofLiteral (c :: d :: ds) = .sequence (.char (.oneOf [c])) (ofLiteral (d :: ds)) := rfl
      rw [parts, ends, ends_char, behindLiteral?_cons c (d :: ds)]
      cases Cursor.behindLiteral? [c] here with
      | none => rfl
      | some there =>
        simp only [Option.toList_some, List.flatMap_cons, List.flatMap_nil, List.append_nil,
          inductionHypothesis, distinct_toList, Option.bind_some]

theorem attempt_ofLiterals {texts : List (List Char)} (some : texts ≠ []) (here : Cursor) :
    (ofLiterals texts).attempt here = Cursor.behindFirst? texts here := by
  induction texts with
  | nil => exact absurd rfl some
  | cons text others inductionHypothesis =>
    have first : ((ofLiteral text).ends here).head? = Cursor.behindLiteral? text here := by
      rw [ends_ofLiteral, Option.head?_toList]
    cases others with
    | nil =>
      rw [attempt, ofLiterals, List.map_cons, List.map_nil, choiceOf, first]
      simp [Cursor.behindFirst?]
    | cons next others =>
      have later := inductionHypothesis (List.cons_ne_nil _ _)
      rw [attempt, ofLiterals] at later
      rw [attempt, ofLiterals, List.map_cons, List.map_cons, choiceOf, ends, head?_distinct,
        List.head?_append, first, ← List.map_cons, later]
      · cases behind : Cursor.behindLiteral? text here with
        | none => simp [Cursor.behindFirst?, behind]
        | some there => simp [Cursor.behindFirst?, behind]
      · simp

theorem spans_ofLiterals {texts : List (List Char)} (some : texts ≠ []) (text : List Char) :
    (ofLiterals texts).spans text = PluginAudit.spans (Cursor.behindFirst? texts) text := by
  rw [spans, funext (attempt_ofLiterals some)]

end Regex

end PluginAudit
