import Mathlib.Algebra.Group.Nat.Defs
import Mathlib.Data.List.Forall2
import PluginAudit.Pattern
import PluginAudit.Proofs.Pattern.Search
import PluginAudit.Proofs.Text.Boundaries
import PluginAudit.Proofs.Text.Lines

/-!
# Lines and columns

A line and a column name one place of a text: they say how many lines end before it and how
many characters of its own line do.  Both are numbers of 32 bits, and there is one place of
a content of 2 ^ 32 - 1 bytes that they may not reach.
-/

namespace PluginAudit

open PluginAudit.Text
open PluginAudit.Text.Utf8

variable {text front back last : List Char} {lines : List (List Char)}

/-! ## Lines that end -/

/-- The text behind a number of lines that each end with a line feed. -/
def dropLines : Nat → List Char → List Char
  | 0, text => text
  | n + 1, text => dropLines n (text.dropWhile (· != '\n')).tail

theorem dropLines_ofTextLines (oneLine : ∀ line ∈ lines, '\n' ∉ line) (back : List Char) :
    dropLines lines.length (ofTextLines lines ++ back) = back := by
  induction lines with
  | nil => rfl
  | cons line others inductionHypothesis =>
    obtain ⟨here, later⟩ := List.forall_mem_cons.mp oneLine
    have passed : ∀ c ∈ line, (c != '\n') = true := by
      intro c member
      rw [bne_iff_ne]
      rintro rfl
      exact here member
    rw [ofTextLines_cons, List.append_assoc, List.cons_append, List.length_cons, dropLines,
      List.dropWhile_append_of_pos passed, List.dropWhile_cons_of_neg (by simp), List.tail_cons,
      inductionHypothesis later]

/-- A text is made of lines that end in it and of one more that does not. -/
theorem exists_textLines (text : List Char) :
    ∃ lines last, text = ofTextLines lines ++ last ∧ (∀ line ∈ lines, '\n' ∉ line) ∧ '\n' ∉ last := by
  induction text with
  | nil => exact ⟨[], [], rfl, List.forall_mem_nil _, List.not_mem_nil⟩
  | cons c cs inductionHypothesis =>
    obtain ⟨lines, last, rfl, ended, unended⟩ := inductionHypothesis
    by_cases feeds : c = '\n'
    · subst feeds
      exact ⟨[] :: lines, last, rfl, List.forall_mem_cons.mpr ⟨List.not_mem_nil, ended⟩, unended⟩
    · have longer {line : List Char} (oneLine : '\n' ∉ line) : '\n' ∉ c :: line :=
        List.not_mem_cons_of_ne_of_not_mem (Ne.symm feeds) oneLine
      cases lines with
      | nil => exact ⟨[], c :: last, rfl, List.forall_mem_nil _, longer unended⟩
      | cons line others =>
        obtain ⟨first, later⟩ := List.forall_mem_cons.mp ended
        exact ⟨(c :: line) :: others, last, rfl, List.forall_mem_cons.mpr ⟨longer first, later⟩, unended⟩

theorem count_ofTextLines (oneLine : ∀ line ∈ lines, '\n' ∉ line) : (ofTextLines lines).count '\n' = lines.length := by
  induction lines with
  | nil => rfl
  | cons line others inductionHypothesis =>
    obtain ⟨here, later⟩ := List.forall_mem_cons.mp oneLine
    rw [ofTextLines_cons, List.count_append, List.count_eq_zero.mpr here, List.count_cons_self,
      inductionHypothesis later, Nat.zero_add, List.length_cons]

/-! ## The last line -/

theorem lastLine_eq_self (oneLine : '\n' ∉ text) : lastLine text = text := by
  have passed : ∀ c ∈ text.reverse, (c != '\n') = true := by
    intro c member
    rw [bne_iff_ne]
    rintro rfl
    exact oneLine (List.mem_reverse.mp member)
  rw [lastLine, List.takeWhile_eq_self_iff.mpr passed, List.reverse_reverse]

theorem lastLine_append_of_oneLine (oneLine : '\n' ∉ back) (front : List Char) :
    lastLine (front ++ back) = lastLine front ++ back := by
  have passed : ∀ c ∈ back.reverse, (c != '\n') = true := by
    intro c member
    rw [bne_iff_ne]
    rintro rfl
    exact oneLine (List.mem_reverse.mp member)
  rw [lastLine, List.reverse_append, List.takeWhile_append_of_pos passed, List.reverse_append,
    List.reverse_reverse, lastLine]

theorem lastLine_ofTextLines (lines : List (List Char)) : lastLine (ofTextLines lines) = [] := by
  rcases List.eq_nil_or_concat lines with rfl | ⟨others, line, rfl⟩
  · rfl
  · simp [ofTextLines, lastLine]

theorem lastLine_isSuffix (text : List Char) : lastLine text <:+ text := by
  have starts := List.reverse_suffix.mpr (List.takeWhile_prefix (l := text.reverse) (· != '\n'))
  rwa [List.reverse_reverse] at starts

theorem not_mem_lastLine (text : List Char) : '\n' ∉ lastLine text := by
  intro member
  simpa using List.mem_takeWhile_imp (List.mem_reverse.mp member)

/-! ## Numbers of 32 bits -/

section Ordinal

variable {count : Nat} {n : UInt32}

theorem ordinal_of_lt (small : count + 1 < 2 ^ 32) : ordinal count = .ok (UInt32.ofNat (count + 1)) := by
  have behind : UInt32.ofNat count + 1 = UInt32.ofNat (count + 1) := UInt32.ofNat_add count 1 |>.symm
  have some : UInt32.ofNat (count + 1) ≠ 0 := by
    intro isZero
    have := congrArg UInt32.toNat isZero
    rw [UInt32.toNat_ofNat_of_lt' small] at this
    exact absurd this (Nat.succ_ne_zero count)
  rw [ordinal, behind, if_neg (by simpa using some)]

theorem ordinal_of_eq (last : count + 1 = 2 ^ 32) : ordinal count = .error .overflow := by
  have behind : UInt32.ofNat count + 1 = UInt32.ofNat (count + 1) := UInt32.ofNat_add count 1 |>.symm
  rw [ordinal, behind, last]
  rfl

/-- A count that 32 bits hold is followed by the number behind it, unless it is the last one. -/
theorem ordinal_eq_ok_iff (held : count < 2 ^ 32) : ordinal count = .ok n ↔ n.toNat = count + 1 := by
  rcases Nat.lt_or_eq_of_le (Nat.succ_le_of_lt held) with small | last
  · rw [ordinal_of_lt small, Except.ok.injEq, ← UInt32.toNat_inj, UInt32.toNat_ofNat_of_lt' small, eq_comm]
  · rw [ordinal_of_eq last]
    have := n.toNat_lt
    exact iff_of_false nofun (by omega)

end Ordinal

/-! ## Places of a content -/

/-- What is left of a text behind the lines and the characters that a position counts. -/
def Position.textFrom (here : Position) (text : List Char) : List Char :=
  (dropLines (here.line.toNat - 1) text).drop (here.column.toNat - 1)

variable {content : String} {position : Position}

theorem lineColumn_eq (split : content.toList = front ++ back) :
    lineColumn content (textSize front) = do
      let line ← ordinal (front.count '\n')
      let column ← ordinal (lastLine front).length
      return ⟨line, column⟩ := by
  rw [lineColumn, split, takeBytes_append]

theorem length_le_textSize (text : List Char) : text.length ≤ textSize text := by
  induction text with
  | nil => exact Nat.le_refl 0
  | cons c cs inductionHypothesis =>
    have some := c.utf8Size_pos
    rw [List.length_cons, textSize_cons]
    omega

theorem length_le_size (split : content.toList = front ++ back) : front.length ≤ content.utf8ByteSize := by
  have shorter : front.length ≤ textSize front := length_le_textSize front
  rw [utf8ByteSize_eq_textSize, split, textSize_append]
  omega

section Place

variable (split : content.toList = front ++ back) (small : content.utf8ByteSize < 2 ^ 32)
include split small

theorem counts_lt : front.count '\n' < 2 ^ 32 ∧ (lastLine front).length < 2 ^ 32 := by
  have size := length_le_size split
  have ends : front.count '\n' ≤ front.length := List.count_le_length
  have own := (lastLine_isSuffix front).length_le
  omega

/-- The lines that end before a place are counted, and the characters of its own line before it. -/
theorem lineColumn_eq_ok_iff :
    lineColumn content (textSize front) = .ok position ↔
      position.line.toNat = front.count '\n' + 1 ∧ position.column.toNat = (lastLine front).length + 1 := by
  obtain ⟨ends, own⟩ := counts_lt split small
  rw [lineColumn_eq split, ← ordinal_eq_ok_iff ends, ← ordinal_eq_ok_iff own]
  obtain ⟨line, column⟩ := position
  cases ordinal (front.count '\n') with
  | error e => exact iff_of_false nofun fun both => nomatch both.1
  | ok first =>
    cases ordinal (lastLine front).length with
    | error e => exact iff_of_false nofun fun both => nomatch both.2
    | ok second => simp [bind, Except.bind, pure, Except.pure]

/-- A position is missing only where a number would be the one behind the last of 32 bits. -/
theorem lineColumn_cases :
    (front.count '\n' + 1 < 2 ^ 32 ∧ (lastLine front).length + 1 < 2 ^ 32 ∧
        ∃ position, lineColumn content (textSize front) = .ok position) ∨
      (front.count '\n' + 1 = 2 ^ 32 ∨ (lastLine front).length + 1 = 2 ^ 32) ∧
        lineColumn content (textSize front) = .error .overflow := by
  obtain ⟨ends, own⟩ := counts_lt split small
  rw [lineColumn_eq split]
  rcases Nat.lt_or_eq_of_le (Nat.succ_le_of_lt ends) with fewEnds | lastEnd
  · rcases Nat.lt_or_eq_of_le (Nat.succ_le_of_lt own) with short | long
    · exact .inl ⟨fewEnds, short, _, by rw [ordinal_of_lt fewEnds, ordinal_of_lt short]; rfl⟩
    · exact .inr ⟨.inr long, by rw [ordinal_of_lt fewEnds, ordinal_of_eq long]; rfl⟩
  · exact .inr ⟨.inl lastEnd, by rw [ordinal_of_eq lastEnd]; rfl⟩

theorem textFrom_of_lineColumn (located : lineColumn content (textSize front) = .ok position) :
    position.textFrom content.toList = back := by
  obtain ⟨line, column⟩ := (lineColumn_eq_ok_iff split small).mp located
  obtain ⟨lines, last, rfl, ended, unended⟩ := exists_textLines front
  rw [List.count_append, count_ofTextLines ended, List.count_eq_zero.mpr unended, Nat.add_zero] at line
  rw [lastLine_append_of_oneLine unended, lastLine_ofTextLines, List.nil_append] at column
  rw [Position.textFrom, line, column, Nat.add_sub_cancel, Nat.add_sub_cancel, split, List.append_assoc,
    dropLines_ofTextLines ended, List.drop_left]

/-- Before the end of a content every place has a position. -/
theorem exists_lineColumn (inside : back ≠ []) : ∃ position, lineColumn content (textSize front) = .ok position := by
  have size := length_le_textSize front
  have behind := textSize_pos inside
  have ends : front.count '\n' ≤ front.length := List.count_le_length
  have own := (lastLine_isSuffix front).length_le
  have whole : content.utf8ByteSize = textSize front + textSize back := by
    rw [utf8ByteSize_eq_textSize, split, textSize_append]
  rcases lineColumn_cases split small with ⟨-, -, answered⟩ | ⟨last, -⟩
  · exact answered
  · omega

end Place

/-! ## Locating matches -/

theorem mapM_eq_ok_iff {α β : Type} {f : α → Except Error β} {items : List α} {results : List β} :
    items.mapM f = .ok results ↔ List.Forall₂ (fun item result => f item = .ok result) items results := by
  induction items generalizing results with
  | nil => simp [pure, Except.pure, eq_comm]
  | cons item others inductionHypothesis =>
    rw [List.mapM_cons, List.forall₂_cons_left_iff]
    cases f item with
    | error e => simp [bind, Except.bind]
    | ok result =>
      cases later : others.mapM f with
      | error e => simp [bind, Except.bind, ← inductionHypothesis, later]
      | ok found => simp [bind, Except.bind, pure, Except.pure, ← inductionHypothesis, later, eq_comm]

theorem exists_mapM_eq_ok {α β : Type} {f : α → Except Error β} {items : List α}
    (answered : ∀ item ∈ items, ∃ result, f item = .ok result) : ∃ results, items.mapM f = .ok results := by
  induction items with
  | nil => exact ⟨[], rfl⟩
  | cons item others inductionHypothesis =>
    obtain ⟨here, later⟩ := List.forall_mem_cons.mp answered
    obtain ⟨result, first⟩ := here
    obtain ⟨results, rest⟩ := inductionHypothesis later
    exact ⟨result :: results, mapM_eq_ok_iff.mpr (.cons first (mapM_eq_ok_iff.mp rest))⟩

namespace Pattern

variable {pattern : Pattern} {span : Span} {located : Located}

theorem locate_eq_ok_iff : locate content span = .ok located ↔
    lineColumn content span.start = .ok located.position ∧
      located.text = String.ofList (span.slice content.toList) := by
  obtain ⟨position, text⟩ := located
  rw [locate]
  cases lineColumn content span.start with
  | error e => exact iff_of_false nofun fun both => nomatch both.1
  | ok found => simp [Except.map, eq_comm]

end Pattern

end PluginAudit
