import PluginAudit.Proofs.Pattern.Bytes

/-!
# Positions

Places that follow each other have positions that do, so matches of literals are located from
the front to the back, each where its text stands.
-/

namespace PluginAudit

open PluginAudit.Text
open PluginAudit.Text.Utf8

variable {front between back : List Char}

/-! ## The order of positions -/

/-- The order of positions: by lines, and on one line by columns. -/
def Position.Before (a b : Position) : Prop := a.line < b.line ∨ a.line = b.line ∧ a.column < b.column

instance (a b : Position) : Decidable (a.Before b) := inferInstanceAs (Decidable (_ ∨ _ ∧ _))

/-- Behind more characters of a text, more lines have ended or more of the last one has passed. -/
theorem count_lt_or_lastLine_lt (some : between ≠ []) (front : List Char) :
    front.count '\n' < (front ++ between).count '\n' ∨
      front.count '\n' = (front ++ between).count '\n' ∧
        (lastLine front).length < (lastLine (front ++ between)).length := by
  rw [List.count_append]
  by_cases feeds : '\n' ∈ between
  · exact .inl (Nat.lt_add_of_pos_right (List.count_pos_iff.mpr feeds))
  · refine .inr ⟨by rw [List.count_eq_zero.mpr feeds, Nat.add_zero], ?_⟩
    rw [lastLine_append_of_oneLine feeds, List.length_append]
    exact Nat.lt_add_of_pos_right (List.length_pos_iff.mpr some)

variable {content : String}

theorem before_of_lineColumn (small : content.utf8ByteSize < 2 ^ 32) {a b : Nat}
    (first : String.Pos.Raw.IsValid content ⟨a⟩) (second : String.Pos.Raw.IsValid content ⟨b⟩) (earlier : a < b)
    {here there : Position} (atFirst : lineColumn content a = .ok here) (atSecond : lineColumn content b = .ok there) :
    here.Before there := by
  obtain ⟨front, back, split, rfl⟩ := isValid_iff.mp first
  obtain ⟨longer, rest, split', rfl⟩ := isValid_iff.mp second
  obtain ⟨between, rfl⟩ : front <+: longer := by
    refine List.prefix_of_prefix_length_le ⟨back, split.symm⟩ ⟨rest, split'.symm⟩ ?_
    exact length_le_of_textSize_le ⟨back, split.symm⟩ ⟨rest, split'.symm⟩ earlier.le
  have some : between ≠ [] := by
    rintro rfl
    simp at earlier
  obtain ⟨line, column⟩ := (lineColumn_eq_ok_iff split small).mp atFirst
  obtain ⟨line', column'⟩ := (lineColumn_eq_ok_iff split' small).mp atSecond
  rw [Position.Before, UInt32.lt_iff_toNat_lt, ← UInt32.toNat_inj, UInt32.lt_iff_toNat_lt, line, column, line', column']
  have := count_lt_or_lastLine_lt some front
  omega

/-! ## Items and what becomes of them -/

section Related

variable {α β : Type} {r : α → β → Prop} {items : List α} {results : List β}

theorem exists_of_mem_results (related : List.Forall₂ r items results) {result : β} (member : result ∈ results) :
    ∃ item ∈ items, r item result := by
  induction related with
  | nil => cases member
  | cons here _ inductionHypothesis =>
    rcases List.mem_cons.mp member with rfl | later
    · exact ⟨_, List.mem_cons_self, here⟩
    · obtain ⟨item, isItem, becomes⟩ := inductionHypothesis later
      exact ⟨item, List.mem_cons_of_mem _ isItem, becomes⟩

theorem pairwise_results {R : α → α → Prop} {S : β → β → Prop} (related : List.Forall₂ r items results)
    (ordered : items.Pairwise R) (carried : ∀ a b u v, R a b → r a u → r b v → S u v) : results.Pairwise S := by
  induction related with
  | nil => exact .nil
  | cons here later inductionHypothesis =>
    obtain ⟨first, rest⟩ := List.pairwise_cons.mp ordered
    refine List.pairwise_cons.mpr ⟨fun result member => ?_, inductionHypothesis rest⟩
    obtain ⟨item, isItem, becomes⟩ := exists_of_mem_results later member
    exact carried _ _ _ _ (first item isItem) here becomes

end Related

/-! ## The place without a position -/

/-- The end of a content of 2 ^ 32 - 1 characters that are all line feeds or none. -/
def Overflowing (content : String) (place : content.Pos) : Prop :=
  place = content.endPos ∧ content.toList.length + 1 = 2 ^ 32 ∧
    ((∀ c ∈ content.toList, c = '\n') ∨ '\n' ∉ content.toList)

theorem eq_endPos_iff {place : content.Pos} (split : content.toList = front ++ back)
    (offset : place.offset.byteIdx = textSize front) : place = content.endPos ↔ back = [] := by
  have whole : content.utf8ByteSize = textSize front + textSize back := by
    rw [utf8ByteSize_eq_textSize, split, textSize_append]
  constructor
  · rintro rfl
    by_contra more
    have behind := textSize_pos more
    have last : content.endPos.offset.byteIdx = content.utf8ByteSize := by simp
    omega
  · rintro rfl
    by_contra inside
    have before := place.byteIdx_lt_utf8ByteSize inside
    rw [textSize_nil] at whole
    omega

theorem overflowing_iff (small : content.utf8ByteSize < 2 ^ 32) {place : content.Pos}
    (split : content.toList = front ++ back) (offset : place.offset.byteIdx = textSize front) :
    Overflowing content place ↔ front.count '\n' + 1 = 2 ^ 32 ∨ (lastLine front).length + 1 = 2 ^ 32 := by
  rw [Overflowing, eq_endPos_iff split offset]
  constructor
  · rintro ⟨rfl, length, feeds | none⟩
    · left
      rw [split, List.append_nil] at feeds length
      rw [List.count_eq_length.mpr fun c member => (feeds c member).symm, length]
    · right
      rw [split, List.append_nil] at none length
      rw [lastLine_eq_self none, length]
  · intro last
    have size : content.toList.length ≤ content.utf8ByteSize := length_le_size (List.append_nil _).symm
    have lengths : content.toList.length = front.length + back.length := by rw [split, List.length_append]
    have ends : front.count '\n' ≤ front.length := List.count_le_length
    have own := lastLine_isSuffix front
    have ownLength := own.length_le
    -- so many line feeds, or characters of one line, leave room for nothing else
    have none : back = [] := List.length_eq_zero_iff.mp (by omega)
    subst none
    rw [List.append_nil] at split
    refine ⟨rfl, by omega, ?_⟩
    rw [split]
    rcases last with many | long
    · exact .inl fun c member => (List.count_eq_length.mp (by omega) c member).symm
    · exact .inr (own.eq_of_length (by omega) ▸ not_mem_lastLine front)

namespace Pattern

variable {pattern : Pattern} {texts : List (List Char)}

theorem exists_front_of_mem (plain : pattern.texts? = some texts) (nonempty : [] ∉ texts) {span : Span}
    (member : span ∈ pattern.findAll content) :
    ∃ front found back, content.toList = front ++ (found ++ back) ∧ found ∈ texts ∧
      span = ⟨textSize front, textSize (front ++ found)⟩ := by
  obtain ⟨front, found, back, _, _, split, earliest, rfl⟩ :=
    (search_earliest plain nonempty content.toList).exists_of_mem member
  exact ⟨front, found, back, by rw [split, List.append_assoc], earliest.member, by simp⟩

/-- What is located stands where its position says. -/
theorem isPrefix_textFrom (plain : pattern.texts? = some texts) (nonempty : [] ∉ texts)
    (small : content.utf8ByteSize < 2 ^ 32) {span : Span} {located : Located}
    (member : span ∈ pattern.findAll content) (here : locate content span = .ok located) :
    located.text.toList ∈ texts ∧ located.text.toList <+: located.position.textFrom content.toList := by
  obtain ⟨front, found, back, split, isLiteral, rfl⟩ := exists_front_of_mem plain nonempty member
  obtain ⟨position, text⟩ := locate_eq_ok_iff.mp here
  have found_eq : located.text.toList = found := by
    rw [text, String.toList_ofList, split, ← List.append_assoc, Span.slice_append]
  rw [found_eq, textFrom_of_lineColumn split small position]
  exact ⟨isLiteral, List.prefix_append found back⟩

theorem pairwise_locateAll (plain : pattern.texts? = some texts) (nonempty : [] ∉ texts)
    (small : content.utf8ByteSize < 2 ^ 32) {all : List Located} (located : pattern.locateAll content = .ok all) :
    (all.map (·.position)).Pairwise Position.Before := by
  rw [List.pairwise_map]
  have disjoint := (byteSearch plain nonempty content).disjoint (nil_not_mem_map_encode nonempty)
  refine pairwise_results (mapM_eq_ok_iff.mp located) (List.Pairwise.and_mem.mp disjoint) fun a b _ _ order here there => ?_
  obtain ⟨first, second, earlier, -⟩ := order
  exact before_of_lineColumn small (isMatch_of_mem plain nonempty first).start
    (isMatch_of_mem plain nonempty second).start earlier (locate_eq_ok_iff.mp here).1 (locate_eq_ok_iff.mp there).1

end Pattern

end PluginAudit
