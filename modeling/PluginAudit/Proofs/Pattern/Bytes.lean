import Mathlib.Data.Finset.Max
import PluginAudit.Proofs.Pattern.Agreement
import PluginAudit.Proofs.Text.Boundaries

/-!
# Literals among bytes

A literal is looked for among the bytes of a text, which know nothing of characters.  What is
found there does not overlap, and nothing is missed that lies apart from it.  As the bytes of
a literal stand only where the literal does, this is what searching the text finds, and every
match starts and stops between two characters.
-/

namespace PluginAudit

open PluginAudit.Text
open PluginAudit.Text.Utf8

/-! ## Searching bytes -/

/-- The first needle that ends in some bytes; of several that end together, the longest. -/
structure EndsFirst (needles : List (List UInt8)) (skipped found : List UInt8) : Prop where
  member : found ∈ needles
  noneBefore : ∀ other ∈ needles, ¬ other <:+: (skipped ++ found).dropLast
  longest : ∀ other ∈ needles, other <:+ skipped ++ found → other.length ≤ found.length

/-- The spans of one needle after another among bytes, each looked for behind the one before. -/
inductive ByteSearch (needles : List (List UInt8)) : Nat → List UInt8 → List Span → Prop
  | done {offset bytes} : (∀ needle ∈ needles, ¬ needle <:+: bytes) → ByteSearch needles offset bytes []
  | found {offset skipped found rest spans} : EndsFirst needles skipped found →
      ByteSearch needles (offset + (skipped ++ found).length) rest spans →
      ByteSearch needles offset (skipped ++ found ++ rest)
        (⟨offset + skipped.length, offset + (skipped ++ found).length⟩ :: spans)

namespace ByteSearch

variable {needles : List (List UInt8)} {bytes needle before behind : List UInt8} {offset : Nat} {spans : List Span}
  {span : Span}

/-- What a span stands for. -/
theorem exists_of_mem (search : ByteSearch needles offset bytes spans) (member : span ∈ spans) :
    ∃ before found behind, bytes = before ++ found ++ behind ∧ found ∈ needles ∧
      span = ⟨offset + before.length, offset + (before ++ found).length⟩ := by
  induction search with
  | done => cases member
  | @found offset skipped found rest spans endsFirst _ inductionHypothesis =>
    rcases List.mem_cons.mp member with rfl | later
    · exact ⟨skipped, found, rest, rfl, endsFirst.member, rfl⟩
    · obtain ⟨before, other, behind, split, isNeedle, rfl⟩ := inductionHypothesis later
      refine ⟨skipped ++ found ++ before, other, behind, by rw [split]; simp, isNeedle, ?_⟩
      simp only [List.length_append, Span.mk.injEq]
      omega

theorem disjoint (search : ByteSearch needles offset bytes spans) (nonempty : [] ∉ needles) :
    spans.Pairwise fun a b => a.start < b.start ∧ a.stop ≤ b.start := by
  induction search with
  | done => exact .nil
  | @found offset skipped found rest spans endsFirst later inductionHypothesis =>
    refine List.pairwise_cons.mpr ⟨fun other member => ?_, inductionHypothesis⟩
    obtain ⟨before, -, -, -, -, rfl⟩ := later.exists_of_mem member
    have positive : 0 < found.length :=
      List.length_pos_iff.mpr fun isEmpty => nonempty (isEmpty ▸ endsFirst.member)
    simp only [List.length_append]
    omega

/-- Where a needle stands, some span is met. -/
theorem exists_overlapping (search : ByteSearch needles offset bytes spans) (nonempty : [] ∉ needles)
    (member : needle ∈ needles) (split : bytes = before ++ needle ++ behind) :
    ∃ span ∈ spans, span.start < offset + (before ++ needle).length ∧ offset + before.length < span.stop := by
  induction search generalizing before with
  | done none => exact absurd ⟨before, behind, split.symm⟩ (none needle member)
  | @found offset skipped found rest spans endsFirst _ inductionHypothesis =>
    by_cases passed : (skipped ++ found).length ≤ before.length
    · -- the needle stands behind the first span
      have isPrefix : skipped ++ found <+: before :=
        List.prefix_of_prefix_length_le ⟨rest, rfl⟩ ⟨needle ++ behind, by rw [split, List.append_assoc]⟩ passed
      obtain ⟨more, rfl⟩ := isPrefix
      simp only [List.append_assoc, List.append_cancel_left_eq] at split
      rw [← List.append_assoc] at split
      obtain ⟨span, isFound, starts, stops⟩ := inductionHypothesis split
      refine ⟨span, List.mem_cons_of_mem _ isFound, ?_, ?_⟩
      all_goals
        simp only [List.length_append] at starts stops ⊢
        omega
    · refine ⟨_, List.mem_cons_self, ?_, by dsimp only; omega⟩
      by_contra ended
      -- otherwise the needle would stand in what was passed over
      have isPrefix : before ++ needle <+: skipped := by
        refine List.prefix_of_prefix_length_le ⟨behind, split.symm⟩ ?_ (by dsimp only at ended; omega)
        rw [List.append_assoc]
        exact List.prefix_append _ _
      have foundNonempty : found ≠ [] := fun isEmpty => nonempty (isEmpty ▸ endsFirst.member)
      refine endsFirst.noneBefore needle member ?_
      rw [List.dropLast_append_of_ne_nil foundNonempty]
      exact ((List.suffix_append before needle).isInfix.trans isPrefix.isInfix).trans
        (List.prefix_append skipped _).isInfix

end ByteSearch

/-! ## Bytes and characters -/

variable {texts : List (List Char)} {text skipped found rest : List Char} {offset : Nat} {spans : List Span}

/-- Of the literals that a text ends with one is the longest. -/
theorem exists_longest (member : found ∈ texts) (ends : found <:+ text) :
    ∃ longest ∈ texts, longest <:+ text ∧ ∀ other ∈ texts, other <:+ text → other.length ≤ longest.length := by
  have some : (texts.toFinset.filter (· <:+ text)).Nonempty := ⟨found, by simp [member, ends]⟩
  obtain ⟨longest, isMember, larger⟩ := Finset.exists_max_image _ List.length some
  simp only [Finset.mem_filter, List.mem_toFinset] at isMember larger
  exact ⟨longest, isMember.1, isMember.2, fun other otherMember otherEnds => larger other ⟨otherMember, otherEnds⟩⟩

/-- Where a literal stands in a text, there is a first one that ends. -/
theorem exists_earliest (nonempty : [] ∉ texts) (member : found ∈ texts) (isInfix : found <:+: text) :
    ∃ skipped found rest, text = skipped ++ found ++ rest ∧ Earliest texts skipped found rest := by
  induction text using List.reverseRecOn generalizing found with
  | nil => exact absurd (List.infix_nil.mp isInfix ▸ member) nonempty
  | append_singleton front c inductionHypothesis =>
    by_cases earlier : ∃ other ∈ texts, other <:+: front
    · obtain ⟨other, otherMember, within⟩ := earlier
      obtain ⟨skipped, found, rest, rfl, earliest⟩ := inductionHypothesis otherMember within
      exact ⟨skipped, found, rest ++ [c], by simp, earliest.member, earliest.noneBefore, earliest.longest⟩
    · simp only [not_exists, not_and] at earlier
      have ends : found <:+ front ++ [c] := (List.infix_concat_iff.mp isInfix).resolve_right (earlier found member)
      obtain ⟨longest, isMember, ⟨skipped, split⟩, larger⟩ := exists_longest member ends
      refine ⟨skipped, longest, [], by rw [split, List.append_nil], isMember, ?_, ?_⟩
      · rw [split, List.dropLast_concat]
        exact earlier
      · rw [split]
        exact larger

theorem Earliest.endsFirst (nonempty : [] ∉ texts) (earliest : Earliest texts skipped found rest) :
    EndsFirst (texts.map encode) (encode skipped) (encode found) := by
  have filled {literal : List Char} (member : literal ∈ texts) : literal ≠ [] :=
    fun isEmpty => nonempty (isEmpty ▸ member)
  refine ⟨List.mem_map_of_mem earliest.member, ?_, ?_⟩
  · rw [List.forall_mem_map, ← encode_append]
    intro other member isInfix
    -- what ends before the last byte ends before the last character
    obtain ⟨before, behind, split⟩ := isInfix
    have bytesFilled : encode (skipped ++ found) ≠ [] := encode_ne_nil (by simp [filled earliest.member])
    have whole := List.dropLast_append_getLast bytesFilled
    rw [← split, List.append_assoc] at whole
    obtain ⟨front, back, text, -, ending⟩ := exists_split_of_encode (filled member) whole.symm
    have more : back ≠ [] := by
      rintro rfl
      simp [encode] at ending
    refine earliest.noneBefore other member ⟨front, back.dropLast, ?_⟩
    rw [text, List.dropLast_append_of_ne_nil more]
  · rw [List.forall_mem_map, ← encode_append]
    intro other member ends
    have textEnds := suffix_of_encode (filled member) ends
    have shorter : other <:+ found :=
      List.suffix_of_suffix_length_le textEnds (List.suffix_append _ _) (earliest.longest other member textEnds)
    obtain ⟨front, rfl⟩ := shorter
    rw [encode_append, List.length_append]
    exact Nat.le_add_left _ _

/-- What searching a text finds is what searching its bytes finds. -/
theorem Search.encoded (nonempty : [] ∉ texts) (search : Search (Earliest texts) offset text spans) :
    ByteSearch (texts.map encode) offset (encode text) spans := by
  induction search with
  | done none =>
    refine .done (List.forall_mem_map.mpr fun literal member isInfix => ?_)
    have within := infix_of_encode (fun isEmpty => nonempty (isEmpty ▸ member)) isInfix
    obtain ⟨skipped, found, rest, split, earliest⟩ := exists_earliest nonempty member within
    exact none skipped found rest split earliest
  | found earliest _ inductionHypothesis =>
    rw [← length_encode, encode_append] at inductionHypothesis
    have here := ByteSearch.found (earliest.endsFirst nonempty) inductionHypothesis
    rwa [← encode_append, ← encode_append, length_encode, length_encode] at here

/-! ## Matches of literals -/

/-- A span between two boundaries of characters that has one of some literals as its text. -/
structure IsMatch (texts : List (List Char)) (content : String) (span : Span) : Prop where
  start : String.Pos.Raw.IsValid content ⟨span.start⟩
  stop : String.Pos.Raw.IsValid content ⟨span.stop⟩
  filled : span.start < span.stop
  literal : span.slice content.toList ∈ texts
  bytes : ((encode content.toList).drop span.start).take (span.stop - span.start) =
    encode (span.slice content.toList)

theorem IsMatch.of_split {content : String} (member : found ∈ texts) (some : found ≠ [])
    (split : content.toList = skipped ++ found ++ rest) :
    IsMatch texts content ⟨textSize skipped, textSize (skipped ++ found)⟩ where
  start := isValid_iff.mpr ⟨skipped, found ++ rest, by rw [split, List.append_assoc], rfl⟩
  stop := isValid_iff.mpr ⟨skipped ++ found, rest, split, rfl⟩
  filled := by
    have := textSize_pos some
    rw [textSize_append]
    dsimp only
    omega
  literal := by rwa [split, Span.slice_append]
  bytes := by
    have size : textSize (skipped ++ found) - textSize skipped = (encode found).length := by
      rw [textSize_append, Nat.add_sub_cancel_left, length_encode]
    rw [split, Span.slice_append, List.append_assoc, encode_append, encode_append, size]
    dsimp only
    rw [← length_encode skipped, List.drop_left, List.take_left]

namespace Pattern

variable {pattern : Pattern} {content : String}

theorem byteSearch (plain : pattern.texts? = some texts) (nonempty : [] ∉ texts) (content : String) :
    ByteSearch (texts.map encode) 0 (encode content.toList) (pattern.findAll content) :=
  (search_earliest plain nonempty content.toList).encoded nonempty

theorem isMatch_iff : pattern.isMatch content ↔ pattern.findAll content ≠ [] := by
  simp [isMatch]

theorem nil_not_mem_map_encode (nonempty : [] ∉ texts) : [] ∉ texts.map encode := by
  intro member
  obtain ⟨literal, isLiteral, none⟩ := List.mem_map.mp member
  exact encode_ne_nil (fun isEmpty => nonempty (isEmpty ▸ isLiteral)) none

theorem isMatch_of_mem (plain : pattern.texts? = some texts) (nonempty : [] ∉ texts) {span : Span}
    (member : span ∈ pattern.findAll content) : IsMatch texts content span := by
  obtain ⟨before, found, behind, split, isNeedle, rfl⟩ := (byteSearch plain nonempty content).exists_of_mem member
  obtain ⟨literal, isLiteral, rfl⟩ := List.mem_map.mp isNeedle
  have filled : literal ≠ [] := fun isEmpty => nonempty (isEmpty ▸ isLiteral)
  obtain ⟨front, back, text, rfl, -⟩ := exists_split_of_encode filled split
  rw [← encode_append, length_encode, length_encode, Nat.zero_add, Nat.zero_add]
  exact .of_split isLiteral filled text

/-- Where the bytes of a literal stand, some span is met. -/
theorem exists_overlapping (plain : pattern.texts? = some texts) (nonempty : [] ∉ texts) {literal : List Char}
    (member : literal ∈ texts) {offset : Nat} (stands : encode literal <+: (encode content.toList).drop offset) :
    ∃ span ∈ pattern.findAll content, span.start < offset + (encode literal).length ∧ offset < span.stop := by
  have needles := nil_not_mem_map_encode nonempty
  have isNeedle := List.mem_map_of_mem (f := encode) member
  obtain ⟨behind, split⟩ := stands
  have inside : offset ≤ (encode content.toList).length := by
    by_contra outside
    rw [List.drop_of_length_le (by omega), List.append_eq_nil_iff] at split
    exact needles (split.1 ▸ isNeedle)
  have whole : encode content.toList = (encode content.toList).take offset ++ encode literal ++ behind := by
    rw [List.append_assoc, split, List.take_append_drop]
  have overlap := (byteSearch plain nonempty content).exists_overlapping needles isNeedle whole
  rwa [List.length_append, List.length_take_of_le inside, Nat.zero_add, Nat.zero_add] at overlap

theorem isMatch_iff_occurs (plain : pattern.texts? = some texts) (nonempty : [] ∉ texts) :
    pattern.isMatch content ↔ ∃ literal ∈ texts, encode literal <:+: encode content.toList := by
  rw [isMatch_iff]
  constructor
  · intro some
    obtain ⟨span, isFound⟩ := List.exists_mem_of_ne_nil _ some
    obtain ⟨before, found, behind, split, isNeedle, -⟩ := (byteSearch plain nonempty content).exists_of_mem isFound
    obtain ⟨literal, member, rfl⟩ := List.mem_map.mp isNeedle
    exact ⟨literal, member, before, behind, split.symm⟩
  · rintro ⟨literal, member, before, behind, split⟩
    have stands : encode literal <+: (encode content.toList).drop before.length := by
      rw [← split, List.append_assoc, List.drop_left]
      exact List.prefix_append _ _
    obtain ⟨span, isFound, -⟩ := exists_overlapping plain nonempty member stands
    exact List.ne_nil_of_mem isFound

/-- What is found of literals is what searching the bytes for theirs finds.  The spans do not
overlap, each has a literal as its text and no end of it within a character; wherever the
bytes of a literal stand, they meet some span, so there is one exactly if they stand
anywhere. -/
theorem findAll_complete (plain : pattern.texts? = some texts) (nonempty : [] ∉ texts) (content : String) :
    ByteSearch (texts.map encode) 0 (encode content.toList) (pattern.findAll content) ∧
      ((pattern.findAll content).Pairwise fun a b => a.start < b.start ∧ a.stop ≤ b.start) ∧
      (∀ span ∈ pattern.findAll content, IsMatch texts content span) ∧
      (∀ literal ∈ texts, ∀ offset, encode literal <+: (encode content.toList).drop offset →
        ∃ span ∈ pattern.findAll content, span.start < offset + (encode literal).length ∧ offset < span.stop) ∧
      (pattern.isMatch content ↔ pattern.findAll content ≠ []) ∧
      (pattern.isMatch content ↔ ∃ literal ∈ texts, encode literal <:+: encode content.toList) := by
  have search := byteSearch plain nonempty content
  refine ⟨search, search.disjoint (nil_not_mem_map_encode nonempty), fun span => isMatch_of_mem plain nonempty,
    fun literal member offset => exists_overlapping plain nonempty member, isMatch_iff,
    isMatch_iff_occurs plain nonempty⟩

/-- A literal that begins within a match is not found, and its bytes meet that match. -/
theorem findAll_complete_accents :
    (literals ["aé".toList, "éa".toList]).findAll "éaéa" = [⟨0, 3⟩, ⟨3, 6⟩] ∧
      (∀ span ∈ (literals ["aé".toList, "éa".toList]).findAll "éaéa",
        IsMatch ["aé".toList, "éa".toList] "éaéa" span) ∧
      ∃ span ∈ (literals ["aé".toList, "éa".toList]).findAll "éaéa", span.start < 5 ∧ 2 < span.stop := by
  have plain : (literals ["aé".toList, "éa".toList]).texts? = some ["aé".toList, "éa".toList] := rfl
  obtain ⟨-, -, found, meets, -⟩ := findAll_complete plain (by decide) "éaéa"
  exact ⟨by decide +kernel, found, meets "aé".toList (by decide) 2 (by decide +kernel)⟩

end Pattern

end PluginAudit
