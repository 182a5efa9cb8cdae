import Mathlib.Data.List.Infix
import PluginAudit.Pattern.Literals
import PluginAudit.Proofs.Text.Slicing

/-!
# What searching finds

A search finds one match after another.  Which one is next is said by a relation
between what is passed over, what is found and what is left, apart from the scanners
that go through a text character by character: `Leftmost` for the match that starts
first, and `Earliest` for the one that ends first.
-/

namespace PluginAudit

open PluginAudit.Text

/-! ## Sizes -/

theorem textSize_foldl (text : List Char) (n : Nat) :
    text.foldl (fun n c => n + c.utf8Size) n = n + textSize text := by
  induction text generalizing n with
  | nil => rfl
  | cons c cs inductionHypothesis =>
    rw [textSize, List.foldl_cons, List.foldl_cons, inductionHypothesis, inductionHypothesis]
    omega

theorem textSize_cons (c : Char) (cs : List Char) : textSize (c :: cs) = c.utf8Size + textSize cs := by
  rw [textSize, List.foldl_cons, textSize_foldl, Nat.zero_add]

@[simp] theorem textSize_nil : textSize [] = 0 := rfl

@[simp] theorem textSize_append (front back : List Char) :
    textSize (front ++ back) = textSize front + textSize back := by
  induction front with
  | nil => simp
  | cons c cs inductionHypothesis =>
    simp only [List.cons_append, textSize_cons, inductionHypothesis]
    omega

@[simp] theorem textSize_reverse (text : List Char) : textSize text.reverse = textSize text := by
  induction text with
  | nil => rfl
  | cons c cs inductionHypothesis =>
    simp only [List.reverse_cons, textSize_append, textSize_cons, textSize_nil, inductionHypothesis]
    omega

theorem textSize_pos {text : List Char} (nonempty : text ≠ []) : 0 < textSize text := by
  cases text with
  | nil => exact absurd rfl nonempty
  | cons c cs =>
    rw [textSize_cons]
    have := c.utf8Size_pos
    omega

theorem dropBytes_append (front back : List Char) : dropBytes (textSize front) (front ++ back) = back := by
  induction front with
  | nil => cases back <;> rfl
  | cons c cs inductionHypothesis =>
    have moved : textSize (c :: cs) ≠ 0 := (textSize_pos (List.cons_ne_nil c cs)).ne'
    have others : textSize (c :: cs) - c.utf8Size = textSize cs := by
      rw [textSize_cons, Nat.add_sub_cancel_left]
    simp [dropBytes, moved, others, inductionHypothesis]

theorem takeBytes_append (front back : List Char) : takeBytes (textSize front) (front ++ back) = front := by
  induction front with
  | nil => cases back <;> rfl
  | cons c cs inductionHypothesis =>
    have moved : textSize (c :: cs) ≠ 0 := (textSize_pos (List.cons_ne_nil c cs)).ne'
    have others : textSize (c :: cs) - c.utf8Size = textSize cs := by
      rw [textSize_cons, Nat.add_sub_cancel_left]
    simp [takeBytes, moved, others, inductionHypothesis]

/-- The span of a part of a text has that part as its text. -/
theorem Span.slice_append (front middle back : List Char) :
    Span.slice ⟨textSize front, textSize (front ++ middle)⟩ (front ++ middle ++ back) = middle := by
  rw [slice, List.append_assoc, dropBytes_append, textSize_append, Nat.add_sub_cancel_left,
    takeBytes_append]

/-- Of two prefixes of one text the longer one takes more bytes. -/
theorem length_le_of_textSize_le {a b text : List Char} (first : a <+: text) (second : b <+: text)
    (smaller : textSize a ≤ textSize b) : a.length ≤ b.length := by
  by_contra longer
  obtain ⟨rest, rfl⟩ := List.prefix_of_prefix_length_le second first (by omega)
  have : 0 < textSize rest := textSize_pos (by rintro rfl; simp at longer)
  simp only [textSize_append] at smaller
  omega

/-! ## Searches -/

/-- The spans of one match after another.  `finds` says what is found next. -/
inductive Search (finds : List Char → List Char → List Char → Prop) :
    Nat → List Char → List Span → Prop
  | done {offset text} : (∀ skipped found rest, text = skipped ++ found ++ rest → ¬ finds skipped found rest) →
      Search finds offset text []
  | found {offset skipped found rest spans} : finds skipped found rest →
      Search finds (offset + textSize (skipped ++ found)) rest spans →
      Search finds offset (skipped ++ found ++ rest)
        (⟨offset + textSize skipped, offset + textSize (skipped ++ found)⟩ :: spans)

/-- What is found next depends on the text alone. -/
def Determined (finds : List Char → List Char → List Char → Prop) : Prop :=
  ∀ {skipped found rest skipped' found' rest'}, finds skipped found rest → finds skipped' found' rest' →
    skipped ++ found ++ rest = skipped' ++ found' ++ rest' → skipped = skipped' ∧ found = found' ∧ rest = rest'

/-- The first match that starts in a text; of several that start together, the one
that is listed first. -/
structure Leftmost (texts : List (List Char)) (skipped found rest : List Char) : Prop where
  first : texts.find? (·.isPrefixOf (found ++ rest)) = some found
  noneBefore : ∀ other ∈ texts, ∀ tail, tail <:+ skipped → tail ≠ [] →
    ¬ other <+: tail ++ (found ++ rest)

/-- The first match that ends in a text; of several that end together, the longest. -/
structure Earliest (texts : List (List Char)) (skipped found rest : List Char) : Prop where
  member : found ∈ texts
  noneBefore : ∀ other ∈ texts, ¬ other <:+: (skipped ++ found).dropLast
  longest : ∀ other ∈ texts, other <:+ skipped ++ found → other.length ≤ found.length

variable {texts : List (List Char)} {text skipped found rest : List Char}

theorem find?_isPrefixOf_eq_none :
    texts.find? (·.isPrefixOf text) = none ↔ ∀ other ∈ texts, ¬ other <+: text := by
  simp [List.find?_eq_none, ← List.isPrefixOf_iff_prefix]

theorem prefix_of_find? (first : texts.find? (·.isPrefixOf text) = some found) : found <+: text :=
  List.isPrefixOf_iff_prefix.mp (by simpa using List.find?_some first)

namespace Leftmost

theorem atStart (first : texts.find? (·.isPrefixOf (found ++ rest)) = some found) :
    Leftmost texts [] found rest :=
  ⟨first, fun _ _ _ suffix nonempty => absurd (List.suffix_nil.mp suffix) nonempty⟩

theorem member (leftmost : Leftmost texts skipped found rest) : found ∈ texts :=
  List.mem_of_find?_eq_some leftmost.first

/-- A match that stands somewhere does not start before the first one. -/
theorem length_le (leftmost : Leftmost texts skipped found rest) {skipped' found' rest' : List Char}
    (member : found' ∈ texts) (same : skipped ++ found ++ rest = skipped' ++ found' ++ rest') :
    skipped.length ≤ skipped'.length := by
  by_contra shorter
  have here : skipped <+: skipped ++ found ++ rest := by
    rw [List.append_assoc]
    exact List.prefix_append _ _
  have there : skipped' <+: skipped ++ found ++ rest := by
    rw [same, List.append_assoc]
    exact List.prefix_append _ _
  obtain ⟨tail, rfl⟩ := List.prefix_of_prefix_length_le there here (by omega)
  refine leftmost.noneBefore found' member tail (List.suffix_append _ _) ?_ ?_
  · rintro rfl
    simp at shorter
  · simp only [List.append_assoc, List.append_cancel_left_eq] at same
    exact ⟨rest', same.symm⟩

theorem determined (texts : List (List Char)) : Determined (Leftmost texts) := by
  intro skipped found rest skipped' found' rest' leftmost other same
  have here := leftmost.length_le other.member same
  have there := other.length_le leftmost.member same.symm
  obtain ⟨rfl, behind⟩ : skipped = skipped' ∧ found ++ rest = found' ++ rest' := by
    simp only [List.append_assoc] at same
    exact List.append_inj same (by omega)
  have first := leftmost.first
  rw [behind, other.first] at first
  obtain rfl := Option.some.inj first
  exact ⟨rfl, rfl, List.append_cancel_left behind⟩

end Leftmost

namespace Earliest

theorem length_le (earliest : Earliest texts skipped found rest) {skipped' found' rest' : List Char}
    (member : found' ∈ texts) (same : skipped ++ found ++ rest = skipped' ++ found' ++ rest') :
    (skipped ++ found).length ≤ (skipped' ++ found').length := by
  by_contra shorter
  have here : (skipped ++ found).dropLast <+: skipped ++ found ++ rest :=
    (List.dropLast_prefix _).trans (List.prefix_append _ _)
  have there : skipped' ++ found' <+: skipped ++ found ++ rest := by
    rw [same]
    exact List.prefix_append _ _
  have front : skipped' ++ found' <+: (skipped ++ found).dropLast := by
    refine List.prefix_of_prefix_length_le there here ?_
    rw [List.length_dropLast]
    omega
  exact earliest.noneBefore found' member ((List.suffix_append _ _).isInfix.trans front.isInfix)

theorem determined (texts : List (List Char)) : Determined (Earliest texts) := by
  intro skipped found rest skipped' found' rest' earliest other same
  have here := earliest.length_le other.member same
  have there := other.length_le earliest.member same.symm
  obtain ⟨front, rfl⟩ := List.append_inj same (by omega)
  have shorter := other.longest found earliest.member (front ▸ List.suffix_append _ _)
  have longer := earliest.longest found' other.member (front ▸ List.suffix_append _ _)
  obtain ⟨rfl, rfl⟩ := List.append_inj' front (by omega)
  exact ⟨rfl, rfl, rfl⟩

end Earliest

/-! ## Trying every place -/

namespace Cursor

/-- The place behind the first of several literals that stands at a place. -/
def behindFirst? (texts : List (List Char)) (here : Cursor) : Option Cursor :=
  texts.findSome? (behindLiteral? · here)

theorem behindLiteral?_append (literal : List Char) (before : Option Char) (rest : List Char)
    (offset : Nat) :
    ∃ last, behindLiteral? literal ⟨before, literal ++ rest, offset⟩ =
      some ⟨last, rest, offset + textSize literal⟩ := by
  induction literal generalizing before offset with
  | nil => exact ⟨before, rfl⟩
  | cons c cs inductionHypothesis =>
    obtain ⟨last, found⟩ := inductionHypothesis (some c) (offset + c.utf8Size)
    refine ⟨last, ?_⟩
    simp only [List.cons_append, behindLiteral?, beq_self_eq_true, if_true, behind, found, textSize_cons]
    congr 2
    omega

theorem behindLiteral?_eq_none {literal : List Char} {here : Cursor} :
    behindLiteral? literal here = none ↔ ¬ literal <+: here.rest := by
  induction literal generalizing here with
  | nil => simp [behindLiteral?]
  | cons l ls inductionHypothesis =>
    obtain ⟨before, rest, offset⟩ := here
    cases rest with
    | nil => simp [behindLiteral?]
    | cons c cs =>
      by_cases same : l = c
      · simp [behindLiteral?, same, behind, inductionHypothesis]
      · simp [behindLiteral?, same]

theorem behindFirst?_eq_none {here : Cursor} :
    behindFirst? texts here = none ↔ ∀ other ∈ texts, ¬ other <+: here.rest := by
  simp [behindFirst?, List.findSome?_eq_none_iff, behindLiteral?_eq_none]

theorem exists_find_of_behindFirst? {here there : Cursor} (attempt : behindFirst? texts here = some there) :
    ∃ found rest, here.rest = found ++ rest ∧ texts.find? (·.isPrefixOf (found ++ rest)) = some found := by
  cases first : texts.find? (·.isPrefixOf here.rest) with
  | none =>
    have nothing := behindFirst?_eq_none.mpr (find?_isPrefixOf_eq_none.mp first)
    cases nothing.symm.trans attempt
  | some found =>
    obtain ⟨rest, split⟩ := prefix_of_find? first
    exact ⟨found, rest, split.symm, by rw [split, first]⟩

theorem behindFirst?_append (first : texts.find? (·.isPrefixOf (found ++ rest)) = some found)
    (before : Option Char) (offset : Nat) :
    ∃ last, behindFirst? texts ⟨before, found ++ rest, offset⟩ =
      some ⟨last, rest, offset + textSize found⟩ := by
  obtain ⟨-, front, back, rfl, notBefore⟩ := List.find?_eq_some_iff_append.mp first
  have passed : front.findSome? (behindLiteral? · ⟨before, found ++ rest, offset⟩) = none := by
    refine List.findSome?_eq_none_iff.mpr fun other member => behindLiteral?_eq_none.mpr ?_
    simpa [← List.isPrefixOf_iff_prefix] using notBefore other member
  obtain ⟨last, behind⟩ := behindLiteral?_append found before rest offset
  exact ⟨last, by simp [behindFirst?, List.findSome?_append, passed, behind]⟩

end Cursor

/-- Within the last match no other one is tried. -/
theorem spansFrom_within (attempt : Cursor → Option Cursor) (done : List Span) (front : List Char)
    (before : Option Char) (offset : Nat) (rest : List Char) :
    ∃ last, spansFrom attempt (some (offset + textSize front)) done before offset (front ++ rest) =
      spansFrom attempt (some (offset + textSize front)) done last (offset + textSize front) rest := by
  induction front generalizing before offset with
  | nil => exact ⟨before, rfl⟩
  | cons c cs inductionHypothesis =>
    obtain ⟨last, others⟩ := inductionHypothesis (some c) (offset + c.utf8Size)
    have within : offset < offset + textSize (c :: cs) :=
      Nat.lt_add_of_pos_right (textSize_pos (List.cons_ne_nil c cs))
    rw [Nat.add_assoc, ← textSize_cons] at others
    refine ⟨last, ?_⟩
    rw [← others, List.cons_append, spansFrom, spanAt?, Option.getD_some, if_pos within]

namespace Leftmost

/-- Where nothing stands at the start of a text, the first match is that of what is
behind its first character. -/
theorem passOver {c : Char} (leftmost : Leftmost texts skipped found rest)
    (nothing : ∀ other ∈ texts, ¬ other <+: c :: (skipped ++ found ++ rest)) :
    Leftmost texts (c :: skipped) found rest := by
  refine ⟨leftmost.first, fun other member tail suffix nonempty => ?_⟩
  rcases List.suffix_cons_iff.mp suffix with rfl | suffix
  · simpa using nothing other member
  · exact leftmost.noneBefore other member tail suffix nonempty

end Leftmost

/-- What stands somewhere in a text has a first match. -/
theorem exists_leftmost (member : found ∈ texts) (split : text = skipped ++ found ++ rest) :
    ∃ skipped found rest, text = skipped ++ found ++ rest ∧ Leftmost texts skipped found rest := by
  induction text generalizing skipped with
  | nil =>
    simp only [List.nil_eq, List.append_eq_nil_iff] at split
    obtain ⟨⟨rfl, rfl⟩, rfl⟩ := split
    obtain ⟨first, isFirst⟩ := Option.isSome_iff_exists.mp
      (List.find?_isSome.mpr ⟨[], member, rfl⟩ : (texts.find? (·.isPrefixOf [])).isSome)
    obtain rfl := List.prefix_nil.mp (prefix_of_find? isFirst)
    exact ⟨[], [], [], rfl, .atStart isFirst⟩
  | cons c cs inductionHypothesis =>
    cases first : texts.find? (·.isPrefixOf (c :: cs)) with
    | some here =>
      obtain ⟨rest, split⟩ := prefix_of_find? first
      exact ⟨[], here, rest, split.symm, .atStart (split ▸ first)⟩
    | none =>
      have nothing := find?_isPrefixOf_eq_none.mp first
      cases skipped with
      | nil => exact absurd ⟨rest, split.symm⟩ (nothing found member)
      | cons d skipped =>
        obtain ⟨rfl, behind⟩ := List.cons.inj split
        obtain ⟨skipped, found, rest, split, leftmost⟩ := inductionHypothesis behind
        exact ⟨c :: skipped, found, rest, congrArg (c :: ·) split, leftmost.passOver (split ▸ nothing)⟩

namespace Search

variable {finds : List Char → List Char → List Char → Prop} {offset : Nat} {spans spans' : List Span}

theorem unique (determined : Determined finds) (first : Search finds offset text spans)
    (second : Search finds offset text spans') : spans = spans' := by
  induction first generalizing spans' with
  | done none =>
    cases second with
    | done _ => rfl
    | found isFound _ => exact absurd isFound (none _ _ _ rfl)
  | @found offset skipped found rest spans isFound _ inductionHypothesis =>
    generalize same : skipped ++ found ++ rest = text at second
    cases second with
    | done none => exact absurd isFound (none _ _ _ same.symm)
    | found isFound' later =>
      obtain ⟨rfl, rfl, rfl⟩ := determined isFound isFound' same
      rw [inductionHypothesis later]

theorem head? (determined : Determined finds) (search : Search finds offset text spans)
    (split : text = skipped ++ found ++ rest) (isFound : finds skipped found rest) :
    spans.head? = some ⟨offset + textSize skipped, offset + textSize (skipped ++ found)⟩ := by
  cases search with
  | done none => exact absurd isFound (none _ _ _ split)
  | found isFound' _ =>
    obtain ⟨rfl, rfl, rfl⟩ := determined isFound' isFound split
    rfl

theorem exists_of_head? {span : Span} (search : Search finds offset text spans) (first : spans.head? = some span) :
    ∃ skipped found rest, text = skipped ++ found ++ rest ∧ finds skipped found rest ∧
      span = ⟨offset + textSize skipped, offset + textSize (skipped ++ found)⟩ := by
  cases search with
  | done none => cases first
  | found isFound _ => exact ⟨_, _, _, rfl, isFound, (Option.some.inj first).symm⟩

/-- Every span that is found stands for a part of the text that was found next at some point. -/
theorem exists_of_mem {span : Span} (search : Search finds offset text spans) (member : span ∈ spans) :
    ∃ skipped found rest front back, text = skipped ++ found ++ rest ∧ finds front found back ∧
      span = ⟨offset + textSize skipped, offset + textSize (skipped ++ found)⟩ := by
  induction search with
  | done => cases member
  | @found offset skipped found rest spans isFound _ inductionHypothesis =>
    rcases List.mem_cons.mp member with rfl | later
    · exact ⟨skipped, found, rest, _, _, rfl, isFound, rfl⟩
    · obtain ⟨passed, other, behind, front, back, rfl, otherFound, rfl⟩ := inductionHypothesis later
      refine ⟨skipped ++ found ++ passed, other, behind, front, back, by simp, otherFound, ?_⟩
      simp only [textSize_append, Span.mk.injEq]
      omega

/-- Where nothing stands at the start of a text, the search goes on behind its first
character. -/
theorem passOver {c : Char} (nothing : ∀ other ∈ texts, ¬ other <+: c :: text)
    (search : Search (Leftmost texts) (offset + c.utf8Size) text spans) :
    Search (Leftmost texts) offset (c :: text) spans := by
  cases search with
  | done none =>
    refine .done fun skipped found rest split leftmost => ?_
    obtain ⟨skipped, found, rest, behind, later⟩ : ∃ skipped found rest,
        text = skipped ++ found ++ rest ∧ Leftmost texts skipped found rest := by
      cases skipped with
      | nil => exact absurd ⟨rest, split.symm⟩ (nothing found leftmost.member)
      | cons d skipped => exact exists_leftmost leftmost.member (List.cons.inj split).2
    exact none skipped found rest behind later
  | @found _ skipped found rest spans leftmost later =>
    have shifted : offset + c.utf8Size + textSize (skipped ++ found) =
        offset + textSize (c :: skipped ++ found) := by
      rw [List.cons_append, textSize_cons]
      omega
    have start : offset + c.utf8Size + textSize skipped = offset + textSize (c :: skipped) := by
      rw [textSize_cons]
      omega
    rw [shifted] at later ⊢
    rw [start]
    have search := Search.found (leftmost.passOver nothing) later
    exact search

end Search

/-- Trying literals at every place is searching for the first that starts. -/
theorem spansFrom_behindFirst (nonempty : [] ∉ texts) (text : List Char) (lastStop : Option Nat)
    (done : List Span) (before : Option Char) (offset : Nat) (behind : lastStop.getD 0 ≤ offset) :
    ∃ spans, Search (Leftmost texts) offset text spans ∧
      spansFrom (Cursor.behindFirst? texts) lastStop done before offset text = done.reverse ++ spans := by
  -- a match takes several characters at once, so the induction is on how many are left
  induction size : text.length using Nat.strong_induction_on generalizing text lastStop done before offset with
  | _ n inductionHypothesis =>
    have free : ¬ offset < lastStop.getD 0 := by omega
    cases text with
    | nil =>
      have nothing : ∀ other ∈ texts, ¬ other <+: [] := by
        rintro other member prefix_
        exact nonempty (List.prefix_nil.mp prefix_ ▸ member)
      refine ⟨[], .done fun skipped found rest split leftmost => ?_, ?_⟩
      · simp only [List.nil_eq, List.append_eq_nil_iff] at split
        exact nonempty (split.1.2 ▸ leftmost.member)
      · have none : Cursor.behindFirst? texts ⟨before, [], offset⟩ = none :=
          Cursor.behindFirst?_eq_none.mpr nothing
        simp [spansFrom, spanAt?, free, none]
    | cons c cs =>
      cases attempt : Cursor.behindFirst? texts ⟨before, c :: cs, offset⟩ with
      | none =>
        obtain ⟨spans, search, scanned⟩ :=
          inductionHypothesis cs.length (by simp [← size]) cs lastStop done (some c)
            (offset + c.utf8Size) (by omega) rfl
        refine ⟨spans, search.passOver (Cursor.behindFirst?_eq_none.mp attempt), ?_⟩
        simpa [spansFrom, spanAt?, free, attempt] using scanned
      | some there =>
        obtain ⟨found, rest, split, first⟩ := Cursor.exists_find_of_behindFirst? attempt
        obtain ⟨last, behindFound⟩ := Cursor.behindFirst?_append first before offset
        have leftmost : Leftmost texts [] found rest :=
          ⟨first, fun other _ tail suffix nonempty => absurd (List.suffix_nil.mp suffix) nonempty⟩
        cases found with
        | nil => exact absurd leftmost.member nonempty
        | cons d front =>
          obtain ⟨rfl, rfl⟩ := List.cons.inj split
          obtain ⟨inner, within⟩ := spansFrom_within (Cursor.behindFirst? texts)
            (⟨offset, offset + textSize (c :: front)⟩ :: done) front (some c) (offset + c.utf8Size) rest
          rw [Nat.add_assoc, ← textSize_cons] at within
          have shorter : rest.length < n :=
            size ▸ Nat.lt_succ_of_le (List.suffix_append front rest).length_le
          obtain ⟨spans, search, scanned⟩ :=
            inductionHypothesis rest.length shorter rest
              (some (offset + textSize (c :: front))) (⟨offset, offset + textSize (c :: front)⟩ :: done)
              inner (offset + textSize (c :: front)) (by simp) rfl
          have moved : textSize (c :: front) ≠ 0 := (textSize_pos (List.cons_ne_nil c front)).ne'
          refine ⟨⟨offset, offset + textSize (c :: front)⟩ :: spans, ?_, ?_⟩
          · simpa using Search.found leftmost search
          · rw [List.cons_append] at behindFound
            simp [spansFrom, spanAt?, free, behindFound, moved, within, scanned]

/-! ## Looking for ends -/

namespace Literals

theorem longestEnding_eq_none {reversed : List (List Char)} {seen : List Char} :
    longestEnding reversed seen = none ↔ ∀ other ∈ reversed, ¬ other <+: seen := by
  induction reversed with
  | nil => simp [longestEnding]
  | cons literal others inductionHypothesis =>
    by_cases ends : literal <+: seen
    · simp [longestEnding, isSome_after?, ends]
    · simp [longestEnding, isSome_after?, ends, inductionHypothesis]

theorem longestEnding_eq_some {reversed : List (List Char)} {seen : List Char} {size : Nat}
    (ending : longestEnding reversed seen = some size) :
    (∃ found ∈ reversed, found <+: seen ∧ textSize found = size) ∧
      ∀ other ∈ reversed, other <+: seen → textSize other ≤ size := by
  induction reversed generalizing size with
  | nil => cases ending
  | cons literal others inductionHypothesis =>
    by_cases ends : literal <+: seen
    · simp only [longestEnding, isSome_after?, ends, if_true, Option.some.injEq] at ending
      cases best : longestEnding others seen with
      | none =>
        have none := longestEnding_eq_none.mp best
        rw [best, Option.getD_none, Nat.max_zero] at ending
        refine ⟨⟨literal, List.mem_cons_self, ends, ending⟩, fun other member isPrefix => ?_⟩
        rcases List.mem_cons.mp member with rfl | later
        · exact ending.le
        · exact absurd isPrefix (none other later)
      | some longest =>
        obtain ⟨⟨found, member, isPrefix, size_eq⟩, larger⟩ := inductionHypothesis best
        rw [best, Option.getD_some] at ending
        constructor
        · rcases Nat.le_total (textSize literal) longest with smaller | greater
          · exact ⟨found, List.mem_cons_of_mem _ member, isPrefix, by omega⟩
          · exact ⟨literal, List.mem_cons_self, ends, by omega⟩
        · intro other member isPrefix
          rcases List.mem_cons.mp member with rfl | later
          · omega
          · have := larger other later isPrefix
            omega
    · simp only [longestEnding, isSome_after?, ends, if_false] at ending
      obtain ⟨⟨found, member, isPrefix, size_eq⟩, larger⟩ := inductionHypothesis ending
      refine ⟨⟨found, List.mem_cons_of_mem _ member, isPrefix, size_eq⟩, fun other member isPrefix => ?_⟩
      rcases List.mem_cons.mp member with rfl | later
      · exact absurd isPrefix ends
      · exact larger other later isPrefix

/-- Looking for the end of a literal at every place is searching for the first that
ends. -/
theorem spansFrom_earliest (nonempty : [] ∉ texts) (done : List Span) (seen : List Char)
    (start : Nat) (rest : List Char) (clear : ∀ other ∈ texts, ¬ other <:+: seen.reverse) :
    ∃ spans, Search (Earliest texts) start (seen.reverse ++ rest) spans ∧
      spansFrom (texts.map List.reverse) done seen (start + textSize seen.reverse) rest =
        done.reverse ++ spans := by
  -- nothing has ended in what was seen since the last match
  induction rest generalizing done seen start with
  | nil =>
    refine ⟨[], .done fun skipped found rest split earliest => ?_, by simp [spansFrom]⟩
    refine clear found earliest.member ⟨skipped, rest, ?_⟩
    rw [List.append_nil] at split
    exact split.symm
  | cons c rest inductionHypothesis =>
    have reversed : (c :: seen).reverse = seen.reverse ++ [c] := List.reverse_cons
    have offset : start + textSize (c :: seen).reverse = start + textSize seen.reverse + c.utf8Size := by
      rw [reversed, textSize_append, textSize_cons, textSize_nil]
      omega
    have text : seen.reverse ++ c :: rest = (c :: seen).reverse ++ rest := by simp
    rw [text]
    cases ending : longestEnding (texts.map List.reverse) (c :: seen) with
    | none =>
      have none := longestEnding_eq_none.mp ending
      have stillClear : ∀ other ∈ texts, ¬ other <:+: (c :: seen).reverse := by
        intro other member isInfix
        rw [reversed, List.infix_concat_iff, ← reversed, ← List.reverse_prefix, List.reverse_reverse] at isInfix
        rcases isInfix with ends | before
        · exact none other.reverse (List.mem_map_of_mem member) ends
        · exact clear other member before
      obtain ⟨spans, search, scanned⟩ := inductionHypothesis done (c :: seen) start stillClear
      refine ⟨spans, search, ?_⟩
      rw [spansFrom]
      simp only [ending]
      rw [← offset, scanned]
    | some size =>
      obtain ⟨⟨_, isListed, isPrefix, rfl⟩, larger⟩ := longestEnding_eq_some ending
      obtain ⟨found, member, rfl⟩ := List.mem_map.mp isListed
      obtain ⟨skipped, split⟩ : found <:+ (c :: seen).reverse := by
        rwa [← List.reverse_prefix, List.reverse_reverse]
      have earliest : Earliest texts skipped found rest := by
        refine ⟨member, fun other otherMember => ?_, fun other otherMember ends => ?_⟩
        · rw [split, reversed, List.dropLast_concat]
          exact clear other otherMember
        · rw [split, ← List.reverse_prefix, List.reverse_reverse] at ends
          have := larger other.reverse (List.mem_map_of_mem otherMember) ends
          simpa using length_le_of_textSize_le ends isPrefix this
      obtain ⟨spans, search, scanned⟩ := inductionHypothesis
        (⟨start + textSize skipped, start + textSize (skipped ++ found)⟩ :: done) []
        -- behind a match nothing was seen yet
        (start + textSize (skipped ++ found)) fun other otherMember isInfix =>
          nonempty (List.infix_nil.mp isInfix ▸ otherMember)
      refine ⟨_, split ▸ Search.found earliest search, ?_⟩
      rw [spansFrom]
      simp only [ending]
      rw [← offset, ← split]
      have begins : start + textSize (skipped ++ found) - textSize found.reverse =
          start + textSize skipped := by
        rw [textSize_append, textSize_reverse]
        omega
      rw [begins]
      simpa using scanned

end Literals

end PluginAudit
