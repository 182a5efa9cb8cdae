import PluginAudit.Proofs.Pattern.Alternation
import PluginAudit.Proofs.Pattern.LineColumn

/-!
# Literal matchers and the expressions they stand for

A pattern without signs of a regular expression is searched for by matchers of its own.
They look for the match that ends first, and the expression that the same pattern reads as
finds the one that starts first.  On one literal these are the same.  On several they are
so for every text exactly if the literals are untangled: no literal stands within one that
is found instead of it.
-/

namespace PluginAudit

open PluginAudit.Text

/-- No literal ends within another one that is the first to be found at its place. -/
def Untangled (texts : List (List Char)) : Prop :=
  ∀ found ∈ texts, texts.find? (·.isPrefixOf found) = some found →
    ∀ other ∈ texts, ¬ other <:+: found.dropLast

instance (texts : List (List Char)) : Decidable (Untangled texts) :=
  inferInstanceAs (Decidable (∀ found ∈ texts, texts.find? (·.isPrefixOf found) = some found →
    ∀ other ∈ texts, ¬ other <:+: found.dropLast))

variable {texts : List (List Char)} {text skipped found rest : List Char}

theorem untangled_singleton (text : List Char) (nonempty : text ≠ []) : Untangled [text] := by
  intro found member _ other otherMember within
  obtain rfl := List.mem_singleton.mp member
  obtain rfl := List.mem_singleton.mp otherMember
  have := within.length_le
  have := List.length_pos_iff.mpr nonempty
  rw [List.length_dropLast] at *
  omega

/-! ## The first to start and the first to end -/

namespace Leftmost

/-- What is found first at its place is so when nothing follows. -/
theorem find?_self (leftmost : Leftmost texts skipped found rest) :
    texts.find? (·.isPrefixOf found) = some found := by
  obtain ⟨-, front, back, split, notBefore⟩ := List.find?_eq_some_iff_append.mp leftmost.first
  refine List.find?_eq_some_iff_append.mpr ⟨by simp, front, back, split, fun other member => ?_⟩
  have notHere : ¬ other <+: found ++ rest := by
    simpa [← List.isPrefixOf_iff_prefix] using notBefore other member
  have : ¬ other <+: found := fun isPrefix => notHere (isPrefix.trans (List.prefix_append found rest))
  simpa [← List.isPrefixOf_iff_prefix] using this

theorem earliest (untangled : Untangled texts) (nonempty : [] ∉ texts)
    (leftmost : Leftmost texts skipped found rest) : Earliest texts skipped found rest := by
  have foundNonempty : found ≠ [] := fun isEmpty => nonempty (isEmpty ▸ leftmost.member)
  refine ⟨leftmost.member, fun other member => ?_, fun other member ends => ?_⟩
  · rw [List.dropLast_append_of_ne_nil foundNonempty]
    rintro ⟨front, back, split⟩
    have notWithin := untangled found leftmost.member leftmost.find?_self other member
    rw [List.append_assoc, List.append_eq_append_iff] at split
    -- the other text starts in what was skipped, or it stands within what was found
    rcases split with ⟨tail, rfl, behind⟩ | ⟨inner, -, behind⟩
    · by_cases startsHere : tail = []
      · subst startsHere
        exact notWithin ⟨[], back, by simpa using behind⟩
      · refine leftmost.noneBefore other member tail (List.suffix_append _ _) startsHere ?_
        have front : other <+: tail ++ found.dropLast := ⟨back, behind⟩
        refine front.trans (List.prefix_append_right_inj tail |>.mpr ?_)
        exact (List.dropLast_prefix found).trans (List.prefix_append found rest)
    · exact notWithin ⟨inner, back, by rw [List.append_assoc, behind]⟩
  · by_contra longer
    obtain ⟨tail, rfl⟩ : found <:+ other :=
      List.suffix_of_suffix_length_le (List.suffix_append skipped found) ends (by omega)
    obtain ⟨front, split⟩ := ends
    rw [← List.append_assoc, List.append_cancel_right_eq] at split
    refine leftmost.noneBefore _ member tail ⟨front, split⟩ ?_ ⟨rest, by simp⟩
    rintro rfl
    simp at longer

end Leftmost

theorem Search.earliest (untangled : Untangled texts) (nonempty : [] ∉ texts) {offset : Nat}
    {spans : List Span} (search : Search (Leftmost texts) offset text spans) :
    Search (Earliest texts) offset text spans := by
  induction search with
  | done none =>
    refine .done fun skipped found rest split isEarliest => ?_
    obtain ⟨skipped, found, rest, split, leftmost⟩ := exists_leftmost isEarliest.member split
    exact none skipped found rest split leftmost
  | found leftmost _ inductionHypothesis =>
    exact .found (leftmost.earliest untangled nonempty) inductionHypothesis

/-- If both searches find the same in every literal, the literals are untangled. -/
theorem untangled_of_same {starts ends : List Char → List Span} (same : ∀ text ∈ texts, ends text = starts text)
    (leftmost : ∀ text, Search (Leftmost texts) 0 text (starts text))
    (earliest : ∀ text, Search (Earliest texts) 0 text (ends text)) : Untangled texts := by
  intro found member first other otherMember within
  -- in the literal alone the one search finds all of it, so the other one does, too
  have starting : Leftmost texts [] found [] := .atStart (by rwa [List.append_nil])
  have head := (leftmost found).head? (Leftmost.determined texts) (by simp) starting
  rw [← same found member] at head
  obtain ⟨skipped, ended, rest, split, ending, spans⟩ := (earliest found).exists_of_head? head
  simp only [textSize_nil, List.nil_append, Span.mk.injEq, Nat.zero_add] at spans
  have noneSkipped : skipped = [] := by
    by_contra some
    have := textSize_pos some
    omega
  have front : ended <+: found := ⟨rest, by rw [split, noneSkipped, List.nil_append]⟩
  subst noneSkipped
  have whole : ended = found := front.eq_of_length_le
    (length_le_of_textSize_le List.prefix_rfl front (by simpa using spans.2.le))
  exact ending.noneBefore other otherMember (by rwa [List.nil_append, whole])

/-! ## Patterns without signs -/

namespace Pattern

/-- The literals of a pattern that has its own matcher. -/
def texts? : Pattern → Option (List (List Char))
  | literal text => some [text]
  | literals texts => some texts
  | regex _ => none

variable {source : String} {pattern : Pattern}

theorem ne_nil_of_isLiteral (literal : ∀ text ∈ texts, isLiteral text) : [] ∉ texts :=
  fun member => by simpa [isLiteral] using literal [] member

theorem texts?_of_compile (compiled : compile source = .ok pattern) (plain : pattern.texts? = some texts) :
    texts ≠ [] ∧ (∀ text ∈ texts, isLiteral text) ∧ source.toList = joinWith ['|'] texts := by
  rw [compile] at compiled
  split at compiled
  case isTrue isOne =>
    cases compiled
    obtain rfl := Option.some.inj plain
    exact ⟨List.cons_ne_nil _ _, by simpa using isOne, rfl⟩
  case isFalse =>
    split at compiled
    case h_1 parts alternation =>
      cases compiled
      obtain rfl := Option.some.inj plain
      simp only [alternatives?, Option.ite_none_right_eq_some, Option.some.injEq, Bool.and_eq_true,
        decide_eq_true_eq, List.all_eq_true] at alternation
      obtain ⟨⟨two, literal⟩, rfl⟩ := alternation
      exact ⟨List.ne_nil_of_length_pos (by omega), literal, (joinWith_splitOn '|' source.toList).symm⟩
    case h_2 =>
      split at compiled
      case h_1 =>
        cases compiled
        cases plain
      case h_2 => cases compiled

theorem read_of_compile (compiled : compile source = .ok pattern) (plain : pattern.texts? = some texts) :
    Regex.read source.toList =
      if source.toList.length ≤ Regex.maximalSize then .ok (Regex.ofLiterals texts) else .error .tooLarge := by
  obtain ⟨some, literal, split⟩ := texts?_of_compile compiled plain
  rw [split, Regex.read_joinWith some literal]

/-- The expression looks for the first literal that starts. -/
theorem search_leftmost (some : texts ≠ []) (nonempty : [] ∉ texts) (content : List Char) :
    Search (Leftmost texts) 0 content ((regex (Regex.ofLiterals texts)).spans content) := by
  obtain ⟨found, search, scanned⟩ := spansFrom_behindFirst nonempty content none [] none 0 (Nat.le_refl 0)
  rw [spans, Regex.spans_ofLiterals some, PluginAudit.spans, scanned]
  exact search

/-- The matchers of literals look for the first one that ends. -/
theorem search_earliest (plain : pattern.texts? = some texts) (nonempty : [] ∉ texts) (content : List Char) :
    Search (Earliest texts) 0 content (pattern.spans content) := by
  cases pattern with
  | literal text =>
    obtain rfl := Option.some.inj plain
    have one : Literal.spans text content = (regex (Regex.ofLiterals [text])).spans content := by
      rw [spans, Regex.spans_ofLiterals (List.cons_ne_nil _ _), Literal.spans]
      congr 1
      funext here
      simp [Cursor.behindFirst?]
    rw [spans, one]
    exact (search_leftmost (List.cons_ne_nil _ _) nonempty content).earliest
      (untangled_singleton text fun isEmpty => nonempty (isEmpty ▸ List.mem_singleton_self _)) nonempty
  | literals texts =>
    obtain rfl := Option.some.inj plain
    have noneEmpty : texts.any List.isEmpty = false :=
      List.any_eq_false.mpr fun text member isEmpty => nonempty (List.isEmpty_iff.mp isEmpty ▸ member)
    obtain ⟨found, search, scanned⟩ := Literals.spansFrom_earliest nonempty [] [] 0 content
      fun other member within => nonempty (List.infix_nil.mp within ▸ member)
    simp only [List.reverse_nil, textSize_nil, List.nil_append] at search scanned
    rw [spans, Literals.spans, if_neg (by simp [noneEmpty]), scanned]
    exact search
  | regex expression => cases plain

/-- The matches of literals in a content that 32 bits measure are all located. -/
theorem exists_locateAll (plain : pattern.texts? = some texts) (nonempty : [] ∉ texts) {content : String}
    (small : content.utf8ByteSize < 2 ^ 32) : ∃ all, pattern.locateAll content = .ok all := by
  refine exists_mapM_eq_ok fun span member => ?_
  obtain ⟨skipped, found, rest, _, _, split, earliest, rfl⟩ :=
    (search_earliest plain nonempty content.toList).exists_of_mem member
  -- a match is not empty, so it starts before the end of the content
  have inside : found ++ rest ≠ [] := by
    intro isEmpty
    obtain ⟨rfl, -⟩ := List.append_eq_nil_iff.mp isEmpty
    exact nonempty earliest.member
  rw [List.append_assoc] at split
  obtain ⟨position, answered⟩ := exists_lineColumn split small inside
  rw [Nat.zero_add]
  exact ⟨⟨position, _⟩, locate_eq_ok_iff.mpr ⟨answered, rfl⟩⟩

/-- What is located first is the first match that starts, if the spans are those of a
search for it. -/
theorem eq_some_of_locateFirst {content : String} {first : Option Located}
    (search : Search (Leftmost texts) 0 content.toList (pattern.findAll content))
    (split : content.toList = skipped ++ found ++ rest) (leftmost : Leftmost texts skipped found rest)
    (answered : pattern.locateFirst content = .ok first) :
    ∃ position, lineColumn content (textSize skipped) = .ok position ∧
      first = some ⟨position, String.ofList found⟩ := by
  have head := search.head? (Leftmost.determined texts) split leftmost
  simp only [Nat.zero_add] at head
  obtain ⟨spans, spans_eq⟩ := List.head?_eq_some_iff.mp head
  rw [locateFirst] at answered
  cases located : pattern.locateAll content with
  | error e =>
    rw [located] at answered
    cases answered
  | ok all =>
    rw [located] at answered
    cases answered
    rw [locateAll, mapM_eq_ok_iff, spans_eq] at located
    obtain ⟨one, others, here, -, rfl⟩ := List.forall₂_cons_left_iff.mp located
    obtain ⟨position, text⟩ := locate_eq_ok_iff.mp here
    rw [split, Span.slice_append] at text
    exact ⟨one.position, position, by rw [List.head?_cons, ← text]⟩

/-- A pattern that has its own matcher reads as the choice of its literals, unless it is too
large for an expression.  Both find the same in every text exactly if the literals are
untangled, as one literal is; then the first match that is located is the first that
starts, and in a content that 32 bits measure it is located.  Otherwise the matcher finds
what ends first, and the expression what starts first. -/
theorem findAll_eq_regex_iff (compiled : compile source = .ok pattern) (plain : pattern.texts? = some texts) :
    (∀ text, pattern = literal text → Untangled texts) ∧
      (source.toList.length ≤ Regex.maximalSize ↔ ∃ expression, Regex.read source.toList = .ok expression) ∧
      (∀ content, Search (Earliest texts) 0 content.toList (pattern.findAll content)) ∧
      ∀ expression, Regex.read source.toList = .ok expression →
        (∀ content, Search (Leftmost texts) 0 content.toList ((regex expression).findAll content)) ∧
        ((∀ content, pattern.findAll content = (regex expression).findAll content) ↔ Untangled texts) ∧
        (Untangled texts → ∀ content skipped found rest, content.toList = skipped ++ found ++ rest →
          Leftmost texts skipped found rest →
            (content.utf8ByteSize < 2 ^ 32 → ∃ first, pattern.locateFirst content = .ok first) ∧
            ∀ first, pattern.locateFirst content = .ok first →
              ∃ position, lineColumn content (textSize skipped) = .ok position ∧
                first = some ⟨position, String.ofList found⟩) := by
  obtain ⟨some, literal, -⟩ := texts?_of_compile compiled plain
  have nonempty := ne_nil_of_isLiteral literal
  have read := read_of_compile compiled plain
  have earliest := fun content : String => search_earliest plain nonempty content.toList
  refine ⟨fun text isLiteral => ?_, ?_, earliest, fun expression isRead => ?_⟩
  · subst isLiteral
    obtain rfl := Option.some.inj plain
    exact untangled_singleton text fun isEmpty => nonempty (isEmpty ▸ List.mem_singleton_self _)
  · rw [read]
    split
    case isTrue small => simp [small]
    case isFalse large => simp [large]
  · obtain rfl : Regex.ofLiterals texts = expression := by
      rw [read] at isRead
      split at isRead
      · exact Except.ok.inj isRead
      · cases isRead
    have leftmost := search_leftmost some nonempty
    have same (untangled : Untangled texts) (content : String) :
        pattern.findAll content = (regex (Regex.ofLiterals texts)).findAll content :=
      (earliest content).unique (Earliest.determined texts)
        ((leftmost content.toList).earliest untangled nonempty)
    refine ⟨fun content => leftmost content.toList, ⟨fun agree => ?_, same⟩,
      fun untangled content skipped found rest split isFirst => ?_⟩
    · refine untangled_of_same (fun text _ => ?_) leftmost (search_earliest plain nonempty)
      simpa [findAll] using agree (String.ofList text)
    · refine ⟨fun small => ?_, fun first => eq_some_of_locateFirst ?_ split isFirst⟩
      · obtain ⟨all, located⟩ := exists_locateAll plain nonempty small
        exact ⟨all.head?, by rw [locateFirst, located]; rfl⟩
      · rw [same untangled content]
        exact leftmost content.toList

/-- Literals may end together, and one may hide another, without being tangled. -/
theorem findAll_eq_regex_of_shared_ends :
    compile "b|ab|abc" = .ok (.literals ["b".toList, "ab".toList, "abc".toList]) ∧
      Untangled ["b".toList, "ab".toList, "abc".toList] ∧
      ∃ expression, Regex.read "b|ab|abc".toList = .ok expression ∧
        ∀ content, (literals ["b".toList, "ab".toList, "abc".toList]).findAll content =
          (regex expression).findAll content := by
  have compiled : compile "b|ab|abc" = .ok (.literals ["b".toList, "ab".toList, "abc".toList]) := rfl
  have untangled : Untangled ["b".toList, "ab".toList, "abc".toList] := by decide
  obtain ⟨-, readable, -, agree⟩ := findAll_eq_regex_iff compiled rfl
  obtain ⟨expression, isRead⟩ := readable.mp (by decide)
  obtain ⟨-, same, -⟩ := agree expression isRead
  exact ⟨compiled, untangled, expression, isRead, same.mpr untangled⟩

/-- Of a literal and a longer one that starts with it the matcher finds the shorter one
also where the longer one is listed first.  A literal that stands within another hides it,
and then what is located first is not what starts first. -/
theorem findAll_ne_regex_of_tangled :
    (∃ pattern expression, compile "abc|ab" = .ok pattern ∧
      pattern.texts? = some ["abc".toList, "ab".toList] ∧ Regex.read "abc|ab".toList = .ok expression ∧
      pattern.findAll "abc" = [⟨0, 2⟩] ∧ (regex expression).findAll "abc" = [⟨0, 3⟩]) ∧
    ∃ pattern expression, compile "abcd|bc" = .ok pattern ∧
      pattern.texts? = some ["abcd".toList, "bc".toList] ∧ Regex.read "abcd|bc".toList = .ok expression ∧
      pattern.locateFirst "abcd" = .ok (some ⟨⟨1, 2⟩, "bc"⟩) ∧
      (regex expression).locateFirst "abcd" = .ok (some ⟨⟨1, 1⟩, "abcd"⟩) :=
  ⟨⟨_, _, rfl, rfl, rfl, by decide +kernel, by decide +kernel⟩,
    ⟨_, _, rfl, rfl, rfl, by decide +kernel, by decide +kernel⟩⟩

end Pattern

end PluginAudit
