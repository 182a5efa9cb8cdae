import Mathlib.Data.List.DropRight
import Mathlib.Data.List.Infix
import PluginAudit.Checks.Trademarks
import PluginAudit.Proofs.Pattern.Automaton

/-!
# Which restricted term is found

The least number that the automaton reports is that of the first term that a slug uses, as a
scan of the terms in their order finds it.  A slug is searched without the ending `for` some
term.  The ending takes the dash in front of it along, and a term that is restricted at the
start only is overlooked where it needs just that dash.
-/

namespace PluginAudit.Trademarks

open PluginAudit.Text

variable {listed : List String} {slug : List Char} {term name : String} {answer : Option String}

/-! ## The terms a slug uses -/

/-- A term with a dash at its end is used at the start of a slug, any other one anywhere. -/
def Uses (slug : List Char) (term : String) : Prop :=
  if isLeading term then term.toList <+: slug else term.toList <:+: slug

instance (slug : List Char) (term : String) : Decidable (Uses slug term) :=
  inferInstanceAs (Decidable (if isLeading term then term.toList <+: slug else term.toList <:+: slug))

theorem words_ofTexts {n : Nat} {word : List Char} :
    (Automaton.ofTexts listed).words[n]? = some word ↔ ∃ term, listed[n]? = some term ∧ term.toList = word := by
  rw [Automaton.ofTexts, List.getElem?_map, Option.map_eq_some_iff]

/-- A term counts in a slug that uses it, at its first place if it is a leading one. -/
theorem exists_counts_iff {n : Nat} :
    (∃ found ∈ (Automaton.ofTexts listed).occurrences slug, counts listed found ∧ found.word = n) ↔
      ∃ term, listed[n]? = some term ∧ Uses slug term := by
  simp only [Automaton.mem_occurrences, words_ofTexts]
  constructor
  · rintro ⟨⟨_, span⟩, ⟨front, _, back, rfl, ⟨term, numbered, rfl⟩, rfl⟩, counted, rfl⟩
    refine ⟨term, numbered, ?_⟩
    rw [counts, numbered, Option.any_some, Bool.or_eq_true, Bool.not_eq_true', beq_iff_eq] at counted
    unfold Uses
    split
    · rename_i leading
      have atStart : textSize front = 0 := counted.resolve_left (by simp [leading])
      have empty : front = [] := by
        by_contra some
        exact (textSize_pos some).ne' atStart
      exact ⟨back, by rw [empty, List.nil_append]⟩
    · exact ⟨front, back, rfl⟩
  · rintro ⟨term, numbered, uses⟩
    have anywhere {front back : List Char} (split : slug = front ++ term.toList ++ back)
        (atStart : isLeading term → front = []) :
        ∃ found : Occurrence, (∃ front word back, slug = front ++ word ++ back ∧
          (∃ term, listed[found.word]? = some term ∧ term.toList = word) ∧
          found.span = ⟨textSize front, textSize (front ++ word)⟩) ∧ counts listed found ∧ found.word = n := by
      refine ⟨⟨n, textSize front, textSize (front ++ term.toList)⟩,
        ⟨front, _, back, split, ⟨term, numbered, rfl⟩, rfl⟩, ?_, rfl⟩
      rw [counts, numbered, Option.any_some]
      cases leading : isLeading term with
      | false => rfl
      | true => simp [atStart leading]
    unfold Uses at uses
    split at uses
    · obtain ⟨back, split⟩ := uses
      exact anywhere split.symm fun _ => rfl
    · rename_i notLeading
      obtain ⟨front, back, split⟩ := uses
      exact anywhere split.symm fun leading => absurd leading notLeading

/-! ## The first term -/

/-- A term as it is reported. -/
def withoutDash (term : String) : String :=
  if isLeading term then String.ofList term.toList.dropLast else term

/-- What comes of a scan of the terms in their order. -/
inductive Finds (listed : List String) (slug : List Char) : Option String → Prop
  | first {front term back} : listed = front ++ term :: back → (∀ other ∈ front, ¬ Uses slug other) →
      Uses slug term → Finds listed slug (some (withoutDash term))
  | nothing : (∀ term ∈ listed, ¬ Uses slug term) → Finds listed slug none

theorem exists_finds (listed : List String) (slug : List Char) : ∃ answer, Finds listed slug answer := by
  cases found : listed.find? fun term => decide (Uses slug term) with
  | none => exact ⟨none, .nothing fun term member => by simpa using List.find?_eq_none.mp found term member⟩
  | some term =>
    obtain ⟨uses, front, back, split, before⟩ := List.find?_eq_some_iff_append.mp found
    exact ⟨_, .first split (fun other member => by simpa using before other member) (by simpa using uses)⟩

/-- The least of the numbers of the terms that count. -/
theorem min?_numbers (listed : List String) (slug : List Char) :
    ((((Automaton.ofTexts listed).occurrences slug).filter (counts listed)).map Occurrence.word).min? =
      listed.findIdx? fun term => decide (Uses slug term) := by
  have numbers (n : Nat) :
      n ∈ (((Automaton.ofTexts listed).occurrences slug).filter (counts listed)).map Occurrence.word ↔
        ∃ term, listed[n]? = some term ∧ Uses slug term := by
    rw [← exists_counts_iff]
    simp only [List.mem_map, List.mem_filter, and_assoc]
  cases first : listed.findIdx? fun term => decide (Uses slug term) with
  | none =>
    rw [List.min?_eq_none_iff, List.eq_nil_iff_forall_not_mem]
    intro n member
    obtain ⟨term, numbered, uses⟩ := (numbers n).mp member
    simpa [uses] using List.findIdx?_eq_none_iff.mp first term (List.mem_of_getElem? numbered)
  | some n =>
    obtain ⟨inside, uses, before⟩ := List.findIdx?_eq_some_iff_getElem.mp first
    refine List.min?_eq_some_iff.mpr ⟨(numbers n).mpr ⟨_, List.getElem?_eq_getElem inside, by simpa using uses⟩, ?_⟩
    intro other member
    obtain ⟨term, numbered, otherUses⟩ := (numbers other).mp member
    obtain ⟨_, same⟩ := List.getElem?_eq_some_iff.mp numbered
    by_contra earlier
    simpa [same, otherUses] using before other (by omega)

/-! ## Dashes -/

/-- What is in front of the dash of a leading term does not end with one. -/
def SingleDash (term : String) : Prop := isLeading term → term.toList.dropLast.getLast? ≠ some '-'

instance (term : String) : Decidable (SingleDash term) :=
  inferInstanceAs (Decidable (isLeading term → term.toList.dropLast.getLast? ≠ some '-'))

theorem rdropWhile_dash {text : List Char} (last : text.getLast? ≠ some '-') :
    text.rdropWhile (· == '-') = text := by
  refine List.rdropWhile_eq_self_iff.mpr fun some dash => last ?_
  rw [List.getLast?_eq_getLast_of_ne_nil some, beq_iff_eq.mp dash]

theorem trimEndBy_dash (single : SingleDash term) :
    String.ofList (trimEndBy (· == '-') term.toList) = withoutDash term := by
  change String.ofList (term.toList.rdropWhile (· == '-')) = _
  unfold withoutDash
  split
  · rename_i leading
    have split : term.toList.dropLast ++ ['-'] = term.toList :=
      List.dropLast_append_getLast? '-' (beq_iff_eq.mp leading)
    rw [← split, List.rdropWhile_concat_pos _ _ _ rfl, rdropWhile_dash (single leading), List.dropLast_concat]
  · rename_i notLeading
    rw [rdropWhile_dash (mt beq_iff_eq.mpr notLeading), String.ofList_toList]

/-- A slug ends with the last character that was written. -/
theorem getLast?_dashedFrom (started due : Bool) (text : List Char) :
    (dashedFrom started due text).getLast? ≠ some '-' := by
  induction text generalizing started due with
  | nil => simp [dashedFrom]
  | cons c cs inductionHypothesis =>
    unfold dashedFrom
    split
    · rename_i letter
      have written : (c :: dashedFrom true false cs).getLast? ≠ some '-' := by
        rw [List.getLast?_cons]
        cases later : (dashedFrom true false cs).getLast? with
        | none =>
          rintro ⟨⟩
          exact absurd letter (by decide)
        | some last => exact later ▸ inductionHypothesis true false
      split
      · rwa [List.getLast?_cons_cons]
      · exact written
    · exact inductionHypothesis started started

theorem getLast?_slugOf (name : List Char) : (slugOf name).getLast? ≠ some '-' :=
  getLast?_dashedFrom false false _

theorem singleDash_of_mem_allTerms (extra : List String) : ∀ term ∈ allTerms extra, SingleDash term := by
  have builtIn : ∀ term ∈ terms, SingleDash term := by decide +kernel
  intro term member
  rcases List.mem_append.mp member with listed | added
  · exact builtIn term listed
  · obtain ⟨text, -, made⟩ := List.mem_filterMap.mp added
    have slugEnd := getLast?_slugOf text.toList
    simp only [extraTerm?] at made
    split at made
    · cases made
    · split at made
      · rw [← Option.some.inj made]
        intro _
        simpa [slugify] using slugEnd
      · rw [← Option.some.inj made]
        intro leading
        exact absurd (by simpa [isLeading, slugify] using leading) slugEnd

/-! ## The search -/

theorem findTerm?_eq_find? (single : ∀ term ∈ listed, SingleDash term) (name : String) :
    findTerm? listed name =
      (listed.find? fun term => decide (Uses (withoutEnding (slugOf name.toList)) term)).map withoutDash := by
  simp only [findTerm?]
  rw [min?_numbers, List.find?_eq_bind_findIdx?_getElem?, Option.map_bind]
  refine Option.bind_congr fun n _ => ?_
  cases numbered : listed[n]? with
  | none => simp [numbered]
  | some term => simp [numbered, trimEndBy_dash (single term (List.mem_of_getElem? numbered))]

/-- A scan of the terms has one outcome, and it is the one of the search. -/
theorem findTerm?_of_finds (single : ∀ term ∈ listed, SingleDash term)
    (finds : Finds listed (withoutEnding (slugOf name.toList)) answer) : findTerm? listed name = answer := by
  rw [findTerm?_eq_find? single]
  cases finds with
  | first split before uses =>
    rw [split, List.find?_append, List.find?_eq_none.mpr (by simpa using before), Option.none_or,
      List.find?_cons_of_pos (by simpa using uses), Option.map_some]
  | nothing none => rw [List.find?_eq_none.mpr (by simpa using none), Option.map_none]

/-- The ending that a name may have. -/
def ending : List Char := "-for-woocommerce".toList

/-- What of a slug is searched: all of it, without the ending if it has it. -/
inductive Searched : List Char → List Char → Prop
  | shortened {front} : Searched (front ++ ending) front
  | whole {text} : ¬ ending <:+ text → Searched text text

theorem searched_withoutEnding (slug : List Char) : Searched slug (withoutEnding slug) := by
  have only : withoutEnding slug = (before? ending slug).getD slug := by
    have isEnding : ("-for-" ++ "woocommerce").toList = ending := by decide +kernel
    rw [withoutEnding, endingTerms, List.findSome?_cons, isEnding, List.findSome?_nil]
    cases before? ending slug <;> rfl
  rw [only]
  cases cut : before? ending slug with
  | some front =>
    rw [before?_eq_some] at cut
    rw [cut, Option.getD_some]
    exact .shortened
  | none =>
    refine .whole fun ⟨front, split⟩ => ?_
    rw [before?_eq_some.mpr split.symm] at cut
    cases cut

/-- The term that is found is the first one that a scan of all terms in their order finds,
those that a configuration adds behind the others. -/
theorem findTerm?_eq_iff_finds (extra : List String) (name : String) :
    ∃ searched, Searched (slugOf name.toList) searched ∧
      ∀ answer, findTerm? (allTerms extra) name = answer ↔ Finds (allTerms extra) searched answer := by
  have single := singleDash_of_mem_allTerms extra
  refine ⟨_, searched_withoutEnding _, fun answer => ⟨?_, findTerm?_of_finds single⟩⟩
  rintro rfl
  obtain ⟨answer, finds⟩ := exists_finds (allTerms extra) (withoutEnding (slugOf name.toList))
  rwa [findTerm?_of_finds single finds]

/-- The term that stands last in the name is the first one of the list that counts. -/
example : findTerm? ["forms-", "tweet", "acme"] "Acme Forms Tweet" = some "tweet" := by decide +kernel

/-! ## Names with the ending -/

/-- What of a term lies in the ending is nothing or a dash. -/
theorem tail_of_prefix_ending :
    ∀ term ∈ terms, ∀ tail ∈ term.toList.tails, tail <+: ending → tail = [] ∨ tail = ['-'] := by decide +kernel

theorem isSome_findTerm?_iff (name : String) :
    (findTerm? terms name).isSome ↔ ∃ term ∈ terms, Uses (withoutEnding (slugOf name.toList)) term := by
  rw [findTerm?_eq_find? (by simpa [allTerms] using singleDash_of_mem_allTerms []), Option.isSome_map,
    List.find?_isSome]
  simp only [decide_eq_true_eq]

/-- A leading term at the start of a slug with the ending is used without it, unless the ending
follows the term at once and has taken its dash. -/
theorem uses_or_eq_of_prefix {front : List Char} (member : term ∈ terms) (leading : isLeading term)
    (isPrefix : term.toList <+: front ++ ending) :
    Uses front term ∨ front = term.toList.dropLast := by
  rcases List.prefix_or_prefix_of_prefix isPrefix (List.prefix_append front ending) with within | ⟨tail, split⟩
  · exact .inl (by rwa [Uses, if_pos leading])
  · rw [← split, List.prefix_append_right_inj] at isPrefix
    rcases tail_of_prefix_ending term member tail (by simp [← split]) isPrefix with rfl | rfl
    · exact .inl (by rw [Uses, if_pos leading, ← split, List.append_nil])
    · exact .inr (by rw [← split, List.dropLast_concat])

/-- No term but the one that the ending is about reaches into it. -/
theorem uses_of_infix {front : List Char} (member : term ∈ terms) (anywhere : ¬ isLeading term)
    (other : term ∉ endingTerms) (isInfix : term.toList <:+: front ++ ending) : Uses front term := by
  have notInEnding : ∀ term ∈ terms, term ∉ endingTerms → ¬ term.toList <:+: ending := by decide +kernel
  rw [Uses, if_neg anywhere]
  rcases List.infix_append_iff.mp isInfix with within | behind | ⟨head, tail, split, ends, begins⟩
  · exact within
  · exact absurd behind (notInEnding term member other)
  · rcases tail_of_prefix_ending term member tail (by simp [split]) begins with rfl | rfl
    · rw [split, List.append_nil]
      exact ends.isInfix
    · exact absurd (by simp [isLeading, split]) anywhere

/-- A name that uses a restricted term other than the one that the ending is about is refused
exactly if its slug is not a leading term with the ending right behind it, or something else in
front of the ending is restricted. -/
theorem isSome_findTerm?_iff_of_restricted (name : String)
    (restricted : (∃ term ∈ terms, isLeading term ∧ term.toList <+: slugOf name.toList) ∨
      ∃ term ∈ terms, ¬ isLeading term ∧ term ∉ endingTerms ∧ term.toList <:+: slugOf name.toList) :
    (findTerm? (allTerms []) name).isSome ↔
      ∀ term ∈ terms, isLeading term → slugOf name.toList = term.toList ++ "for-woocommerce".toList →
        ∃ other ∈ terms, Uses term.toList.dropLast other := by
  have noneAdded : allTerms [] = terms := by simp [allTerms]
  rw [noneAdded, isSome_findTerm?_iff]
  generalize slugOf name.toList = slug at restricted ⊢
  have whole (term : String) (leading : isLeading term) :
      term.toList ++ "for-woocommerce".toList = term.toList.dropLast ++ ending := by
    have split : term.toList.dropLast ++ ['-'] = term.toList :=
      List.dropLast_append_getLast? '-' (beq_iff_eq.mp leading)
    have dashed : ending = ['-'] ++ "for-woocommerce".toList := by decide +kernel
    rw [dashed, ← List.append_assoc, split]
  have searched := searched_withoutEnding slug
  generalize withoutEnding slug = front at searched ⊢
  cases searched with
  | shortened =>
    constructor
    · intro used term _ leading split
      rw [whole term leading] at split
      rwa [← List.append_cancel_right split]
    · intro onlyHidden
      rcases restricted with ⟨term, member, leading, begins⟩ | ⟨term, member, anywhere, other, isInfix⟩
      · rcases uses_or_eq_of_prefix member leading begins with uses | hidden
        · exact ⟨term, member, uses⟩
        · rw [hidden] at onlyHidden ⊢
          exact onlyHidden term member leading (whole term leading).symm
      · exact ⟨term, member, uses_of_infix member anywhere other isInfix⟩
  | whole notEnding =>
    refine iff_of_true ?_ fun term _ leading split => absurd ?_ notEnding
    · rcases restricted with ⟨term, member, leading, begins⟩ | ⟨term, member, anywhere, _, isInfix⟩
      · exact ⟨term, member, by rwa [Uses, if_pos leading]⟩
      · exact ⟨term, member, by rwa [Uses, if_neg anywhere]⟩
    · rw [split, whole term leading]
      exact List.suffix_append _ _

theorem isSome_findTerm?_googleMaps :
    ("google-" ∈ terms ∧ isLeading "google-" ∧
      "google-".toList <+: slugOf "Google Maps for WooCommerce".toList) ∧
      (findTerm? (allTerms []) "Google Maps for WooCommerce").isSome := by
  have restricted : "google-" ∈ terms ∧ isLeading "google-" ∧
      "google-".toList <+: slugOf "Google Maps for WooCommerce".toList := by decide +kernel
  refine ⟨restricted, (isSome_findTerm?_iff_of_restricted _ (.inl ⟨_, restricted⟩)).mpr ?_⟩
  decide +kernel

/-- The slug begins with a leading term, whose dash goes with the ending. -/
theorem findTerm?_googleForWooCommerce :
    "google-" ∈ terms ∧ isLeading "google-" ∧ "google-".toList <+: slugOf "Google for WooCommerce".toList ∧
      findTerm? (allTerms []) "Google for WooCommerce" = none := by
  decide +kernel

end PluginAudit.Trademarks
