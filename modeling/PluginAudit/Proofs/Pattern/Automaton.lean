import PluginAudit.Pattern.Automaton
import PluginAudit.Proofs.Pattern.Search

/-!
# What an automaton reports

An automaton is in the longest of its states that the text read so far ends with, so every
word that ends there is an end of the state, too.  With each character it keeps that, and the
occurrences it reports are all that there are.
-/

namespace PluginAudit.Automaton

variable {a : Automaton} {text read state other : List Char} {found : Occurrence}

theorem isState_iff : a.isState text ↔ ∃ word ∈ a.words, text <+: word := by
  simp [isState, List.any_eq_true]

theorem isState_of_number {n : Nat} (numbered : a.words[n]? = some text) : a.isState text :=
  isState_iff.mpr ⟨text, List.mem_of_getElem? numbered, List.prefix_rfl⟩

theorem isState_of_isPrefix (isPrefix : other <+: text) (isState : a.isState text) : a.isState other := by
  obtain ⟨word, member, begins⟩ := isState_iff.mp isState
  exact isState_iff.mpr ⟨word, member, isPrefix.trans begins⟩

theorem longestState_suffix (a : Automaton) (text : List Char) : a.longestState text <:+ text := by
  induction text with
  | nil => exact List.suffix_rfl
  | cons c cs inductionHypothesis =>
    rw [longestState]
    split
    · exact List.suffix_rfl
    · exact inductionHypothesis.trans (List.suffix_cons c cs)

theorem suffix_longestState (isState : a.isState other) (ends : other <:+ text) : other <:+ a.longestState text := by
  induction text with
  | nil => exact ends
  | cons c cs inductionHypothesis =>
    rw [longestState]
    split
    · exact ends
    · rename_i noState
      rcases List.suffix_cons_iff.mp ends with rfl | later
      · exact absurd isState noState
      · exact inductionHypothesis later

/-! ## States -/

/-- What the automaton keeps: what was read ends with its state, and a state that it ends with
is an end of this one. -/
structure Follows (a : Automaton) (read state : List Char) : Prop where
  ends : state <:+ read
  longest : ∀ other, a.isState other → other <:+ read → other <:+ state

namespace Follows

theorem start (a : Automaton) : a.Follows [] [] := ⟨List.suffix_rfl, fun _ _ ends => ends⟩

theorem advance (follows : a.Follows read state) (c : Char) : a.Follows (read ++ [c]) (a.advance state c) := by
  constructor
  · obtain ⟨before, split⟩ := follows.ends
    refine (longestState_suffix a _).trans ⟨before, ?_⟩
    rw [← split, List.append_assoc]
  · intro other isState ends
    refine suffix_longestState isState ?_
    -- without its last character the other one is a state that was there before
    rcases List.eq_nil_or_concat other with rfl | ⟨front, last, rfl⟩
    · exact List.nil_suffix
    · rw [List.concat_eq_append] at isState ends ⊢
      obtain ⟨before, split⟩ := ends
      rw [← List.append_assoc] at split
      obtain ⟨earlier, same⟩ := List.append_inj' split rfl
      have frontEnds := follows.longest front (isState_of_isPrefix (List.prefix_append _ _) isState) ⟨before, earlier⟩
      obtain ⟨more, split⟩ := frontEnds
      exact ⟨more, by rw [← split, same, List.append_assoc]⟩

end Follows

/-! ## Occurrences -/

/-- A word of the list that a text ends with. -/
def Ends (a : Automaton) (text : List Char) (found : Occurrence) : Prop :=
  ∃ front word, text = front ++ word ∧ a.words[found.word]? = some word ∧
    found.span = ⟨textSize front, textSize text⟩

theorem mem_numbers {n : Nat} : n ∈ a.numbers text ↔ a.words[n]? = some text := by
  simp only [numbers, List.mem_filter, List.mem_range, beq_iff_eq, and_iff_right_iff_imp]
  exact fun numbered => (List.getElem?_eq_some_iff.mp numbered).1

theorem mem_reports {stop : Nat} :
    found ∈ a.reports stop state ↔ ∃ word, word <:+ state ∧ a.words[found.word]? = some word ∧
      found.span = ⟨stop - textSize word, stop⟩ := by
  have here (text : List Char) : (found ∈ (a.numbers text).map fun n => ⟨n, stop - textSize text, stop⟩) ↔
      a.words[found.word]? = some text ∧ found.span = ⟨stop - textSize text, stop⟩ := by
    obtain ⟨word, span⟩ := found
    simp only [List.mem_map, mem_numbers, Occurrence.mk.injEq]
    constructor
    · rintro ⟨n, numbered, rfl, rfl⟩
      exact ⟨numbered, rfl⟩
    · rintro ⟨numbered, rfl⟩
      exact ⟨word, numbered, rfl, rfl⟩
  induction state with
  | nil => simpa [reports] using here []
  | cons c cs inductionHypothesis =>
    rw [reports, List.mem_append, here]
    simp only [inductionHypothesis, List.suffix_cons_iff, or_and_right, exists_or, exists_eq_left]

/-- The words that a state ends with are those that what was read ends with. -/
theorem Follows.mem_reports (follows : a.Follows read state) :
    found ∈ a.reports (textSize read) state ↔ a.Ends read found := by
  rw [Automaton.mem_reports]
  constructor
  · rintro ⟨word, ends, numbered, span⟩
    obtain ⟨front, split⟩ := ends.trans follows.ends
    refine ⟨front, word, split.symm, numbered, span.trans ?_⟩
    rw [← split, textSize_append, Nat.add_sub_cancel]
  · rintro ⟨front, word, split, numbered, span⟩
    refine ⟨word, follows.longest word (isState_of_number numbered) ⟨front, split.symm⟩, numbered, span.trans ?_⟩
    rw [split, textSize_append, Nat.add_sub_cancel]

theorem Follows.mem_scan (follows : a.Follows read state) :
    found ∈ a.scan state (textSize read) text ↔ ∃ more, more <+: text ∧ a.Ends (read ++ more) found := by
  induction text generalizing read state with
  | nil => simp [scan, follows.mem_reports]
  | cons c rest inductionHypothesis =>
    have size : textSize read + c.utf8Size = textSize (read ++ [c]) := by
      rw [textSize_append, textSize_cons, textSize_nil, Nat.add_zero]
    rw [scan, List.mem_append, follows.mem_reports, size, inductionHypothesis (follows.advance c)]
    constructor
    · rintro (here | ⟨more, isPrefix, later⟩)
      · exact ⟨[], List.nil_prefix, by rwa [List.append_nil]⟩
      · exact ⟨c :: more, List.cons_prefix_cons.mpr ⟨rfl, isPrefix⟩, by simpa using later⟩
    · rintro ⟨more, isPrefix, ends⟩
      cases more with
      | nil => exact .inl (by rwa [List.append_nil] at ends)
      | cons d more =>
        obtain ⟨rfl, behind⟩ := List.cons_prefix_cons.mp isPrefix
        exact .inr ⟨more, behind, by simpa using ends⟩

/-- The automaton reports every word wherever it stands, and nothing else. -/
theorem mem_occurrences :
    found ∈ a.occurrences text ↔ ∃ front word back, text = front ++ word ++ back ∧
      a.words[found.word]? = some word ∧ found.span = ⟨textSize front, textSize (front ++ word)⟩ := by
  refine (Follows.start a).mem_scan.trans ?_
  constructor
  · rintro ⟨read, ⟨back, rfl⟩, front, word, split, numbered, span⟩
    rw [List.nil_append] at split span
    exact ⟨front, word, back, by rw [split], numbered, by rw [span, split]⟩
  · rintro ⟨front, word, back, rfl, numbered, span⟩
    exact ⟨front ++ word, List.prefix_append _ _, front, word, by rw [List.nil_append], numbered,
      by rw [span, List.nil_append]⟩

end PluginAudit.Automaton
