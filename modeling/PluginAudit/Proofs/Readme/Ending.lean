import Mathlib.Data.List.Forall2
import PluginAudit.Proofs.Text.Lines
import PluginAudit.Readme

/-!
# The end of a readme

An empty line at the end of a readme says nothing: no part of it is read differently.
-/

namespace PluginAudit.Readme

open PluginAudit.Text

variable {first second : List (List Char)}

theorem readTitle_endAlike (alike : EndAlike first second) (readme : Readme) :
    (readme.readTitle second).1 = (readme.readTitle first).1 ∧
      EndAlike (readme.readTitle first).2 (readme.readTitle second).2 := by
  rcases alike with rfl | rfl
  · exact ⟨rfl, .inl rfl⟩
  · cases first with
    | nil => exact ⟨rfl, .inr rfl⟩
    | cons line others =>
      rw [List.cons_append, readTitle, readTitle]
      split
      · exact ⟨rfl, .inr rfl⟩
      · exact ⟨rfl, .inr rfl⟩

theorem readFields_endAlike (alike : EndAlike first second) (readme : Readme) (started : Bool) :
    (readme.readFields started second).1 = (readme.readFields started first).1 ∧
      EndAlike (readme.readFields started first).2 (readme.readFields started second).2 := by
  rcases alike with rfl | rfl
  · exact ⟨rfl, .inl rfl⟩
  · induction first generalizing readme started with
    | nil => cases started <;> exact ⟨rfl, .inl rfl⟩
    | cons line others inductionHypothesis =>
      rw [List.cons_append, readFields, readFields]
      cases isBlankText line with
      | true =>
        cases started with
        | true => exact ⟨rfl, .inr rfl⟩
        | false => exact inductionHypothesis readme false
      | false =>
        cases (heading? line).isSome with
        | true => exact ⟨rfl, .inr rfl⟩
        | false =>
          cases splitOnce? ':' line with
          | none => exact ⟨rfl, .inr rfl⟩
          | some field =>
            -- an unknown field ends the header only before the first known one
            simp only [Bool.false_eq_true, if_false]
            cases readme.withField? (trim field.1) (trim field.2) with
            | some more => exact inductionHypothesis more true
            | none =>
              cases started with
              | true => exact inductionHypothesis readme true
              | false => exact ⟨rfl, .inr rfl⟩

theorem withShortDescription_endAlike (alike : EndAlike first second) (readme : Readme) :
    readme.withShortDescription second = readme.withShortDescription first := by
  rw [withShortDescription, withShortDescription, alike.map_trim.words_joinWith]

/-- Parts with the same titles, whose lines are the same up to an empty one at the end. -/
abbrev PartsAlike : List (List Char × List (List Char)) → List (List Char × List (List Char)) → Prop :=
  List.Forall₂ fun a b => b.1 = a.1 ∧ EndAlike a.2 b.2

theorem PartsAlike.refl (parts : List (List Char × List (List Char))) : PartsAlike parts parts :=
  List.forall₂_same.mpr fun _ _ => ⟨rfl, .inl rfl⟩

theorem PartsAlike.foldl {take : Readme → List Char × List (List Char) → Readme}
    (same : ∀ readme a b, b.1 = a.1 → EndAlike a.2 b.2 → take readme b = take readme a)
    {parts parts' : List (List Char × List (List Char))} (alike : PartsAlike parts parts') (readme : Readme) :
    parts'.foldl take readme = parts.foldl take readme := by
  induction alike generalizing readme with
  | nil => rfl
  | cons part _ inductionHypothesis =>
    rw [List.foldl_cons, List.foldl_cons, same readme _ _ part.1 part.2, inductionHypothesis]

theorem partsAt_endAlike (alike : EndAlike first second) (level : Nat) :
    PartsAlike (partsAt level first) (partsAt level second) := by
  rcases alike with rfl | rfl
  · exact .refl _
  · induction first with
    | nil => exact .nil
    | cons line others inductionHypothesis =>
      rw [List.cons_append, partsAt, partsAt]
      cases heading? line with
      | none => exact inductionHypothesis
      | some heading =>
        by_cases same : heading.1 = level
        · simp only [same, beq_self_eq_true, if_true]
          exact .cons ⟨rfl, (EndAlike.span (.inr rfl) _).1⟩ inductionHypothesis
        · simp only [beq_eq_false_iff_ne.mpr same, Bool.false_eq_true, if_false]
          exact inductionHypothesis

theorem withNotice_endAlike (readme : Readme) (a b : List Char × List (List Char)) (title : b.1 = a.1)
    (alike : EndAlike a.2 b.2) : readme.withNotice b = readme.withNotice a := by
  rw [withNotice, withNotice, title, alike.map_trim.trim_joinWith (List.forall_mem_singleton.mpr (by decide))]

theorem withSection_endAlike (readme : Readme) (a b : List Char × List (List Char)) (title : b.1 = a.1)
    (alike : EndAlike a.2 b.2) : readme.withSection b = readme.withSection a := by
  rw [withSection, withSection, title, alike.trim_joinWith (List.forall_mem_singleton.mpr (by decide)),
    (partsAt_endAlike alike 1).foldl withNotice_endAlike]

/-- Lines that are the same up to an empty one at the end are read as the same readme. -/
theorem ofLines_endAlike (alike : EndAlike first second) : ofLines second = ofLines first := by
  have started := (alike.span isBlankText).2
  obtain ⟨sameTitle, titled⟩ := readTitle_endAlike started {}
  obtain ⟨sameFields, described⟩ := readFields_endAlike titled (readTitle {} (first.dropWhile isBlankText)).1 false
  obtain ⟨short, body⟩ := described.span fun line => !isHeadingOf 2 line
  simp only [ofLines]
  rw [sameTitle, sameFields, withShortDescription_endAlike short,
    (partsAt_endAlike body 2).foldl withSection_endAlike]

end PluginAudit.Readme
