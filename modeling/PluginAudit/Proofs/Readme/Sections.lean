import PluginAudit.Proofs.Readme.RoundTrip
import PluginAudit.Proofs.Text.Parts

/-!
# Where sections come from

Whatever the lines of a readme are, its sections are those that headings of the second level
start.  Of several with one title the last one counts, with all lines up to the next of these
headings.
-/

namespace PluginAudit.Readme

open PluginAudit.Text

variable {level : Nat} {key : String} {line : List Char} {lines body rest : List (List Char)}

/-! ## Parts -/

theorem isHeadingOf_iff : isHeadingOf level line ↔ ∃ title, heading? line = some (level, title) := by
  rw [isHeadingOf]
  cases heading? line with
  | none => simp
  | some found => simp [Prod.ext_iff]

theorem partsAt_cons_of_heading {title : List Char} (isHeading : heading? line = some (level, title))
    (rest : List (List Char)) :
    partsAt level (line :: rest) = (title, rest.takeWhile fun next => !isHeadingOf level next) :: partsAt level rest := by
  simp [partsAt, isHeading]

theorem partsAt_cons_of_not_heading (noHeading : isHeadingOf level line = false) (rest : List (List Char)) :
    partsAt level (line :: rest) = partsAt level rest := by
  have alone : ∀ other ∈ [line], isHeadingOf level other = false := List.forall_mem_singleton.mpr noHeading
  exact partsAt_append alone rest

/-- Every part starts with a heading of the lines. -/
theorem exists_heading_of_mem_partsAt {part : List Char × List (List Char)} (member : part ∈ partsAt level lines) :
    ∃ line ∈ lines, heading? line = some (level, part.1) := by
  induction lines with
  | nil => cases member
  | cons line rest inductionHypothesis =>
    rw [List.exists_mem_cons_iff]
    cases isHeading : isHeadingOf level line with
    | false =>
      rw [partsAt_cons_of_not_heading isHeading] at member
      exact .inr (inductionHypothesis member)
    | true =>
      obtain ⟨title, found⟩ := isHeadingOf_iff.mp isHeading
      rw [partsAt_cons_of_heading found, List.mem_cons] at member
      rcases member with rfl | later
      · exact .inl found
      · exact .inr (inductionHypothesis later)

/-! ## Sections -/

/-- Whether a line starts a section that is kept under a title. -/
def Starts (key : String) (line : List Char) : Prop :=
  ∃ title, heading? line = some (2, title) ∧ sectionTitle title = key

/-- The lines behind the last heading that starts a section with a title, up to the next section. -/
def IsLastSection (key : String) (lines body : List (List Char)) : Prop :=
  ∃ before heading after, lines = before ++ heading :: (body ++ after) ∧ Starts key heading ∧
    (∀ line ∈ body, isHeadingOf 2 line = false) ∧ (∀ line, after.head? = some line → isHeadingOf 2 line) ∧
    ∀ line ∈ after, ¬ Starts key line

theorem Starts.isHeadingOf (starts : Starts key line) : isHeadingOf 2 line := by
  obtain ⟨title, isHeading, -⟩ := starts
  exact isHeadingOf_iff.mpr ⟨title, isHeading⟩

theorem not_starts_of_not_heading (noHeading : ∀ line ∈ lines, isHeadingOf 2 line = false) (key : String) :
    ∀ line ∈ lines, ¬ Starts key line :=
  fun line member starts => Bool.false_ne_true ((noHeading line member).symm.trans starts.isHeadingOf)

theorem isLastSection_cons : IsLastSection key (line :: rest) body ↔
    IsLastSection key rest body ∨
      Starts key line ∧ body = rest.takeWhile (fun next => !isHeadingOf 2 next) ∧ ∀ other ∈ rest, ¬ Starts key other := by
  constructor
  · rintro ⟨before, heading, after, split, starts, inBody, ends, last⟩
    cases before with
    | nil =>
      obtain ⟨rfl, rfl⟩ := List.cons.inj split
      refine .inr ⟨starts, ?_, List.forall_mem_append.mpr ⟨not_starts_of_not_heading inBody key, last⟩⟩
      rw [List.takeWhile_append_of_pos (by simpa using inBody)]
      cases after with
      | nil => simp
      | cons next others => rw [List.takeWhile_cons_of_neg (by simpa using ends next rfl), List.append_nil]
    | cons first before =>
      exact .inl ⟨before, heading, after, (List.cons.inj split).2, starts, inBody, ends, last⟩
  · rintro (⟨before, heading, after, rfl, others⟩ | ⟨starts, rfl, last⟩)
    · exact ⟨line :: before, heading, after, rfl, others⟩
    · refine ⟨[], line, rest.dropWhile fun next => !isHeadingOf 2 next, ?_, starts, ?_, ?_, ?_⟩
      · rw [List.takeWhile_append_dropWhile, List.nil_append]
      · intro other member
        simpa using List.mem_takeWhile_imp member
      · exact fun next isNext => by simpa using not_of_head?_dropWhile isNext
      · exact fun other member => last other ((List.dropWhile_suffix _).subset member)

theorem isLastSection_append (noHeading : ∀ line ∈ lines, isHeadingOf 2 line = false) :
    IsLastSection key (lines ++ rest) body ↔ IsLastSection key rest body := by
  induction lines with
  | nil => rfl
  | cons line others inductionHypothesis =>
    have notHere := not_starts_of_not_heading noHeading key line List.mem_cons_self
    rw [List.cons_append, isLastSection_cons, inductionHypothesis fun other member =>
      noHeading other (List.mem_cons_of_mem line member)]
    simp [notHere]

theorem exists_isLastSection (member : line ∈ lines) (starts : Starts key line) :
    ∃ body, IsLastSection key lines body := by
  induction lines generalizing line with
  | nil => cases member
  | cons first rest inductionHypothesis =>
    by_cases later : ∃ other ∈ rest, Starts key other
    · obtain ⟨other, isIn, startsOther⟩ := later
      obtain ⟨body, isLast⟩ := inductionHypothesis isIn startsOther
      exact ⟨body, isLastSection_cons.mpr (.inl isLast)⟩
    · simp only [not_exists, not_and] at later
      obtain rfl : line = first := (List.mem_cons.mp member).resolve_right fun isIn => later line isIn starts
      exact ⟨_, isLastSection_cons.mpr (.inr ⟨starts, rfl, later⟩)⟩

/-- The text that is kept for a section. -/
def sectionText (body : List (List Char)) : String := String.ofList (trim (joinWith ['\n'] body))

theorem sections_withSection (readme : Readme) (part : List Char × List (List Char)) :
    (readme.withSection part).sections =
      Assoc.put textLess (sectionTitle part.1) (sectionText part.2) readme.sections := by
  rw [withSection_eq]
  rfl

/-- What is kept under a title when the parts of a text have been taken over. -/
theorem get?_sections (readme : Readme) (text : String) :
    Assoc.get? key ((partsAt 2 lines).foldl withSection readme).sections = some text ↔
      (∃ body, IsLastSection key lines body ∧ text = sectionText body) ∨
        (∀ line ∈ lines, ¬ Starts key line) ∧ Assoc.get? key readme.sections = some text := by
  induction lines generalizing readme with
  | nil =>
    have none : ∀ body, ¬ IsLastSection key [] body := by
      rintro body ⟨before, heading, after, whole, -⟩
      simp at whole
    simp [partsAt, none]
  | cons line rest inductionHypothesis =>
    simp only [isLastSection_cons, List.forall_mem_cons]
    cases isHeading : isHeadingOf 2 line with
    | false =>
      have notHere : ¬ Starts key line := fun starts => Bool.false_ne_true (isHeading.symm.trans starts.isHeadingOf)
      rw [partsAt_cons_of_not_heading isHeading, inductionHypothesis]
      simp [notHere]
    | true =>
      obtain ⟨title, found⟩ := isHeadingOf_iff.mp isHeading
      have starts_iff : Starts key line ↔ sectionTitle title = key := by
        simp [Starts, found]
      rw [partsAt_cons_of_heading found, List.foldl_cons, inductionHypothesis, sections_withSection, starts_iff]
      by_cases same : sectionTitle title = key
      · subst same
        rw [Assoc.get?_put_self .text, Option.some.injEq]
        -- the part that starts here is the one that counts if no later one has its title
        constructor
        · rintro (⟨body, isLast, rfl⟩ | ⟨last, rfl⟩)
          · exact .inl ⟨body, .inl isLast, rfl⟩
          · exact .inl ⟨_, .inr ⟨rfl, rfl, last⟩, rfl⟩
        · rintro (⟨body, isLast | ⟨-, rfl, last⟩, rfl⟩ | ⟨⟨notHere, -⟩, -⟩)
          · exact .inl ⟨body, isLast, rfl⟩
          · exact .inr ⟨last, rfl⟩
          · exact absurd rfl notHere
      · rw [Assoc.get?_put_other .text (Ne.symm same)]
        simp [same]

theorem ascending_sections (parts : List (List Char × List (List Char))) {readme : Readme}
    (ascending : Assoc.Ascending textLess readme.sections) :
    Assoc.Ascending textLess (parts.foldl withSection readme).sections := by
  induction parts generalizing readme with
  | nil => exact ascending
  | cons part others inductionHypothesis =>
    refine inductionHypothesis ?_
    rw [sections_withSection]
    exact Assoc.ascending_put .text _ _ ascending

/-- Upgrade notices come from a section of their own. -/
theorem exists_starts_of_upgradeNotice {readme : Readme} (none : readme.upgradeNotice = [])
    (notices : ((partsAt 2 lines).foldl withSection readme).upgradeNotice ≠ []) :
    ∃ line ∈ lines, Starts "upgrade notice" line := by
  rw [foldl_withSection, foldl_withNotice, none] at notices
  obtain ⟨notice, isNotice⟩ : ∃ notice, notice ∈ (partsAt 2 lines).flatMap noticeParts := by
    refine List.exists_mem_of_ne_nil _ fun empty => notices ?_
    simp [empty]
  obtain ⟨part, isPart, isNotice⟩ := List.mem_flatMap.mp isNotice
  obtain ⟨line, isLine, isHeading⟩ := exists_heading_of_mem_partsAt isPart
  rw [noticeParts] at isNotice
  split at isNotice
  case isTrue upgrade => exact ⟨line, isLine, part.1, isHeading, upgrade⟩
  case isFalse => cases isNotice

end PluginAudit.Readme
