import Mathlib.Data.List.Infix
import PluginAudit.Proofs.Readme.Ending
import PluginAudit.Proofs.Readme.Heading

/-!
# Readmes in Markdown

The lines of a readme in their two forms, plain and Markdown.  Reading brings each Markdown
line into its plain form, whatever marks are in its title, label or value, so that a readme
in Markdown is read as the plain one with the same lines.

A heading in Markdown may be closed by marks.  Of one that is not closed, marks at the end of
the title are taken for closing ones: `# Forms #` is how the title `Forms` is written with
closing marks, and `Forms #` without.
-/

namespace PluginAudit.Readme

open PluginAudit.Text

/-- A line of a readme. -/
inductive Line
  /-- A heading; `closed` says whether its Markdown form is closed by marks. -/
  | heading (level : Nat) (title : List Char) (closed : Bool)
  /-- A header field. -/
  | field (label value : List Char)
  /-- Any other line, which is written the same in both forms. -/
  | text (line : List Char)

/-- A line that Markdown does not take for a heading or a bold label, white space around it
left aside. -/
structure IsPlain (line : List Char) : Prop where
  noHeading : ∀ marks, 1 ≤ marks → marks ≤ 3 → ∀ rest, trim line ≠ List.replicate marks '#' ++ ' ' :: rest
  noLabel : ∀ label rest, trim line ≠ ['*', '*'] ++ (label ++ [':', '*', '*'] ++ rest)

instance (line : List Char) : Decidable (IsPlain line) :=
  decidable_of_iff ((∀ marks ∈ [1, 2, 3], ¬ List.replicate marks '#' ++ [' '] <+: trim line) ∧
      ¬ (['*', '*'] <+: trim line ∧ [':', '*', '*'] <:+: (trim line).drop 2)) <| by
    constructor
    · rintro ⟨noHeading, noLabel⟩
      refine ⟨fun marks positive small rest split => ?_, fun label rest split => noLabel ?_⟩
      · exact noHeading marks (by simp; omega) ⟨rest, by simp [split]⟩
      · exact ⟨⟨_, split.symm⟩, label, rest, by simp [split]⟩
    · rintro ⟨noHeading, noLabel⟩
      refine ⟨fun marks small => ?_, ?_⟩
      · rintro ⟨rest, split⟩
        simp only [List.mem_cons, List.not_mem_nil, or_false] at small
        exact noHeading marks (by omega) (by omega) rest (by simp [← split])
      · rintro ⟨⟨rest, split⟩, label, value, found⟩
        rw [← split] at found
        exact noLabel label value (split.symm.trans (congrArg (['*', '*'] ++ ·) found.symm))

namespace Line

/-- The line of a plain readme. -/
def plainForm : Line → List Char
  | heading level title _ => headingLine level title
  | field label value => label ++ ':' :: ' ' :: value
  | text line => line

/-- The line of a readme in Markdown, where the highest level has a single mark. -/
def markdownForm : Line → List Char
  | heading level title false => List.replicate (4 - level) '#' ++ ' ' :: title
  | heading level title true =>
      List.replicate (4 - level) '#' ++ (' ' :: title ++ [' ']) ++ List.replicate (4 - level) '#'
  | field label value => '*' :: '*' :: label ++ [':', '*', '*'] ++ ' ' :: value
  | text line => line

/-- A line that can be written in both forms. -/
def WellFormed : Line → Prop
  | heading level title _ => 1 ≤ level ∧ level ≤ 3 ∧ IsPhrase title
  | field label value => ':' ∉ label ∧ '\n' ∉ label ∧ IsPhrase value
  | text line => IsLine line ∧ IsPlain line

instance : (line : Line) → Decidable line.WellFormed
  | heading level title _ => inferInstanceAs (Decidable (1 ≤ level ∧ level ≤ 3 ∧ IsPhrase title))
  | field label value => inferInstanceAs (Decidable (':' ∉ label ∧ '\n' ∉ label ∧ IsPhrase value))
  | text line => inferInstanceAs (Decidable (IsLine line ∧ IsPlain line))

/-- A line whose Markdown form cannot be taken for one with closing marks. -/
def Unambiguous : Line → Prop
  | heading _ title closed => closed = false → title.getLast? ≠ some '#'
  | _ => True

instance : (line : Line) → Decidable line.Unambiguous
  | heading _ title closed => inferInstanceAs (Decidable (closed = false → title.getLast? ≠ some '#'))
  | field .. | text _ => inferInstanceAs (Decidable True)

/-- Whether a line is blank. -/
def isBlank : Line → Bool
  | text line => isBlankText line
  | _ => false

/-- Whether a line is a heading. -/
def isHeading : Line → Bool
  | heading .. => true
  | _ => false

variable {line : Line}

/-! ## Line by line -/

theorem isLine_plainForm (wellFormed : line.WellFormed) : IsLine line.plainForm := by
  cases line with
  | heading level title closed =>
    obtain ⟨positive, -, isPhrase⟩ := wellFormed
    exact isLine_headingLine positive isPhrase.oneLine
  | field label value =>
    obtain ⟨-, labelLine, isPhrase⟩ := wellFormed
    have split : plainForm (field label value) = (label ++ [':', ' ']) ++ value := by simp [plainForm]
    rw [split]
    exact .append (by simp [labelLine]) (.of_trimmed isPhrase.oneLine isPhrase.trimmed) fun _ => by simp
  | text line => exact wellFormed.1

theorem trimmed_markdownForm_heading {level : Nat} {title : List Char} {closed : Bool}
    (wellFormed : (heading level title closed).WellFormed) : Trimmed (heading level title closed).markdownForm := by
  obtain ⟨positive, small, isPhrase⟩ := wellFormed
  obtain ⟨marks, count⟩ : ∃ marks, 4 - level = marks + 1 := ⟨3 - level, by omega⟩
  have mark : Trimmed ['#'] := by decide
  cases closed with
  | false =>
    have split : markdownForm (heading level title false) =
        ['#'] ++ (List.replicate marks '#' ++ [' ']) ++ title := by
      simp [markdownForm, count, List.replicate_succ]
    rw [split]
    exact mark.append (by simp) isPhrase.trimmed isPhrase.nonempty _
  | true =>
    have split : markdownForm (heading level title true) =
        ['#'] ++ (List.replicate marks '#' ++ (' ' :: title ++ [' ']) ++ List.replicate marks '#') ++ ['#'] := by
      simp [markdownForm, count, List.replicate_succ, ← List.replicate_succ']
    rw [split]
    exact mark.append (by simp) mark (by simp) _

theorem trimmed_markdownForm_field {label value : List Char} (isPhrase : IsPhrase value) :
    Trimmed (field label value).markdownForm := by
  have split : markdownForm (field label value) = ['*'] ++ ('*' :: label ++ [':', '*', '*', ' ']) ++ value := by
    simp [markdownForm]
  have mark : Trimmed ['*'] := by decide
  rw [split]
  exact mark.append (by simp) isPhrase.trimmed isPhrase.nonempty _

theorem isLine_markdownForm (wellFormed : line.WellFormed) : IsLine line.markdownForm := by
  cases line with
  | heading level title closed =>
    refine .of_trimmed ?_ (trimmed_markdownForm_heading wellFormed)
    have oneLine := wellFormed.2.2.oneLine
    cases closed <;> simp [markdownForm, oneLine]
  | field label value =>
    obtain ⟨-, labelLine, isPhrase⟩ := wellFormed
    refine .of_trimmed ?_ (trimmed_markdownForm_field isPhrase)
    simp [markdownForm, labelLine, isPhrase.oneLine]
  | text line => exact wellFormed.1

/-- A line that starts with marks and a space becomes the heading of what the marks leave. -/
theorem plainLine_marks {marks : Nat} (positive : 1 ≤ marks) (small : marks ≤ 3) {rest : List Char}
    (trimmed : Trimmed (List.replicate marks '#' ++ ' ' :: rest)) :
    plainLine (List.replicate marks '#' ++ ' ' :: rest) =
      headingLine (4 - marks) (trim (trimBy (· == '#') (List.replicate marks '#' ++ ' ' :: rest))) := by
  have start : (List.replicate marks '#' ++ ' ' :: rest).takeWhile (· == '#') = List.replicate marks '#' := by
    rw [List.takeWhile_append_of_pos (by simp), List.takeWhile_cons_of_neg (by decide), List.append_nil]
  have behind : ((List.replicate marks '#' ++ ' ' :: rest).drop marks).head? = some ' ' := by
    simp
  simp only [plainLine, trimmed.trim, start, List.length_replicate, behind, positive, small, decide_true,
    Bool.and_self, beq_self_eq_true, if_true, headingLine]
  simp

theorem plainLine_eq_self {line : List Char} (isPlain : IsPlain line) : plainLine line = line := by
  have noHeading : ¬ (1 ≤ ((trim line).takeWhile (· == '#')).length &&
      ((trim line).takeWhile (· == '#')).length ≤ 3 &&
      ((trim line).drop ((trim line).takeWhile (· == '#')).length).head? == some ' ') := by
    simp only [Bool.and_eq_true, decide_eq_true_eq, beq_iff_eq]
    rintro ⟨⟨positive, small⟩, behind⟩
    obtain ⟨rest, split⟩ := List.head?_eq_some_iff.mp behind
    have marks : (trim line).takeWhile (· == '#') =
        List.replicate ((trim line).takeWhile (· == '#')).length '#' :=
      List.eq_replicate_of_mem fun c member => by simpa using List.mem_takeWhile_imp member
    have whole := List.take_append_drop ((trim line).takeWhile (· == '#')).length (trim line)
    rw [← List.prefix_iff_eq_take.mp (List.takeWhile_prefix _), split] at whole
    exact isPlain.noHeading _ positive small rest (whole.symm.trans (congrArg (· ++ ' ' :: rest) marks))
  rw [plainLine, if_neg noHeading]
  cases starts : after? ['*', '*'] (trim line) with
  | none => rfl
  | some rest =>
    have noLabel : ¬ [':', '*', '*'] <:+: rest := by
      rintro ⟨label, value, found⟩
      exact isPlain.noLabel label value (found ▸ after?_eq_some.mp starts)
    simp only [upTo?_eq_none noLabel]

/-- The Markdown form of a line becomes its plain form. -/
theorem plainLine_markdownForm (wellFormed : line.WellFormed) (unambiguous : line.Unambiguous) :
    plainLine line.markdownForm = line.plainForm := by
  cases line with
  | heading level title closed =>
    have trimmed := trimmed_markdownForm_heading wellFormed
    obtain ⟨positive, small, isPhrase⟩ := wellFormed
    have level_eq : 4 - (4 - level) = level := by omega
    have mark : ∀ c ∈ List.replicate (4 - level) '#', c == '#' := by simp
    cases closed with
    | false =>
      rw [markdownForm] at trimmed ⊢
      have inner : trimBy (· == '#') (List.replicate (4 - level) '#' ++ ' ' :: title) =
          trimBy (· == '#') (' ' :: title) := by
        simpa using trimBy_append mark (List.forall_mem_nil _)
      rw [plainLine_marks (by omega) (by omega) trimmed, inner, level_eq, trimBy_eq_self, trim_space,
        isPhrase.trimmed.trim, plainForm]
      · intro c start
        cases start
        rfl
      · intro c stop
        rw [List.getLast?_cons_of_ne_nil isPhrase.nonempty] at stop
        rw [beq_eq_false_iff_ne]
        rintro rfl
        exact unambiguous rfl stop
    | true =>
      have inner : trimBy (· == '#') (List.replicate (4 - level) '#' ++ (' ' :: title ++ [' ']) ++
          List.replicate (4 - level) '#') = ' ' :: title ++ [' '] :=
        (trimBy_append mark mark).trans (trimBy_spaced (by decide) _)
      have split : markdownForm (heading level title true) =
          List.replicate (4 - level) '#' ++ ' ' :: (title ++ ' ' :: List.replicate (4 - level) '#') := by
        simp [markdownForm]
      rw [markdownForm] at split
      rw [markdownForm, split] at trimmed
      rw [markdownForm, split, plainLine_marks (by omega) (by omega) trimmed, ← split, inner,
        isPhrase.trimmed.trim_spaced, level_eq, plainForm]
  | field label value =>
    obtain ⟨noColon, -, isPhrase⟩ := wellFormed
    have trimmed : Trimmed (field label value).markdownForm := trimmed_markdownForm_field isPhrase
    have found : upTo? [':', '*', '*'] (label ++ [':', '*', '*'] ++ ' ' :: value) = some label :=
      upTo?_append noColon _ _
    have noMarks : (markdownForm (field label value)).takeWhile (· == '#') = [] := rfl
    have starts : after? ['*', '*'] (markdownForm (field label value)) =
        some (label ++ [':', '*', '*'] ++ ' ' :: value) := after?_eq_some.mpr (by simp [markdownForm])
    have behind : (label ++ [':', '*', '*'] ++ ' ' :: value).drop (label.length + 3) = ' ' :: value :=
      List.drop_left' (by simp)
    simp only [plainLine, trimmed.trim, noMarks, starts, found, behind, List.length_nil]
    simp [plainForm]
  | text line => exact plainLine_eq_self wellFormed.2

theorem head?_plainForm (wellFormed : line.WellFormed) (isHeading : line.isHeading) :
    line.plainForm.head? = some '=' := by
  cases line with
  | heading level title closed =>
    obtain ⟨level, rfl⟩ := Nat.exists_eq_succ_of_ne_zero (Nat.ne_of_gt wellFormed.1)
    rw [plainForm, headingLine_succ, List.head?_cons]
  | field | text => cases isHeading

theorem head?_markdownForm (wellFormed : line.WellFormed) (isHeading : line.isHeading) :
    line.markdownForm.head? = some '#' := by
  cases line with
  | heading level title closed =>
    obtain ⟨-, small, -⟩ := wellFormed
    obtain ⟨marks, count⟩ : ∃ marks, 4 - level = marks + 1 := ⟨3 - level, by omega⟩
    cases closed <;> simp [markdownForm, count, List.replicate_succ]
  | field | text => cases isHeading

end Line

/-! ## Whole readmes -/

/-- Whether the first line that is not blank is a heading. -/
def startsWithHeading (document : List Line) : Bool :=
  (document.find? fun line => !line.isBlank).any Line.isHeading

variable {document : List Line}

/-- The mark of the headings stands at the start also behind blank lines. -/
theorem startsWith_map {form : Line → List Char} {mark : Char} (notBlank : isBlank mark = false)
    (heading : ∀ line ∈ document, line.isHeading → (form line).head? = some mark)
    (text : ∀ line, form (.text line) = line) (starts : startsWithHeading document) :
    StartsWith mark (document.map form) := by
  induction document with
  | nil => cases starts
  | cons line others inductionHypothesis =>
    have later := inductionHypothesis fun other member => heading other (List.mem_cons_of_mem line member)
    rw [startsWithHeading] at starts
    cases line with
    | heading level title closed =>
      obtain ⟨rest, form_eq⟩ := List.head?_eq_some_iff.mp (heading _ List.mem_cons_self rfl)
      exact ⟨rest, by simp [form_eq, isBlankText, notBlank]⟩
    | field label value => cases starts
    | text line =>
      cases blank : isBlankText line with
      | true =>
        rw [List.find?_cons_of_neg (by simp [Line.isBlank, blank])] at starts
        obtain ⟨rest, found⟩ := later starts
        exact ⟨rest, by rw [List.map_cons, text, List.find?_cons_of_neg (by simp [blank]), found]⟩
      | false =>
        rw [List.find?_cons_of_pos (by simp [Line.isBlank, blank])] at starts
        cases starts

/-- A readme in Markdown is read as the plain one with the same lines, whatever marks are in
them. -/
theorem parse_markdown (wellFormed : ∀ line ∈ document, line.WellFormed)
    (unambiguous : ∀ line ∈ document, line.Unambiguous) (starts : startsWithHeading document)
    {plain markdown : String} (plainText : IsTextOf (document.map Line.plainForm) plain.toList)
    (markdownText : IsTextOf (document.map Line.markdownForm) markdown.toList) :
    parse markdown = parse plain := by
  have plainLine : ∀ line ∈ document.map Line.plainForm, IsLine line :=
    List.forall_mem_map.mpr fun line member => Line.isLine_plainForm (wellFormed line member)
  have markdownLine : ∀ line ∈ document.map Line.markdownForm, IsLine line :=
    List.forall_mem_map.mpr fun line member => Line.isLine_markdownForm (wellFormed line member)
  have startsPlain : StartsWith '=' (document.map Line.plainForm) :=
    startsWith_map (by decide) (fun line member => Line.head?_plainForm (wellFormed line member)) (fun _ => rfl) starts
  have startsMarkdown : StartsWith '#' (document.map Line.markdownForm) :=
    startsWith_map (by decide) (fun line member => Line.head?_markdownForm (wellFormed line member)) (fun _ => rfl)
      starts
  have became : (document.map Line.markdownForm).map Readme.plainLine = document.map Line.plainForm := by
    rw [List.map_map]
    exact List.map_congr_left fun line member =>
      Line.plainLine_markdownForm (wellFormed line member) (unambiguous line member)
  have read := markdownText.lines markdownLine
  have rewritten : EndAlike ((lines markdown.toList).map Readme.plainLine) (document.map Line.plainForm) :=
    became ▸ read.map rfl
  have joined := (IsTextOf.joinWith (List.map_eq_nil_iff.not.mpr (startsMarkdown.of_endAlike read).ne_nil)).lines
    fun line member => plainLine line (rewritten.subset member)
  rw [parse, parse, startsPlain.plainLines (by decide) (by decide) plainLine plainText, if_neg (by decide),
    startsMarkdown.plainLines (by decide) (by decide) markdownLine markdownText, if_pos rfl,
    ← ofLines_endAlike joined, ← ofLines_endAlike rewritten, ← ofLines_endAlike (plainText.lines plainLine)]

/-- A readme with marks of both forms in its titles, labels, values and lines. -/
def contactCard : List Line :=
  [.text "  ".toList, .heading 3 "= Card #1 =".toList false, .field "Tags".toList "#forms, **card:**".toList,
    .field "** Note #".toList "= 2 =".toList, .text [], .text "#Fits: ** in a card.".toList,
    .heading 2 "## C# ##".toList true, .text "#### Then ####".toList, .text "= Or =".toList,
    .heading 2 "Upgrade Notice".toList false, .heading 1 "#2.0".toList false, .text "  Now.".toList]

theorem parse_markdown_contactCard :
    (∀ line ∈ contactCard, line.WellFormed ∧ line.Unambiguous) ∧ startsWithHeading contactCard ∧
      parse ("  \n# = Card #1 =\n**Tags:** #forms, **card:**\n**** Note #:** = 2 =\n\n" ++
          "#Fits: ** in a card.\n## ## C# ## ##\n#### Then ####\n= Or =\n## Upgrade Notice\n### #2.0\n  Now.") =
        parse ("  \n=== = Card #1 = ===\nTags: #forms, **card:**\n** Note #: = 2 =\n\n" ++
          "#Fits: ** in a card.\n== ## C# ## ==\n#### Then ####\n= Or =\n== Upgrade Notice ==\n= #2.0 =\n" ++
          "  Now.\n") := by
  have wellFormed : ∀ line ∈ contactCard, line.WellFormed ∧ line.Unambiguous := by decide +kernel
  have starts : startsWithHeading contactCard := by decide +kernel
  refine ⟨wellFormed, starts, parse_markdown (fun line member => (wellFormed line member).1)
    (fun line member => (wellFormed line member).2) starts (.inl ?plain) (.inr ?markdown)⟩
  all_goals
    simp only [String.toList_append]
    decide +kernel

/-- Of a heading that is not closed, marks at the end of the title are lost, since in Markdown
it can be the same line as the closed heading of another title.  Nor is a line with marks
behind white space left alone. -/
theorem parse_markdown_ambiguous :
    (Line.heading 3 "C#".toList false).WellFormed ∧
      (Line.heading 3 "C#".toList false).markdownForm = "# C#".toList ∧
      (Line.heading 3 "C#".toList false).plainForm = "=== C# ===".toList ∧
      parse "# C#" ≠ parse "=== C# ===" ∧
      (Line.heading 3 "Forms #".toList false).markdownForm = (Line.heading 3 "Forms".toList true).markdownForm ∧
      parse "=== Forms # ===" ≠ parse "=== Forms ===" ∧
      parse "# Forms #\n # Usage" ≠ parse "=== Forms ===\n # Usage" := by
  decide +kernel

end PluginAudit.Readme
