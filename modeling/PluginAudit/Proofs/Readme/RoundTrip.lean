import PluginAudit.Proofs.Readme.Ending
import PluginAudit.Proofs.Readme.Fields

/-!
# Reading what was written

A readme that is written from its parts is read back as the readme these parts mean: no
value is lost or taken for something else, and nothing is warned about.
-/

namespace PluginAudit.Readme

open PluginAudit.Text

namespace Document

variable {document : Document}

/-! ## The short description -/

theorem trimmed_shortDescription (wellFormed : document.WellFormed) : Trimmed document.shortDescription :=
  .joinWith (fun word member => ⟨(wellFormed.words word member).nonempty, (wellFormed.words word member).trimmed⟩) _

theorem withShortDescription_words (wellFormed : document.WellFormed) (readme : Readme) :
    readme.withShortDescription [document.shortDescription, []] =
      { readme with shortDescription := String.ofList document.shortDescription } := by
  have collapsed : joinWith [' '] (Text.words (joinWith [' '] ([document.shortDescription, []].map trim))) =
      document.shortDescription := by
    simp only [List.map_cons, List.map_nil, (trimmed_shortDescription wellFormed).trim, Trimmed.nil.trim,
      joinWith, List.append_assoc, List.singleton_append]
    rw [words_append (by decide), shortDescription, words_joinWith wellFormed.words]
    simp [Text.words, splitBy]
  have some : document.shortDescription.isEmpty = false := by
    rw [List.isEmpty_eq_false_iff]
    intro empty
    have none := words_joinWith wellFormed.words
    rw [← shortDescription, empty] at none
    exact wellFormed.someWord none.symm
  have short : ¬ document.shortDescription.length > maximalShortDescription := by
    have := wellFormed.brevity
    omega
  simp only [withShortDescription, collapsed, some, Bool.false_eq_true, if_false, short]

end Document

/-! ## Sections -/

/-- The notices that a section gives. -/
def noticeParts (part : List Char × List (List Char)) : List (List Char × List (List Char)) :=
  if sectionTitle part.1 = "upgrade notice" then partsAt 1 part.2 else []

theorem foldl_withNotice (parts : List (List Char × List (List Char))) (readme : Readme) :
    parts.foldl withNotice readme =
      { readme with
        upgradeNotice := parts.foldl (fun stored part => Assoc.put textLess (String.ofList part.1)
          (String.ofList (trim (joinWith [' '] (part.2.map trim)))) stored) readme.upgradeNotice } := by
  induction parts generalizing readme with
  | nil => rfl
  | cons part others inductionHypothesis =>
    rw [List.foldl_cons, List.foldl_cons, inductionHypothesis]
    rfl

theorem withSection_eq (readme : Readme) (part : List Char × List (List Char)) :
    readme.withSection part =
      { (noticeParts part).foldl withNotice readme with
        sections := Assoc.put textLess (sectionTitle part.1) (String.ofList (trim (joinWith ['\n'] part.2)))
          readme.sections } := by
  rw [withSection, noticeParts]
  by_cases upgrade : sectionTitle part.1 = "upgrade notice"
  · simp [upgrade, foldl_withNotice]
  · simp [upgrade]

/-- Sections and notices are stored one after another and change nothing else. -/
theorem foldl_withSection (parts : List (List Char × List (List Char))) (readme : Readme) :
    parts.foldl withSection readme =
      { (parts.flatMap noticeParts).foldl withNotice readme with
        sections := parts.foldl (fun stored part => Assoc.put textLess (sectionTitle part.1)
          (String.ofList (trim (joinWith ['\n'] part.2))) stored) readme.sections } := by
  induction parts generalizing readme with
  | nil => rfl
  | cons part others inductionHypothesis =>
    rw [List.foldl_cons, inductionHypothesis, withSection_eq, List.flatMap_cons, List.foldl_append,
      List.foldl_cons]
    simp only [foldl_withNotice]

namespace Section

variable {part : Section}

theorem isLine_body (wellFormed : part.WellFormed) : ∀ line ∈ part.body, IsLine line := by
  intro line member
  rcases List.mem_append.mp member with own | ofNotice
  · exact (wellFormed.lines line own).1
  · exact isLine_partLines (by decide) wellFormed.versions
      (fun notice isNotice line member => (wellFormed.noticeLines notice isNotice line member).1) line ofNotice

theorem noHeading_body (wellFormed : part.WellFormed) : ∀ line ∈ part.body, isHeadingOf 2 line = false := by
  intro line member
  rcases List.mem_append.mp member with own | ofNotice
  · exact (wellFormed.lines line own).2
  · exact isHeadingOf_partLines (by decide) (by decide) (by decide) wellFormed.versions
      (fun notice isNotice line member => (wellFormed.noticeLines notice isNotice line member).2.2) line ofNotice

theorem noticeParts_body (wellFormed : part.WellFormed) : noticeParts (part.title, part.body) = part.notices := by
  have only := wellFormed.notices
  rw [noticeParts]
  split
  case isTrue upgrade =>
    rw [if_pos upgrade] at only
    rw [body, partsAt_append only, partsAt_partLines (by decide) (by decide) wellFormed.versions]
    exact fun notice isNotice line member => (wellFormed.noticeLines notice isNotice line member).2.1
  case isFalse other =>
    rw [if_neg other] at only
    exact only.symm

end Section

namespace Document

variable {document : Document}

theorem titles_parts (wellFormed : document.WellFormed) : ∀ part ∈ document.parts, IsPhrase part.1 := by
  rw [parts, List.forall_mem_map]
  exact fun part member => (wellFormed.sections part member).title

/-! ## Whole readmes -/

theorem isLine_lines (wellFormed : document.WellFormed) : ∀ line ∈ document.lines, IsLine line := by
  have ofParts : ∀ line ∈ partLines 2 document.parts, IsLine line := by
    refine isLine_partLines (by decide) (titles_parts wellFormed) ?_
    rw [parts, List.forall_mem_map]
    exact fun part member => Section.isLine_body (wellFormed.sections part member)
  have ofFields : ∀ line ∈ document.fields.map document.fieldLine, IsLine line := by
    rw [List.forall_mem_map]
    intro field _
    obtain ⟨oneLine, trimmed⟩ := wellFormed.header.values field
    obtain ⟨-, labelLine⟩ := HeaderField.not_mem_label document.brief field
    have split : document.fieldLine field =
        (field.label document.brief ++ [':', ' ']) ++ document.header.value field := by
      simp [fieldLine]
    rw [split]
    exact .append (by simp [labelLine]) (.of_trimmed oneLine trimmed) fun _ => by simp
  have ofShort : IsLine document.shortDescription := by
    refine .of_trimmed (not_mem_joinWith (by decide) fun word member lineFeed => ?_)
      (trimmed_shortDescription wellFormed)
    exact absurd ((wellFormed.words word member).letters _ lineFeed) (by decide)
  simp only [lines, List.forall_mem_cons, List.forall_mem_append]
  exact ⟨isLine_headingLine (by decide) wellFormed.name.oneLine, ofFields, .nil, ofShort, .nil, ofParts⟩

theorem titles_entries (wellFormed : document.WellFormed) :
    ((document.sections.map Section.entry).map Prod.fst).Nodup := by
  rw [List.map_map]
  exact wellFormed.titles

theorem noticeEntries_eq (document : Document) :
    document.sections.flatMap Section.noticeEntries =
      (document.sections.flatMap Section.notices).map fun notice =>
        (String.ofList notice.1, String.ofList (trim (joinWith [' '] (notice.2.map trim)))) :=
  (List.map_flatMap ..).symm

theorem versions_noticeEntries (wellFormed : document.WellFormed) :
    ((document.sections.flatMap Section.noticeEntries).map Prod.fst).Nodup := by
  have distinct := wellFormed.noticeVersions.map fun _ _ => String.ofList_injective
  rw [List.map_map] at distinct
  rwa [noticeEntries_eq, List.map_map]

theorem foldl_withSection_parts (wellFormed : document.WellFormed) {readme : Readme}
    (noSections : readme.sections = []) (noNotices : readme.upgradeNotice = []) :
    document.parts.foldl withSection readme =
      { readme with
        sections := Assoc.inOrder textLess (document.sections.map Section.entry)
        upgradeNotice := Assoc.inOrder textLess (document.sections.flatMap Section.noticeEntries) } := by
  have notices : document.parts.flatMap noticeParts = document.sections.flatMap Section.notices := by
    rw [parts, List.flatMap_map]
    exact List.flatMap_congr fun part member => Section.noticeParts_body (wellFormed.sections part member)
  rw [foldl_withSection, foldl_withNotice, notices, noSections, noNotices,
    ← Assoc.foldl_put_eq_inOrder .text (titles_entries wellFormed),
    ← Assoc.foldl_put_eq_inOrder .text (versions_noticeEntries wellFormed), noticeEntries_eq,
    List.foldl_map, List.foldl_map, parts, List.foldl_map]
  rfl

/-- The lines of a document are read as the readme it means. -/
theorem ofLines_lines (wellFormed : document.WellFormed) : ofLines document.lines = document.readme := by
  have title : heading? (headingLine 3 document.name) = some (3, document.name) :=
    heading?_headingLine (by decide) (by decide) wellFormed.name
  have notBlank : isBlankText (headingLine 3 document.name) = false := by
    rw [headingLine_succ, isBlankText, List.all_cons]
    rfl
  have titled (rest : List (List Char)) :
      readTitle {} (headingLine 3 document.name :: rest) = (Header.readme document.name {}, rest) := by
    rw [readTitle, title]
    rfl
  have notStarted : false = true ∨ document.fields ≠ [] := .inr wellFormed.someField
  have fields := readFields_fieldLines wellFormed.header wellFormed.versions [] notStarted
    (document.shortDescription :: [] :: partLines 2 document.parts)
  have allFields : document.header.only (document.fields.reverse ++ []) = document.header :=
    Header.only_eq_self wellFormed.header fun field absent => wellFormed.otherFields field (by simpa using absent)
  have noHeading : ∀ line ∈ [document.shortDescription, []], isHeadingOf 2 line = false :=
    List.forall_mem_cons.mpr ⟨wellFormed.noHeading, by simp [isHeadingOf, heading?_nil]⟩
  obtain ⟨short, behind⟩ := takeWhile_partLines (by decide) (by decide) noHeading (titles_parts wellFormed)
  have bodies : ∀ part ∈ document.parts, ∀ line ∈ part.2, isHeadingOf 2 line = false := by
    rw [parts, List.forall_mem_map]
    exact fun part member => Section.noHeading_body (wellFormed.sections part member)
  have parted := partsAt_partLines (by decide) (by decide) (titles_parts wellFormed) bodies
  rw [allFields, Header.only_nil] at fields
  simp only [List.cons_append, List.nil_append] at short behind
  rw [ofLines, lines, List.dropWhile_cons_of_neg (by simp [notBlank])]
  simp only [titled, fields, short, behind, parted]
  rw [withShortDescription_words wellFormed, foldl_withSection_parts wellFormed rfl rfl]
  rfl

/-- The lines of the text of a document are those of the document, up to an empty one at
the end, and they are not taken for Markdown. -/
theorem plainLines_of_isWritten (wellFormed : document.WellFormed) {text : String}
    (written : document.IsWritten text) : EndAlike (plainLines text.toList) document.lines := by
  have isLine := isLine_lines wellFormed
  have isText : IsTextOf document.lines text.toList := written
  have starts : StartsWith '=' document.lines := .headingLine (by decide) _ _
  rw [starts.plainLines (by decide) (by decide) isLine isText, if_neg (by decide)]
  exact isText.lines isLine

/-- What is written from the parts of a readme is read as just these parts, without a
warning; every section and every notice is found under its title or version. -/
theorem parse_of_isWritten (wellFormed : document.WellFormed) {text : String} (written : document.IsWritten text) :
    parse text = document.readme ∧ (parse text).warnings = [] ∧
      (∀ part ∈ document.sections, Assoc.get? part.entry.1 (parse text).sections = some part.entry.2) ∧
      ∀ part ∈ document.sections, ∀ notice ∈ part.noticeEntries,
        Assoc.get? notice.1 (parse text).upgradeNotice = some notice.2 := by
  have read : parse text = document.readme := by
    rw [parse, ← ofLines_endAlike (plainLines_of_isWritten wellFormed written), ofLines_lines wellFormed]
  rw [read]
  refine ⟨rfl, rfl, fun part member => ?_, fun part member notice isNotice => ?_⟩
  · exact Assoc.get?_inOrder (titles_entries wellFormed) (List.mem_map_of_mem member)
  · exact Assoc.get?_inOrder (versions_noticeEntries wellFormed)
      (List.mem_flatMap.mpr ⟨part, member, isNotice⟩)

/-- A readme with signs of headings and fields where they are none. -/
def contactBox : Document where
  name := "Contact = Box =".toList
  header :=
    { contributors := ["alice".toList, "Bob".toList]
      tags := ["forms".toList, "contact".toList]
      tested := "6.5".toList
      stableTag := "trunk".toList
      licenseUri := "https://example.org/gpl".toList }
  fields := [.licenseUri, .tested, .contributors, .stableTag, .tags]
  brief := true
  words := ["Fits:".toList, "in".toList, "a".toList, "box.".toList]
  sections :=
    [{ title := "Upgrade Notice".toList
       notices := [("1.2.0".toList, ["Security fix.".toList, "Upgrade now.".toList]),
         ("1.10.0".toList, ["Tags: none".toList, []])] },
      { title := "Frequently Asked Questions".toList },
      { title := "= Usage".toList, lines := ["= First steps =".toList, [], "=== Then ===".toList] }]

theorem parse_of_isWritten_contactBox :
    contactBox.WellFormed ∧
      parse ("=== Contact = Box = ===\n" ++ "License URI: https://example.org/gpl\n" ++ "Tested: 6.5\n" ++
        "Contributors: alice, Bob\n" ++ "Stable tag: trunk\n" ++ "Tags: forms, contact\n" ++ "\n" ++
        "Fits: in a box.\n" ++ "\n" ++ "== Upgrade Notice ==\n" ++ "= 1.2.0 =\n" ++ "Security fix.\n" ++
        "Upgrade now.\n" ++ "= 1.10.0 =\n" ++ "Tags: none\n" ++ "\n" ++
        "== Frequently Asked Questions ==\n" ++ "== = Usage ==\n" ++ "= First steps =\n" ++ "\n" ++
        "=== Then ===") =
      { name := "Contact = Box ="
        contributors := ["alice", "Bob"]
        tags := ["forms", "contact"]
        tested := "6.5"
        stableTag := "trunk"
        licenseUri := "https://example.org/gpl"
        shortDescription := "Fits: in a box."
        sections :=
          [("= usage", "= First steps =\n\n=== Then ==="), ("faq", ""),
            ("upgrade notice", "= 1.2.0 =\nSecurity fix.\nUpgrade now.\n= 1.10.0 =\nTags: none")]
        upgradeNotice := [("1.10.0", "Tags: none"), ("1.2.0", "Security fix. Upgrade now.")] } := by
  have header : contactBox.header.WellFormed := by
    refine ⟨⟨?_, ?_⟩, ⟨?_, ?_⟩, ?_, ?_, ?values⟩
    case values => intro field; cases field <;> decide +kernel
    all_goals decide +kernel
  have wellFormed : contactBox.WellFormed := by
    refine ⟨?_, header, ?_, ?_, ?others, ?_, ?_, ?_, ?_, ?_, ?_, ?_⟩
    case others => intro field; cases field <;> decide +kernel
    all_goals decide +kernel
  refine ⟨wellFormed, (parse_of_isWritten wellFormed (.inr ?_)).1.trans ?_⟩
  · simp only [String.toList_append]
    decide +kernel
  · rw [readme, ← Assoc.foldl_put_eq_inOrder .text (titles_entries wellFormed),
      ← Assoc.foldl_put_eq_inOrder .text (versions_noticeEntries wellFormed)]
    decide +kernel

end Document

end PluginAudit.Readme
