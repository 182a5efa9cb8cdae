import PluginAudit.Proofs.Pattern.Version
import PluginAudit.Proofs.Readme.Sections

/-!
# The rules that every readme keeps

Whatever text is read, malformed or not, the readme has a name and a short description or a warning
says that they are missing, its lists hold few and different items, its versions are versions, and its
sections are those of the text.  Each phase of reading keeps the rules that the phases before it
have established.
-/

namespace PluginAudit

open PluginAudit.Text

namespace ReadmeWarning

theorem rank_injective : Function.Injective rank := by
  intro a b same
  cases a <;> cases b <;> first | rfl | cases same

theorem rankOrder : KeyOrder fun a b : ReadmeWarning => decide (a.rank < b.rank) where
  irreflexive a := by simp
  transitive := by
    intro a b c first second
    simp only [decide_eq_true_eq] at *
    exact first.trans second
  connected := by
    intro a b notLess notGreater
    simp only [decide_eq_false_iff_not, not_lt] at *
    exact rank_injective (le_antisymm notGreater notLess)

end ReadmeWarning

namespace Readme

variable {readme next : Readme} {value : List Char} {lines : List (List Char)}

theorem mem_warn {warning other : ReadmeWarning} :
    warning ∈ (readme.warn other).warnings ↔ warning = other ∨ warning ∈ readme.warnings :=
  SortedList.mem_insert ReadmeWarning.rankOrder

/-! ## Items -/

/-- Items of which no two are the same up to case. -/
structure IsItems (items : List String) : Prop where
  item : ∀ item ∈ items, IsItem item.toList
  distinct : (items.map String.lowercased).Nodup

theorem distinctItems_sublist (seen items : List (List Char)) : (distinctItems seen items).Sublist items := by
  induction items generalizing seen with
  | nil => exact .slnil
  | cons item others inductionHypothesis =>
    rw [distinctItems]
    split
    · exact (inductionHypothesis seen).cons item
    · exact (inductionHypothesis _).cons_cons item

theorem not_mem_of_mem_distinctItems {seen items : List (List Char)} {item : List Char}
    (member : item ∈ distinctItems seen items) : lowercase item ∉ seen := by
  induction items generalizing seen with
  | nil => cases member
  | cons first others inductionHypothesis =>
    rw [distinctItems] at member
    split at member
    case isTrue => exact inductionHypothesis member
    case isFalse new =>
      rcases List.mem_cons.mp member with rfl | later
      · simpa using new
      · exact fun isSeen => inductionHypothesis later (List.mem_cons_of_mem _ isSeen)

theorem nodup_distinctItems (seen items : List (List Char)) : ((distinctItems seen items).map lowercase).Nodup := by
  induction items generalizing seen with
  | nil => exact .nil
  | cons item others inductionHypothesis =>
    rw [distinctItems]
    split
    · exact inductionHypothesis seen
    · rw [List.map_cons, List.nodup_cons]
      refine ⟨fun again => ?_, inductionHypothesis _⟩
      obtain ⟨other, member, same⟩ := List.mem_map.mp again
      exact not_mem_of_mem_distinctItems member (same ▸ List.mem_cons_self)

namespace IsItems

theorem nil : IsItems [] := ⟨List.forall_mem_nil _, .nil⟩

/-- Some of the different items of a value. -/
theorem of_sublist {kept : List (List Char)} (sublist : kept.Sublist (distinctCommaItems value)) :
    IsItems (kept.map String.ofList) := by
  constructor
  · intro item member
    obtain ⟨text, isKept, rfl⟩ := List.mem_map.mp member
    rw [String.toList_ofList]
    exact (mem_commaItems ((distinctItems_sublist [] _).subset (sublist.subset isKept))).1
  · have distinct := (nodup_distinctItems [] (commaItems value)).sublist (sublist.map lowercase)
    have texts : (kept.map String.ofList).map String.lowercased = (kept.map lowercase).map String.ofList := by
      simp [String.lowercased]
    rw [texts]
    exact distinct.map fun a b same => String.ofList_injective same

end IsItems

/-- At most five items, none of them without meaning. -/
structure IsTagList (tags : List String) : Prop extends IsItems tags where
  few : tags.length ≤ 5
  useful : ∀ tag ∈ tags, lowercase tag.toList ∉ ignoredTags

theorem isTagList_take (value : List Char) :
    IsTagList ((((distinctCommaItems value).filter fun tag => !ignoredTags.contains (lowercase tag)).take maximalTags).map
      String.ofList) where
  toIsItems := .of_sublist ((List.take_sublist _ _).trans List.filter_sublist)
  few := by
    rw [List.length_map, List.length_take]
    exact Nat.min_le_left _ _
  useful := by
    rw [List.forall_mem_map]
    intro tag member
    simpa using (List.mem_filter.mp (List.mem_of_mem_take member)).2

/-- Taking over tags is noting what is left out of them, and keeping the others. -/
theorem withTags_keeps {holds : Readme → Prop} (ignored : ∀ {readme}, holds readme → holds (readme.warn .ignoredTags))
    (tooMany : ∀ {readme}, holds readme → holds (readme.warn .tooManyTags))
    (keeps : ∀ {readme tags}, IsTagList tags → holds readme → holds { readme with tags }) (value : List Char)
    (start : holds readme) : holds (readme.withTags value) := by
  refine keeps (isTagList_take value) ?_
  split
  · split
    · exact start
    · exact ignored start
  · refine tooMany ?_
    split
    · exact start
    · exact ignored start

/-! ## Header fields -/

/-- What taking over a header field with a value does to a readme. -/
inductive TakesField (value : List Char) (readme : Readme) : Readme → Prop
  | contributors : TakesField value readme
      { readme with contributors := (distinctCommaItems value).map String.ofList }
  | tags : TakesField value readme (readme.withTags value)
  | donateLink : TakesField value readme { readme with donateLink := String.ofList value }
  | requires (version : isReleaseVersion value) :
      TakesField value readme { readme with requires := String.ofList value }
  | requiresIgnored : TakesField value readme (readme.warn .requiresHeaderIgnored)
  | tested (version : isReleaseVersion value) :
      TakesField value readme { readme with tested := String.ofList value }
  | testedIgnored : TakesField value readme (readme.warn .testedHeaderIgnored)
  | requiresPhp (version : isReleaseVersion value) :
      TakesField value readme { readme with requiresPhp := String.ofList value }
  | requiresPhpIgnored : TakesField value readme (readme.warn .requiresPhpHeaderIgnored)
  | stableTag : TakesField value readme { readme with stableTag := String.ofList value }
  | license : TakesField value readme { readme with license := String.ofList value }
  | licenseUri : TakesField value readme { readme with licenseUri := String.ofList value }

theorem takesField_of_withField? {key : List Char} (taken : readme.withField? key value = some next) :
    TakesField value readme next := by
  have version_or {kept ignored : Readme} (isVersion : isReleaseVersion value → TakesField value readme kept)
      (isNone : TakesField value readme ignored) :
      TakesField value readme (if isReleaseVersion value then kept else ignored) := by
    split
    case isTrue version => exact isVersion version
    case isFalse => exact isNone
  rw [withField?] at taken
  split at taken
  case h_11 => cases taken
  all_goals cases taken
  case h_1 => exact .contributors
  case h_2 => exact .tags
  case h_3 => exact .donateLink
  case h_4 => exact version_or .requires .requiresIgnored
  case h_5 => exact version_or .tested .testedIgnored
  case h_6 => exact version_or .tested .testedIgnored
  case h_7 => exact version_or .requiresPhp .requiresPhpIgnored
  case h_8 => exact .stableTag
  case h_9 => exact .license
  case h_10 => exact .licenseUri

/-- What every field that is taken over keeps holds when the header has been read. -/
theorem readFields_keeps {holds : Readme → Prop}
    (keeps : ∀ {value readme next}, TakesField value readme next → holds readme → holds next) (started : Bool)
    (lines : List (List Char)) (start : holds readme) : holds (readFields readme started lines).1 := by
  -- a line is passed over, ends the header, or is a field that is taken over
  induction lines generalizing readme started with
  | nil => exact start
  | cons line rest inductionHypothesis =>
    rw [readFields]
    split
    · split
      · exact start
      · exact inductionHypothesis started start
    · split
      · exact start
      · split
        · exact start
        · split
          case h_1 taken => exact inductionHypothesis true (keeps (takesField_of_withField? taken) start)
          case h_2 =>
            split
            · exact inductionHypothesis true start
            · exact start

/-- Lines of which some are read, no section starts in them, and the rest is left. -/
def Leaves (lines rest : List (List Char)) : Prop :=
  ∃ front, lines = front ++ rest ∧ ∀ line ∈ front, isHeadingOf 2 line = false

namespace Leaves

variable {line : List Char} {rest others : List (List Char)}

theorem all (lines : List (List Char)) : Leaves lines lines := ⟨[], rfl, List.forall_mem_nil _⟩

theorem cons (noHeading : isHeadingOf 2 line = false) (leaves : Leaves lines rest) : Leaves (line :: lines) rest := by
  obtain ⟨front, rfl, none⟩ := leaves
  exact ⟨line :: front, rfl, List.forall_mem_cons.mpr ⟨noHeading, none⟩⟩

theorem trans (first : Leaves lines others) (second : Leaves others rest) : Leaves lines rest := by
  obtain ⟨front, rfl, none⟩ := first
  obtain ⟨back, rfl, noneLater⟩ := second
  exact ⟨front ++ back, (List.append_assoc _ _ _).symm, List.forall_mem_append.mpr ⟨none, noneLater⟩⟩

theorem dropWhile {p : List Char → Bool} (noHeading : ∀ line, p line → isHeadingOf 2 line = false)
    (lines : List (List Char)) : Leaves lines (lines.dropWhile p) :=
  ⟨lines.takeWhile p, List.takeWhile_append_dropWhile.symm, fun line member =>
    noHeading line (List.mem_takeWhile_imp member)⟩

end Leaves

theorem isHeadingOf_of_isBlankText {line : List Char} (blank : isBlankText line) (level : Nat) :
    isHeadingOf level line = false := by
  have empty : trim line = [] := trim_append (List.all_eq_true.mp blank) []
  simp [isHeadingOf, heading?, empty]

theorem isHeadingOf_of_heading?_eq_none {line : List Char} (none : heading? line = none) (level : Nat) :
    isHeadingOf level line = false := by
  rw [isHeadingOf, none]

theorem leaves_readFields (readme : Readme) (started : Bool) (lines : List (List Char)) :
    Leaves lines (readFields readme started lines).2 := by
  induction lines generalizing readme started with
  | nil => exact .all []
  | cons line rest inductionHypothesis =>
    rw [readFields]
    split
    case isTrue blank =>
      have noHeading := isHeadingOf_of_isBlankText blank 2
      split
      · exact (Leaves.all rest).cons noHeading
      · exact (inductionHypothesis readme started).cons noHeading
    case isFalse =>
      split
      case isTrue => exact .all _
      case isFalse none =>
        rw [Option.not_isSome_iff_eq_none] at none
        have noHeading := isHeadingOf_of_heading?_eq_none none 2
        split
        · exact .all _
        · split
          · exact (inductionHypothesis _ true).cons noHeading
          · split
            · exact (inductionHypothesis readme true).cons noHeading
            · exact .all _

theorem leaves_readTitle (readme : Readme) (lines : List (List Char)) : Leaves lines (readTitle readme lines).2 := by
  cases lines with
  | nil => exact .all []
  | cons line rest =>
    rw [readTitle]
    split
    case h_1 isTitle => exact (Leaves.all rest).cons (by simp [isHeadingOf, isTitle])
    case h_2 => exact .all _

/-! ## The header -/

/-- What holds of a readme from its title on. -/
structure HeaderRules (readme : Readme) : Prop where
  name : readme.name = "" ↔ .invalidPluginNameHeader ∈ readme.warnings
  contributors : IsItems readme.contributors
  tags : IsTagList readme.tags
  requires : readme.requires = "" ∨ Pattern.Accepts Pattern.sitePattern readme.requires
  tested : readme.tested = "" ∨ Pattern.Accepts Pattern.sitePattern readme.tested
  requiresPhp : readme.requiresPhp = "" ∨ Pattern.Accepts Pattern.languagePattern readme.requiresPhp

namespace HeaderRules

/-- Other warnings say nothing about the name. -/
theorem warn (rules : HeaderRules readme) {warning : ReadmeWarning} (other : warning ≠ .invalidPluginNameHeader) :
    HeaderRules (readme.warn warning) := by
  have same : .invalidPluginNameHeader ∈ (readme.warn warning).warnings ↔
      .invalidPluginNameHeader ∈ readme.warnings := by
    rw [mem_warn, or_iff_right other.symm]
  exact { rules with name := rules.name.trans same.symm }

theorem takesField (takes : TakesField value readme next) (rules : HeaderRules readme) : HeaderRules next := by
  cases takes with
  | contributors => exact { rules with contributors := .of_sublist (List.Sublist.refl _) }
  | tags =>
    refine withTags_keeps (fun rules => rules.warn (by decide)) (fun rules => rules.warn (by decide)) ?_ value rules
    exact fun isTagList rules => { rules with tags := isTagList }
  | donateLink => exact { rules with }
  | requires version =>
    exact { rules with requires := .inr (Pattern.accepts_sitePattern_iff.mpr (by simpa using version)) }
  | requiresIgnored => exact rules.warn (by decide)
  | tested version =>
    exact { rules with tested := .inr (Pattern.accepts_sitePattern_iff.mpr (by simpa using version)) }
  | testedIgnored => exact rules.warn (by decide)
  | requiresPhp version =>
    exact { rules with requiresPhp := .inr (Pattern.accepts_languagePattern_iff.mpr (by simpa using version)) }
  | requiresPhpIgnored => exact rules.warn (by decide)
  | stableTag => exact { rules with }
  | license => exact { rules with }
  | licenseUri => exact { rules with }

end HeaderRules

/-- A readme of which no more than the header has been read. -/
structure IsHeader (readme : Readme) : Prop where
  shortDescription : readme.shortDescription = ""
  sections : readme.sections = []
  upgradeNotice : readme.upgradeNotice = []
  notMissed : .noShortDescriptionPresent ∉ readme.warnings
  notTrimmed : .trimmedShortDescription ∉ readme.warnings

namespace IsHeader

theorem warn (isHeader : IsHeader readme) {warning : ReadmeWarning} (present : warning ≠ .noShortDescriptionPresent)
    (whole : warning ≠ .trimmedShortDescription) : IsHeader (readme.warn warning) where
  shortDescription := isHeader.shortDescription
  sections := isHeader.sections
  upgradeNotice := isHeader.upgradeNotice
  notMissed := by simp [mem_warn, present.symm, isHeader.notMissed]
  notTrimmed := by simp [mem_warn, whole.symm, isHeader.notTrimmed]

theorem takesField (takes : TakesField value readme next) (isHeader : IsHeader readme) : IsHeader next := by
  cases takes with
  | tags =>
    refine withTags_keeps (fun isHeader => isHeader.warn (by decide) (by decide))
      (fun isHeader => isHeader.warn (by decide) (by decide)) ?_ value isHeader
    exact fun _ isHeader => { isHeader with }
  | requiresIgnored => exact isHeader.warn (by decide) (by decide)
  | testedIgnored => exact isHeader.warn (by decide) (by decide)
  | requiresPhpIgnored => exact isHeader.warn (by decide) (by decide)
  | _ => exact { isHeader with }

end IsHeader

/-- A title is not empty. -/
theorem ne_nil_of_heading? {line title : List Char} {level : Nat} (isHeading : heading? line = some (level, title)) :
    title ≠ [] := by
  simp only [heading?] at isHeading
  split at isHeading
  case isTrue => cases isHeading
  case isFalse usable =>
    split at isHeading
    case isTrue =>
      cases isHeading
      simp only [Bool.or_eq_true, not_or, List.isEmpty_iff] at usable
      exact usable.2
    case isFalse => cases isHeading

theorem ofList_eq_empty_iff {text : List Char} : String.ofList text = "" ↔ text = [] :=
  ⟨fun same => String.ofList_injective same, fun empty => empty ▸ rfl⟩

theorem readTitle_rules (lines : List (List Char)) :
    HeaderRules (readTitle {} lines).1 ∧ IsHeader (readTitle {} lines).1 := by
  have empty : IsHeader {} := ⟨rfl, rfl, rfl, List.not_mem_nil, List.not_mem_nil⟩
  have noTags : IsTagList [] := ⟨.nil, Nat.zero_le 5, List.forall_mem_nil _⟩
  have untitled : HeaderRules (({} : Readme).warn .invalidPluginNameHeader) :=
    ⟨iff_of_true rfl (mem_warn.mpr (.inl rfl)), .nil, noTags, .inl rfl, .inl rfl, .inl rfl⟩
  have noted : IsHeader (({} : Readme).warn .invalidPluginNameHeader) := empty.warn (by decide) (by decide)
  cases lines with
  | nil => exact ⟨untitled, noted⟩
  | cons line rest =>
    rw [readTitle]
    split
    case h_1 title isHeading =>
      have named : String.ofList title ≠ "" := fun same => ne_nil_of_heading? isHeading (ofList_eq_empty_iff.mp same)
      exact ⟨⟨iff_of_false named List.not_mem_nil, .nil, noTags, .inl rfl, .inl rfl, .inl rfl⟩, { empty with }⟩
    case h_2 => exact ⟨untitled, noted⟩

/-! ## The short description -/

/-- Lines as one line with single spaces between its words. -/
def onOneLine (lines : List (List Char)) : List Char := joinWith [' '] (words (joinWith [' '] (lines.map trim)))

/-- What holds of the short description that is read from some lines. -/
structure DescriptionRules (lines : List (List Char)) (readme : Readme) : Prop where
  text : readme.shortDescription = String.ofList ((onOneLine lines).take 150)
  missed : readme.shortDescription = "" ↔ .noShortDescriptionPresent ∈ readme.warnings
  brief : readme.shortDescription.length ≤ 150
  trimmed : .trimmedShortDescription ∈ readme.warnings → readme.shortDescription.length = 150

theorem withShortDescription_eq (readme : Readme) (lines : List (List Char)) :
    readme.withShortDescription lines =
      if onOneLine lines = [] then readme.warn .noShortDescriptionPresent
      else if (onOneLine lines).length > 150 then
        { readme.warn .trimmedShortDescription with shortDescription := String.ofList ((onOneLine lines).take 150) }
      else { readme with shortDescription := String.ofList (onOneLine lines) } := by
  simp only [withShortDescription, List.isEmpty_iff]
  rfl

theorem IsHeader.withShortDescription (isHeader : IsHeader readme) (lines : List (List Char)) :
    DescriptionRules lines (readme.withShortDescription lines) := by
  rw [withShortDescription_eq]
  split
  case isTrue empty =>
    have missing : (readme.warn .noShortDescriptionPresent).shortDescription = "" := isHeader.shortDescription
    refine ⟨by rw [missing, empty]; rfl, iff_of_true missing (mem_warn.mpr (.inl rfl)), ?_, fun cut => ?_⟩
    · rw [missing]
      decide
    · exact absurd ((mem_warn.mp cut).resolve_left (by decide)) isHeader.notTrimmed
  case isFalse nonempty =>
    split
    case isTrue long =>
      have size : ((onOneLine lines).take 150).length = 150 := by
        rw [List.length_take]
        omega
      refine ⟨rfl, iff_of_false (fun same => ?_) fun missed => ?_, ?_, fun _ => ?_⟩
      · rw [ofList_eq_empty_iff.mp same] at size
        cases size
      · exact isHeader.notMissed ((mem_warn.mp missed).resolve_left (by decide))
      · rw [String.length_ofList, size]
      · rw [String.length_ofList, size]
    case isFalse fits =>
      have whole : (onOneLine lines).take 150 = onOneLine lines := List.take_of_length_le (by omega)
      refine ⟨by rw [whole], iff_of_false (fun same => nonempty (ofList_eq_empty_iff.mp same)) isHeader.notMissed, ?_,
        fun cut => absurd cut isHeader.notTrimmed⟩
      rw [String.length_ofList]
      omega

theorem HeaderRules.withShortDescription (rules : HeaderRules readme) (lines : List (List Char)) :
    HeaderRules (readme.withShortDescription lines) := by
  rw [withShortDescription_eq]
  split
  · exact rules.warn (by decide)
  · split
    · have noted : HeaderRules (readme.warn .trimmedShortDescription) := rules.warn (by decide)
      exact { noted with }
    · exact { rules with }

/-! ## Sections -/

theorem HeaderRules.foldl_withSection (rules : HeaderRules readme) (parts : List (List Char × List (List Char))) :
    HeaderRules (parts.foldl withSection readme) := by
  rw [Readme.foldl_withSection, foldl_withNotice]
  exact { rules with }

theorem DescriptionRules.foldl_withSection (rules : DescriptionRules lines readme)
    (parts : List (List Char × List (List Char))) : DescriptionRules lines (parts.foldl withSection readme) := by
  rw [Readme.foldl_withSection, foldl_withNotice]
  exact { rules with }

/-- The short description changes no section. -/
theorem sections_withShortDescription (readme : Readme) (lines : List (List Char)) :
    (readme.withShortDescription lines).sections = readme.sections ∧
      (readme.withShortDescription lines).upgradeNotice = readme.upgradeNotice := by
  rw [withShortDescription_eq]
  split
  · exact ⟨rfl, rfl⟩
  · split <;> exact ⟨rfl, rfl⟩

/-! ## Whole readmes -/

/-- The readme that the title and the header fields give, and the lines behind them. -/
def readHeader (lines : List (List Char)) : Readme × List (List Char) :=
  readFields (readTitle {} (lines.dropWhile isBlankText)).1 false (readTitle {} (lines.dropWhile isBlankText)).2

theorem leaves_readHeader (lines : List (List Char)) : Leaves lines (readHeader lines).2 :=
  (Leaves.dropWhile (fun _ blank => isHeadingOf_of_isBlankText blank 2) lines).trans
    ((leaves_readTitle _ _).trans (leaves_readFields _ _ _))

theorem readHeader_rules (lines : List (List Char)) :
    HeaderRules (readHeader lines).1 ∧ IsHeader (readHeader lines).1 := by
  obtain ⟨rules, isHeader⟩ := readTitle_rules (lines.dropWhile isBlankText)
  exact ⟨readFields_keeps HeaderRules.takesField false _ rules, readFields_keeps IsHeader.takesField false _ isHeader⟩

/-- The lines of a readme are those of its header, of its short description and of its sections. -/
theorem exists_ofLines_eq (lines : List (List Char)) : ∃ header short sections, lines = header ++ short ++ sections ∧
    (∀ line ∈ header ++ short, isHeadingOf 2 line = false) ∧
    (∀ line, sections.head? = some line → isHeadingOf 2 line) ∧
    ofLines lines = (partsAt 2 sections).foldl withSection ((readHeader lines).1.withShortDescription short) := by
  obtain ⟨header, split, noneInHeader⟩ := leaves_readHeader lines
  refine ⟨header, (readHeader lines).2.takeWhile fun line => !isHeadingOf 2 line,
    (readHeader lines).2.dropWhile fun line => !isHeadingOf 2 line, ?_, ?_, ?_, rfl⟩
  · rw [List.append_assoc, List.takeWhile_append_dropWhile, ← split]
  · refine List.forall_mem_append.mpr ⟨noneInHeader, fun line member => ?_⟩
    simpa using List.mem_takeWhile_imp member
  · exact fun line first => by simpa using not_of_head?_dropWhile first

/-- What holds of every readme that is read from some lines. -/
structure Invariants (lines : List (List Char)) (readme : Readme) : Prop extends HeaderRules readme where
  /-- The short description stands between the header and the heading of the first section. -/
  description : ∃ header short sections, lines = header ++ short ++ sections ∧
    (∀ line ∈ header ++ short, isHeadingOf 2 line = false) ∧
    (∀ line, sections.head? = some line → isHeadingOf 2 line) ∧ DescriptionRules short readme
  ascending : Assoc.Ascending textLess readme.sections
  sections : ∀ title text, Assoc.get? title readme.sections = some text ↔
    ∃ body, IsLastSection title lines body ∧ text = sectionText body
  upgradeNotice : readme.upgradeNotice ≠ [] → ∃ text, Assoc.get? "upgrade notice" readme.sections = some text

/-- Every readme that is read keeps the rules of the format. -/
theorem parse_invariants (text : String) : Invariants (plainLines text.toList) (parse text) := by
  rw [parse]
  generalize plainLines text.toList = lines
  obtain ⟨rules, isHeader⟩ := readHeader_rules lines
  obtain ⟨header, short, sections, whole, noneBefore, first, read⟩ := exists_ofLines_eq lines
  obtain ⟨sameSections, sameNotices⟩ := sections_withShortDescription (readHeader lines).1 short
  rw [isHeader.sections] at sameSections
  rw [isHeader.upgradeNotice] at sameNotices
  have found : ∀ title text, Assoc.get? title (ofLines lines).sections = some text ↔
      ∃ body, IsLastSection title lines body ∧ text = sectionText body := by
    intro title text
    rw [read, get?_sections, sameSections, whole]
    simp only [isLastSection_append noneBefore, Assoc.get?, reduceCtorEq, and_false, or_false]
  refine ⟨?_, ⟨header, short, sections, whole, noneBefore, first, ?_⟩, ?_, found, fun notices => ?_⟩
  · rw [read]
    exact (rules.withShortDescription short).foldl_withSection _
  · rw [read]
    exact (isHeader.withShortDescription short).foldl_withSection _
  · rw [read]
    exact ascending_sections _ (sameSections ▸ .nil)
  · rw [read] at notices
    obtain ⟨line, isIn, starts⟩ := exists_starts_of_upgradeNotice sameNotices notices
    obtain ⟨body, isLast⟩ := exists_isLastSection (whole ▸ List.mem_append_right _ isIn) starts
    exact ⟨_, (found _ _).mpr ⟨body, isLast, rfl⟩⟩

/-- Two sections with one title once it is normalised: the later one counts. -/
example : (parse "== FAQ ==\nold\n== Frequently asked questions ==\nnew").sections = [("faq", "new")] := by
  decide +kernel

end Readme

end PluginAudit
