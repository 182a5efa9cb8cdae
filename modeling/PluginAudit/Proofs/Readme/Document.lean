import PluginAudit.Proofs.Readme.Heading
import PluginAudit.Proofs.SortedList

/-!
# Readmes that are written

What a readme is put together from: a name, header fields, a short description and
sections, of which the one with upgrade notices has parts of its own.  Beside the lines
that a document is written as stands the readme that it means, which is put together
without any reading.
-/

namespace PluginAudit.Readme

open PluginAudit.Text

/-- The header fields. -/
inductive HeaderField
  | contributors
  | tags
  | donateLink
  | requires
  | tested
  | requiresPhp
  | stableTag
  | license
  | licenseUri
deriving DecidableEq

namespace HeaderField

/-- The label of a field; one of them has a brief form. -/
def label (brief : Bool) : HeaderField → List Char
  | contributors => "Contributors".toList
  | tags => "Tags".toList
  | donateLink => "Donate link".toList
  | requires => "Requires at least".toList
  | tested => if brief then "Tested".toList else "Tested up to".toList
  | requiresPhp => "Requires PHP".toList
  | stableTag => "Stable tag".toList
  | license => "License".toList
  | licenseUri => "License URI".toList

/-- Whether the value of a field has to be a version. -/
def isVersion : HeaderField → Bool
  | requires | tested | requiresPhp => true
  | _ => false

end HeaderField

/-- The values of the header fields; those that are not written are empty. -/
structure Header where
  contributors : List (List Char) := []
  tags : List (List Char) := []
  donateLink : List Char := []
  requires : List Char := []
  tested : List Char := []
  requiresPhp : List Char := []
  stableTag : List Char := []
  license : List Char := []
  licenseUri : List Char := []

namespace Header

/-- A value as it is written. -/
def value (header : Header) : HeaderField → List Char
  | .contributors => joinWith [',', ' '] header.contributors
  | .tags => joinWith [',', ' '] header.tags
  | .donateLink => header.donateLink
  | .requires => header.requires
  | .tested => header.tested
  | .requiresPhp => header.requiresPhp
  | .stableTag => header.stableTag
  | .license => header.license
  | .licenseUri => header.licenseUri

/-- The header with the values of some fields only. -/
def only (fields : List HeaderField) (header : Header) : Header where
  contributors := if .contributors ∈ fields then header.contributors else []
  tags := if .tags ∈ fields then header.tags else []
  donateLink := if .donateLink ∈ fields then header.donateLink else []
  requires := if .requires ∈ fields then header.requires else []
  tested := if .tested ∈ fields then header.tested else []
  requiresPhp := if .requiresPhp ∈ fields then header.requiresPhp else []
  stableTag := if .stableTag ∈ fields then header.stableTag else []
  license := if .license ∈ fields then header.license else []
  licenseUri := if .licenseUri ∈ fields then header.licenseUri else []

/-- The readme with a name and a header, and nothing else. -/
def readme (name : List Char) (header : Header) : Readme where
  name := String.ofList name
  contributors := header.contributors.map String.ofList
  tags := header.tags.map String.ofList
  donateLink := String.ofList header.donateLink
  requires := String.ofList header.requires
  tested := String.ofList header.tested
  requiresPhp := String.ofList header.requiresPhp
  stableTag := String.ofList header.stableTag
  license := String.ofList header.license
  licenseUri := String.ofList header.licenseUri

end Header

/-- Items that differ not only by case and have no comma in them. -/
structure IsItemList (items : List (List Char)) : Prop where
  phrases : ∀ item ∈ items, IsPhrase item ∧ ',' ∉ item
  distinct : (items.map lowercase).Nodup

/-- Values that can be written into a header. -/
structure Header.WellFormed (header : Header) : Prop where
  contributors : IsItemList header.contributors
  tags : IsItemList header.tags
  fewTags : header.tags.length ≤ maximalTags
  usefulTags : ∀ tag ∈ header.tags, lowercase tag ∉ ignoredTags
  values : ∀ field, '\n' ∉ header.value field ∧ Trimmed (header.value field)

/-- A section: its lines, and the versions and lines of the notices behind them. -/
structure Section where
  title : List Char
  lines : List (List Char) := []
  notices : List (List Char × List (List Char)) := []

namespace Section

/-- All lines behind the heading of a section. -/
def body (part : Section) : List (List Char) := part.lines ++ partLines 1 part.notices

/-- The title a section is kept under and its text. -/
def entry (part : Section) : String × String :=
  (sectionTitle part.title, String.ofList (trim (joinWith ['\n'] part.body)))

/-- The versions of the notices and their texts. -/
def noticeEntries (part : Section) : List (String × String) :=
  part.notices.map fun notice =>
    (String.ofList notice.1, String.ofList (trim (joinWith [' '] (notice.2.map trim))))

/-- A section that can be written: its lines do not start another one, and only that of
upgrade notices has notices. -/
structure WellFormed (part : Section) : Prop where
  title : IsPhrase part.title
  lines : ∀ line ∈ part.lines, IsLine line ∧ isHeadingOf 2 line = false
  versions : ∀ notice ∈ part.notices, IsPhrase notice.1
  noticeLines : ∀ notice ∈ part.notices, ∀ line ∈ notice.2,
    IsLine line ∧ isHeadingOf 1 line = false ∧ isHeadingOf 2 line = false
  notices : if sectionTitle part.title = "upgrade notice"
    then ∀ line ∈ part.lines, isHeadingOf 1 line = false else part.notices = []

instance (part : Section) : Decidable part.WellFormed :=
  decidable_of_iff (IsPhrase part.title ∧ (∀ line ∈ part.lines, IsLine line ∧ isHeadingOf 2 line = false) ∧
      (∀ notice ∈ part.notices, IsPhrase notice.1) ∧
      (∀ notice ∈ part.notices, ∀ line ∈ notice.2,
        IsLine line ∧ isHeadingOf 1 line = false ∧ isHeadingOf 2 line = false) ∧
      if sectionTitle part.title = "upgrade notice"
        then ∀ line ∈ part.lines, isHeadingOf 1 line = false else part.notices = [])
    ⟨fun ⟨title, lines, versions, noticeLines, notices⟩ => ⟨title, lines, versions, noticeLines, notices⟩,
      fun ⟨title, lines, versions, noticeLines, notices⟩ => ⟨title, lines, versions, noticeLines, notices⟩⟩

end Section

/-- What a readme is put together from. -/
structure Document where
  name : List Char
  header : Header
  /-- The fields that are written, in this order. -/
  fields : List HeaderField
  /-- Whether labels are written in their brief form. -/
  brief : Bool := false
  /-- The words of the short description. -/
  words : List (List Char)
  sections : List Section

namespace Document

/-- The line of a header field. -/
def fieldLine (document : Document) (field : HeaderField) : List Char :=
  field.label document.brief ++ ':' :: ' ' :: document.header.value field

/-- The short description, with single spaces between its words. -/
def shortDescription (document : Document) : List Char := joinWith [' '] document.words

/-- The titles of the sections and the lines behind them. -/
def parts (document : Document) : List (List Char × List (List Char)) :=
  document.sections.map fun part => (part.title, part.body)

/-- The lines of a document. -/
def lines (document : Document) : List (List Char) :=
  headingLine 3 document.name :: (document.fields.map document.fieldLine ++
    [] :: document.shortDescription :: [] :: partLines 2 document.parts)

/-- Whether a text is that of a document, with a line feed behind its last line or without. -/
def IsWritten (document : Document) (text : String) : Prop :=
  text.toList = ofTextLines document.lines ∨ text.toList ++ ['\n'] = ofTextLines document.lines

/-- The readme that a document means. -/
def readme (document : Document) : Readme :=
  { document.header.readme document.name with
    shortDescription := String.ofList document.shortDescription
    sections := Assoc.inOrder textLess (document.sections.map Section.entry)
    upgradeNotice := Assoc.inOrder textLess (document.sections.flatMap Section.noticeEntries) }

/-- A document that can be written. -/
structure WellFormed (document : Document) : Prop where
  name : IsPhrase document.name
  header : document.header.WellFormed
  someField : document.fields ≠ []
  versions : ∀ field ∈ document.fields, field.isVersion → isReleaseVersion (document.header.value field)
  otherFields : ∀ field, field ∉ document.fields → document.header.value field = []
  words : ∀ word ∈ document.words, IsWord word
  someWord : document.words ≠ []
  brevity : document.shortDescription.length ≤ maximalShortDescription
  noHeading : isHeadingOf 2 document.shortDescription = false
  sections : ∀ part ∈ document.sections, part.WellFormed
  titles : (document.sections.map fun part => sectionTitle part.title).Nodup
  noticeVersions : ((document.sections.flatMap Section.notices).map Prod.fst).Nodup

end Document

end PluginAudit.Readme
