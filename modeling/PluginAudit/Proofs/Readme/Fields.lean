import PluginAudit.Proofs.Readme.Document

/-!
# Reading header fields

The value of a header field is read back from its line, whatever colons and equals signs
are in it.  One field after another adds its value to the header, so that in the end all of
it is there.
-/

namespace PluginAudit.Readme

open PluginAudit.Text

/-! ## Items -/

theorem distinctItems_eq_self {items seen : List (List Char)} (distinct : (items.map lowercase).Nodup)
    (unseen : ∀ item ∈ items, lowercase item ∉ seen) : distinctItems seen items = items := by
  induction items generalizing seen with
  | nil => rfl
  | cons item others inductionHypothesis =>
    rw [List.map_cons, List.nodup_cons] at distinct
    have first := unseen item List.mem_cons_self
    have laterUnseen : ∀ other ∈ others, lowercase other ∉ lowercase item :: seen := by
      intro other member
      rw [List.mem_cons, not_or]
      refine ⟨fun same => ?_, unseen other (List.mem_cons_of_mem item member)⟩
      exact distinct.1 (same ▸ List.mem_map_of_mem member)
    simp [distinctItems, first, inductionHypothesis distinct.2 laterUnseen]

namespace IsItemList

variable {items : List (List Char)}

theorem distinctCommaItems (isItemList : IsItemList items) :
    distinctCommaItems (joinWith [',', ' '] items) = items := by
  rw [Readme.distinctCommaItems, commaItems_joinWith fun item member => ?_]
  · exact distinctItems_eq_self isItemList.distinct (by simp)
  · obtain ⟨isPhrase, noComma⟩ := isItemList.phrases item member
    exact ⟨isPhrase.nonempty, isPhrase.trimmed, noComma⟩

theorem eq_nil (isItemList : IsItemList items) (empty : joinWith [',', ' '] items = []) : items = [] := by
  cases items with
  | nil => rfl
  | cons item others =>
    have some := (isItemList.phrases item List.mem_cons_self).1.nonempty
    cases others with
    | nil => exact absurd empty some
    | cons next others =>
      rw [joinWith_cons (List.cons_ne_nil next others)] at empty
      simp [some] at empty

end IsItemList

theorem withTags_joinWith {items : List (List Char)} (isItemList : IsItemList items)
    (few : items.length ≤ maximalTags) (useful : ∀ tag ∈ items, lowercase tag ∉ ignoredTags) (readme : Readme) :
    readme.withTags (joinWith [',', ' '] items) = { readme with tags := items.map String.ofList } := by
  have allUseful : items.filter (fun tag => !ignoredTags.contains (lowercase tag)) = items :=
    List.filter_eq_self.mpr fun tag member => by simpa using useful tag member
  simp only [withTags, isItemList.distinctCommaItems, allUseful, List.take_of_length_le few,
    beq_self_eq_true, if_true]

/-! ## Labels -/

namespace HeaderField

theorem lowercase_label (brief : Bool) (field : HeaderField) :
    String.ofList (lowercase (field.label brief)) =
      match field with
      | contributors => "contributors"
      | tags => "tags"
      | donateLink => "donate link"
      | requires => "requires at least"
      | tested => if brief then "tested" else "tested up to"
      | requiresPhp => "requires php"
      | stableTag => "stable tag"
      | license => "license"
      | licenseUri => "license uri" := by
  cases brief <;> cases field <;> decide +kernel

theorem exists_label_cons (brief : Bool) (field : HeaderField) :
    ∃ c cs, field.label brief = c :: cs ∧ isBlank c = false ∧ c ≠ '=' := by
  cases brief <;> cases field <;> exact ⟨_, _, rfl, by decide, by decide⟩

theorem trimmed_label (brief : Bool) (field : HeaderField) : Trimmed (field.label brief) := by
  cases brief <;> cases field <;> decide

theorem not_mem_label (brief : Bool) (field : HeaderField) :
    ':' ∉ field.label brief ∧ '\n' ∉ field.label brief := by
  cases brief <;> cases field <;> decide

end HeaderField

/-! ## Values -/

namespace Header

variable {header : Header} {fields : List HeaderField} {field : HeaderField}

theorem only_nil (header : Header) : header.only [] = {} := by simp [only]

theorem only_eq_self (wellFormed : header.WellFormed)
    (others : ∀ field, field ∉ fields → header.value field = []) : header.only fields = header := by
  obtain ⟨contributors, tags, donateLink, requires, tested, requiresPhp, stableTag, license, licenseUri⟩ := header
  simp only [only, mk.injEq]
  refine ⟨?_, ?_, ?_, ?_, ?_, ?_, ?_, ?_, ?_⟩
  · exact ite_eq_left_iff.mpr fun absent => (wellFormed.contributors.eq_nil (others .contributors absent)).symm
  · exact ite_eq_left_iff.mpr fun absent => (wellFormed.tags.eq_nil (others .tags absent)).symm
  all_goals exact ite_eq_left_iff.mpr fun absent => (others _ absent).symm

/-- Taking over a field adds its value to those that were taken over before. -/
theorem withField?_label (fields : List HeaderField) (wellFormed : header.WellFormed)
    (version : field.isVersion → isReleaseVersion (header.value field)) (name : List Char) (brief : Bool) :
    ((header.only fields).readme name).withField? (field.label brief) (header.value field) =
      some ((header.only (field :: fields)).readme name) := by
  rw [withField?, HeaderField.lowercase_label]
  cases field with
  | contributors =>
    simp [value, wellFormed.contributors.distinctCommaItems, only, readme]
  | tags =>
    simp [value, withTags_joinWith wellFormed.tags wellFormed.fewTags wellFormed.usefulTags, only, readme]
  | requires => simp [show isReleaseVersion header.requires from version rfl, value, only, readme]
  | tested => cases brief <;> simp [show isReleaseVersion header.tested from version rfl, value, only, readme]
  | requiresPhp => simp [show isReleaseVersion header.requiresPhp from version rfl, value, only, readme]
  | donateLink => simp [value, only, readme]
  | stableTag => simp [value, only, readme]
  | license => simp [value, only, readme]
  | licenseUri => simp [value, only, readme]

end Header

namespace Document

variable {document : Document} {fields : List HeaderField} {field : HeaderField}

/-- The line of a field is no blank line and no heading, and it is cut at its first colon. -/
theorem fieldLine_reads (wellFormed : document.header.WellFormed) (field : HeaderField) :
    isBlankText (document.fieldLine field) = false ∧ heading? (document.fieldLine field) = none ∧
      ∃ value, splitOnce? ':' (document.fieldLine field) = some (field.label document.brief, value) ∧
        trim value = document.header.value field := by
  obtain ⟨c, cs, label, notBlank, notMark⟩ := HeaderField.exists_label_cons document.brief field
  obtain ⟨noColon, -⟩ := HeaderField.not_mem_label document.brief field
  refine ⟨?_, ?_, _, splitOnce?_append noColon _, ?_⟩
  · simp [fieldLine, label, isBlankText, notBlank]
  · rw [fieldLine, label]
    exact heading?_of_head notBlank notMark _
  · rw [trim_space, (wellFormed.values field).2.trim]

theorem readFields_fieldLines (wellFormed : document.header.WellFormed)
    (versions : ∀ field ∈ fields, field.isVersion → isReleaseVersion (document.header.value field))
    (taken : List HeaderField) {started : Bool} (some : started = true ∨ fields ≠ [])
    (rest : List (List Char)) :
    readFields ((document.header.only taken).readme document.name) started
        (fields.map document.fieldLine ++ [] :: rest) =
      ((document.header.only (fields.reverse ++ taken)).readme document.name, rest) := by
  -- the fields taken before grow with every line; from the first one on the header is open
  induction fields generalizing taken started with
  | nil =>
    obtain rfl : started = true := some.resolve_right fun none => none rfl
    rfl
  | cons field others inductionHypothesis =>
    obtain ⟨notBlank, noHeading, value, split, trimmed⟩ := fieldLine_reads wellFormed field
    have read := Header.withField?_label taken wellFormed (versions field List.mem_cons_self)
      document.name document.brief
    have later := inductionHypothesis (fun other member => versions other (List.mem_cons_of_mem field member))
      (field :: taken) (.inl rfl)
    rw [List.map_cons, List.cons_append, readFields]
    simp only [notBlank, noHeading, split, trimmed, (HeaderField.trimmed_label document.brief field).trim, read,
      Option.isSome_none, Bool.false_eq_true, if_false, later, List.reverse_cons, List.append_assoc,
      List.singleton_append]

end Document

end PluginAudit.Readme
