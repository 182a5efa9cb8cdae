import PluginAudit.Plugin.Header
import PluginAudit.Proofs.Text.Case
import PluginAudit.Proofs.Text.Trimming

/-!
# Plugin headers that are written

A header is written as the tag that opens the code and a line for each field.  It is read
back as it was written, whatever the order of the lines and whatever the values look like:
what stands before the colon of a line is one label, and no label is looked for behind it.
-/

namespace PluginAudit.PluginHeader

open PluginAudit.Text

-- to decide on the characters of a list, only these are looked at
local instance (priority := 2000) (p : Char → Prop) [DecidablePred p] (text : List Char) : Decidable (∀ c ∈ text, p c) :=
  List.decidableBAll p text

/-! ## Labels -/

def labels : List String :=
  ["Plugin Name", "Plugin URI", "Version", "Description", "Author", "Author URI", "Text Domain",
    "Domain Path", "Network", "Requires at least", "Requires PHP", "Requires Plugins", "Update URI",
    "License", "License URI"]

/-- Letters and spaces with a letter in front. -/
structure IsLabel (label : List Char) : Prop where
  starts : label.head?.any isAsciiLetter
  letters : ∀ c ∈ label, isAsciiLetter c ∨ c = ' '

instance (label : List Char) : Decidable (IsLabel label) :=
  decidable_of_iff (label.head?.any isAsciiLetter ∧ ∀ c ∈ label, isAsciiLetter c ∨ c = ' ')
    ⟨fun both => ⟨both.1, both.2⟩, fun isLabel => ⟨isLabel.starts, isLabel.letters⟩⟩

theorem isLabel_of_mem_labels : ∀ label ∈ labels, IsLabel label.toList := by decide +kernel

/-- The labels differ not only by case. -/
theorem eq_of_asciiLowercase_eq : ∀ first ∈ labels, ∀ second ∈ labels,
    asciiLowercase first.toList = asciiLowercase second.toList → first = second := by decide +kernel

section Characters

variable {c d : Char}

theorem letter_toLower : (isAsciiLetter c.toLower ∨ c.toLower = ' ') ↔ (isAsciiLetter c ∨ c = ' ') :=
  toLower_cases (p := fun c => (isAsciiLetter c.toLower ∨ c.toLower = ' ') ↔ (isAsciiLetter c ∨ c = ' '))
    (by decide) fun same => by rw [same]

theorem ascii_of_letter (letter : isAsciiLetter c ∨ c = ' ') : c.toNat < 0x80 := by
  cases letter with
  | inl letter => exact ascii_of_isAsciiLetter letter
  | inr space =>
    subst space
    decide

/-- A letter in front of a line decorates nothing and opens no tag. -/
theorem starts_label (letter : isAsciiLetter c) : isDecoration c = false ∧ sameFolded '<' c = false :=
  forall_ascii (p := fun c => isAsciiLetter c → isDecoration c = false ∧ sameFolded '<' c = false) (by decide)
    (ascii_of_isAsciiLetter letter) letter

theorem not_sameFolded_colon (letter : isAsciiLetter c ∨ c = ' ') : ¬ sameFolded c ':' ∧ ¬ sameFolded ':' c := by
  have ascii := ascii_of_letter letter
  revert letter
  exact forall_ascii (p := fun c => (isAsciiLetter c ∨ c = ' ') → ¬ sameFolded c ':' ∧ ¬ sameFolded ':' c)
    (by decide) ascii

end Characters

namespace IsLabel

variable {label spelling : List Char}

/-- A label stays one in any case. -/
theorem of_asciiLowercase_eq (isLabel : IsLabel label)
    (spelled : asciiLowercase spelling = asciiLowercase label) : IsLabel spelling where
  starts := by
    have starts := isLabel.starts
    cases label with
    | nil => simp at starts
    | cons c cs =>
      cases spelling with
      | nil => simp [asciiLowercase] at spelled
      | cons d ds =>
        simp only [asciiLowercase, List.map_cons, List.cons.injEq] at spelled
        simp only [List.head?_cons, Option.any_some] at starts ⊢
        rwa [← isAsciiLetter_toLower, spelled.1, isAsciiLetter_toLower]
  letters := by
    intro d member
    have lower : d.toLower ∈ asciiLowercase label := spelled ▸ List.mem_map_of_mem member
    obtain ⟨c, inLabel, same⟩ := List.mem_map.mp lower
    rw [← letter_toLower, ← same, letter_toLower]
    exact isLabel.letters c inLabel

theorem exists_cons (isLabel : IsLabel label) : ∃ c cs, label = c :: cs ∧ isAsciiLetter c := by
  have starts := isLabel.starts
  cases label with
  | nil => simp at starts
  | cons c cs => exact ⟨c, cs, rfl, starts⟩

/-- A label with its colon starts a text with a label and a colon only if they are the same:
neither of them has a colon in it that the other one could end before. -/
theorem afterFolded? (isLabel : IsLabel label) (isSpelling : IsLabel spelling) (rest : List Char) :
    afterFolded? (label ++ [':']) (spelling ++ ':' :: rest) =
      if asciiLowercase spelling = asciiLowercase label then some rest else none := by
  have first := isLabel.letters
  have second := isSpelling.letters
  clear isLabel isSpelling
  induction label generalizing spelling with
  | nil =>
    cases spelling with
    | nil => simp [Text.afterFolded?, sameFolded]
    | cons d ds => simp [Text.afterFolded?, asciiLowercase, (not_sameFolded_colon (second d (by simp))).2]
  | cons c cs inductionHypothesis =>
    have letter := first c (by simp)
    cases spelling with
    | nil => simp [Text.afterFolded?, asciiLowercase, (not_sameFolded_colon letter).1]
    | cons d ds =>
      have others := inductionHypothesis (List.forall_mem_of_forall_mem_cons first)
        (List.forall_mem_of_forall_mem_cons second)
      rw [List.cons_append, List.cons_append, Text.afterFolded?,
        sameFolded_ascii (ascii_of_letter letter) (ascii_of_letter (second d (by simp))), others]
      by_cases same : d.toLower = c.toLower
      · have tails : asciiLowercase (d :: ds) = asciiLowercase (c :: cs) ↔ asciiLowercase ds = asciiLowercase cs := by
          simp [asciiLowercase, same]
        simp only [same, tails, beq_self_eq_true, if_true]
      · simp [asciiLowercase, same, Ne.symm same]

end IsLabel

/-! ## Lines -/

/-- A text without line breaks. -/
def OneLine (text : List Char) : Prop := ∀ c ∈ text, c ≠ '\n' ∧ c ≠ '\r'

instance (text : List Char) : Decidable (OneLine text) := inferInstanceAs (Decidable (∀ c ∈ text, _))

inductive LineBreak
  | feed
  | carriageReturn
  | returnAndFeed

def LineBreak.text : LineBreak → List Char
  | feed => ['\n']
  | carriageReturn => ['\r']
  | returnAndFeed => ['\r', '\n']

/-- A field on a line of its own, with the line break in front of it. -/
structure FieldLine where
  lineBreak : LineBreak := .feed
  label : String
  value : String
  decoration : List Char := []
  spelling : List Char := label.toList
  blanks : List Char := []

namespace FieldLine

/-- What stands behind the colon. -/
def raw (line : FieldLine) : List Char := line.blanks ++ line.value.toList

def text (line : FieldLine) : List Char := line.decoration ++ line.spelling ++ ':' :: line.raw

structure WellFormed (line : FieldLine) : Prop where
  known : line.label ∈ labels
  decorated : ∀ c ∈ line.decoration, c ∈ [' ', '\t', '/', '*', '#', '@']
  spelled : asciiLowercase line.spelling = asciiLowercase line.label.toList
  blank : ∀ c ∈ line.blanks, isBlank c ∧ c ≠ '\n' ∧ c ≠ '\r'
  oneLine : OneLine line.value.toList
  trimmed : Trimmed line.value.toList
  noCommentEnd : ¬ ['*', '/'] <:+: line.value.toList
  noClosingTag : ¬ ['?', '>'] <:+: line.value.toList

variable {line : FieldLine}

theorem WellFormed.isLabel (wellFormed : line.WellFormed) : IsLabel line.spelling :=
  (isLabel_of_mem_labels line.label wellFormed.known).of_asciiLowercase_eq wellFormed.spelled

theorem WellFormed.isDecoration (wellFormed : line.WellFormed) :
    ∀ c ∈ line.decoration, isDecoration c = true ∧ sameFolded '<' c = false := by
  have all : ∀ c ∈ [' ', '\t', '/', '*', '#', '@'], PluginHeader.isDecoration c = true ∧ sameFolded '<' c = false := by
    decide
  exact fun c member => all c (wellFormed.decorated c member)

/-- There is no tag in front of a field. -/
theorem dropOpeningTag_text (wellFormed : line.WellFormed) : dropOpeningTag line.text = line.text := by
  obtain ⟨first, others, spelled, letter⟩ := wellFormed.isLabel.exists_cons
  have noTag : afterFolded? ['<', '?', 'p', 'h', 'p'] (line.text.dropWhile fun c => c == ' ' || c == '\t') = none := by
    rw [text, List.append_assoc, List.dropWhile_append]
    -- the first character that is no space is one of the decoration or begins the label
    cases left : line.decoration.dropWhile fun c => c == ' ' || c == '\t' with
    | nil =>
      obtain ⟨notDecoration, notTag⟩ := starts_label letter
      have notBlank : (first == ' ' || first == '\t') = false := by
        by_contra blank
        simp_all [PluginHeader.isDecoration]
      simp [spelled, notBlank, afterFolded?, notTag]
    | cons c cs =>
      have member : c ∈ line.decoration := (List.dropWhile_sublist _).mem (left ▸ List.mem_cons_self)
      simp [afterFolded?, (wellFormed.isDecoration c member).2]
  rw [dropOpeningTag, noTag, Option.getD_none]

theorem fieldOnLine?_text {label : String} (known : label ∈ labels) (wellFormed : line.WellFormed) :
    fieldOnLine? label.toList line.text = if line.label = label then some line.raw else none := by
  obtain ⟨first, others, spelled, letter⟩ := wellFormed.isLabel.exists_cons
  have undecorated : line.text.dropWhile PluginHeader.isDecoration = line.spelling ++ ':' :: line.raw := by
    rw [text, List.append_assoc,
      List.dropWhile_append_of_pos fun c member => (wellFormed.isDecoration c member).1, spelled, List.cons_append,
      List.dropWhile_cons_of_neg (by simp [(starts_label letter).1])]
  rw [fieldOnLine?, dropOpeningTag_text wellFormed, undecorated,
    (isLabel_of_mem_labels label known).afterFolded? wellFormed.isLabel, wellFormed.spelled]
  by_cases same : line.label = label
  · simp [same]
  · have differ : asciiLowercase line.label.toList ≠ asciiLowercase label.toList :=
      fun equal => same (eq_of_asciiLowercase_eq _ wellFormed.known _ known equal)
    rw [if_neg differ, if_neg same]

theorem cutAt_eq_self {mark text : List Char} (absent : ¬ mark <:+: text) : cutAt mark text = text := by
  rw [cutAt, upTo?_eq_none absent, Option.getD_none]

theorem cleanValue_raw (wellFormed : line.WellFormed) : cleanValue line.raw = line.value.toList := by
  have trimmed : trim line.raw = line.value.toList := by
    have around : trim (line.raw ++ []) = trim line.value.toList :=
      trimBy_append (fun c member => (wellFormed.blank c member).1) (List.forall_mem_nil _)
    rw [List.append_nil] at around
    exact around.trans wellFormed.trimmed.trim
  rw [cleanValue, trimmed, cutAt_eq_self wellFormed.noCommentEnd, cutAt_eq_self wellFormed.noClosingTag,
    wellFormed.trimmed.trim]

theorem WellFormed.oneLine_text (wellFormed : line.WellFormed) : OneLine line.text := by
  intro c member
  simp only [text, raw, List.mem_append, List.mem_cons] at member
  rcases member with (decorates | spells) | colon | blank | inValue
  · have all : ∀ c ∈ [' ', '\t', '/', '*', '#', '@'], c ≠ '\n' ∧ c ≠ '\r' := by decide
    exact all c (wellFormed.decorated c decorates)
  · have letter := wellFormed.isLabel.letters c spells
    exact ⟨by rintro rfl; exact absurd letter (by decide), by rintro rfl; exact absurd letter (by decide)⟩
  · subst colon
    decide
  · exact (wellFormed.blank c blank).2
  · exact wellFormed.oneLine c inValue

end FieldLine

/-! ## Texts -/

/-- The tag, the lines behind it, and what may end the last one. -/
def written (fields : List FieldLine) (ending : Option LineBreak) : List Char :=
  "<?php".toList ++ (fields.flatMap (fun field => field.lineBreak.text ++ field.text) ++ ending.elim [] LineBreak.text)

/-- The value that the fields have for a label. -/
def valueIn (fields : List FieldLine) (label : String) : String :=
  ((fields.find? (·.label = label)).map (·.value)).getD ""

theorem valueIn_of_mem {fields : List FieldLine} (distinct : (fields.map (·.label)).Nodup) {field : FieldLine}
    (member : field ∈ fields) : valueIn fields field.label = field.value := by
  induction fields with
  | nil => simp at member
  | cons first others inductionHypothesis =>
    rw [List.map_cons, List.nodup_cons] at distinct
    rw [List.mem_cons] at member
    by_cases same : first.label = field.label
    · cases member with
      | inl isFirst => simp [valueIn, isFirst]
      | inr later => exact absurd (same ▸ List.mem_map_of_mem later) distinct.1
    · cases member with
      | inl isFirst => exact absurd (by rw [isFirst]) same
      | inr later =>
        have := inductionHypothesis distinct.2 later
        simpa [valueIn, same] using this

theorem takeBytes_eq_self {text : List Char} {room : Nat} (fits : (String.ofList text).utf8ByteSize ≤ room) :
    takeBytes room text = text := by
  induction text generalizing room with
  | nil => rfl
  | cons c cs inductionHypothesis =>
    have size : (String.ofList (c :: cs)).utf8ByteSize = c.utf8Size + (String.ofList cs).utf8ByteSize := by
      rw [String.ofList_cons, String.utf8ByteSize_append, String.utf8ByteSize_singleton]
    rw [takeBytes, if_pos (by omega), inductionHypothesis (by omega)]

section Pieces

variable {α : Type} {find? : List Char → Option α} {line : List Char}

/-- A text with line feeds for carriage returns. -/
def unified (text : List Char) : List Char := text.map fun c => if c == '\r' then '\n' else c

theorem unified_append (front back : List Char) : unified (front ++ back) = unified front ++ unified back :=
  List.map_append

theorem unified_eq_self (oneLine : OneLine line) : unified line = line := by
  refine (List.map_congr_left fun c member => ?_).trans (List.map_id line)
  simp [(oneLine c member).2]

/-- The empty lines that a line break is taken for. -/
def LineBreak.emptyLines : LineBreak → List (List Char)
  | feed | carriageReturn => []
  | returnAndFeed => [[]]

theorem OneLine.splitOn (oneLine : OneLine line) : splitOn '\n' line = [line] :=
  splitOn_of_not_mem fun member => (oneLine _ member).1 rfl

theorem pieces_append (oneLine : OneLine line) (lineBreak : LineBreak) (rest : List Char) :
    splitOn '\n' (unified (line ++ (lineBreak.text ++ rest))) =
      line :: (lineBreak.emptyLines ++ splitOn '\n' (unified rest)) := by
  have first (rest : List Char) : splitOn '\n' (line ++ '\n' :: rest) = line :: splitOn '\n' rest := by
    rw [splitOn_append_cons, oneLine.splitOn, List.singleton_append]
  rw [unified_append, unified_append, unified_eq_self oneLine]
  cases lineBreak with
  | feed => exact first _
  | carriageReturn => exact first _
  | returnAndFeed =>
    refine (first _).trans (congrArg (line :: ·) ?_)
    exact splitOn_append_cons '\n' [] (unified rest)

theorem findSome?_pieces_written (empty : find? [] = none) (ending : Option LineBreak) {fields : List FieldLine}
    (wellFormed : ∀ field ∈ fields, field.WellFormed) (oneLine : OneLine line) :
    (splitOn '\n' (unified (line ++ (fields.flatMap (fun field => field.lineBreak.text ++ field.text) ++
      ending.elim [] LineBreak.text)))).findSome? find? = (line :: fields.map FieldLine.text).findSome? find? := by
  have skipped (lineBreak : LineBreak) : lineBreak.emptyLines.findSome? find? = none := by
    cases lineBreak <;> simp [LineBreak.emptyLines, empty]
  induction fields generalizing line with
  | nil =>
    cases ending with
    | none => simp [unified_eq_self oneLine, oneLine.splitOn]
    | some lineBreak =>
      have pieces := pieces_append oneLine lineBreak []
      rw [List.append_nil] at pieces
      rw [List.flatMap_nil, List.nil_append, Option.elim_some, pieces, List.findSome?_cons, List.findSome?_append,
        skipped, Option.none_or]
      simp only [unified, splitOn, splitBy, List.map_nil, List.findSome?_cons, List.findSome?_nil, empty]
  | cons field others inductionHypothesis =>
    obtain ⟨first, later⟩ := List.forall_mem_cons.mp wellFormed
    have followed := inductionHypothesis later first.oneLine_text
    rw [List.flatMap_cons, List.append_assoc, List.append_assoc, pieces_append oneLine,
      List.findSome?_cons, List.findSome?_append, skipped, Option.none_or, followed]
    rfl

end Pieces

variable {fields : List FieldLine} {ending : Option LineBreak}

theorem windowLines_written (fits : (String.ofList (written fields ending)).utf8ByteSize ≤ 8192) :
    windowLines (written fields ending) = splitOn '\n' (unified (written fields ending)) := by
  have whole : window (written fields ending) = written fields ending := takeBytes_eq_self fits
  rw [windowLines, whole]
  rfl

theorem fieldIn_written (fits : (String.ofList (written fields ending)).utf8ByteSize ≤ 8192)
    (wellFormed : ∀ field ∈ fields, field.WellFormed) {label : String} (known : label ∈ labels) :
    fieldIn (windowLines (written fields ending)) label = (valueIn fields label).toList := by
  have names := isLabel_of_mem_labels label known
  obtain ⟨c, cs, split, -⟩ := names.exists_cons
  have empty : fieldOnLine? label.toList [] = none := by
    simp [fieldOnLine?, dropOpeningTag, afterFolded?, split]
  have tag : fieldOnLine? label.toList "<?php".toList = none := by
    have nothing : (dropOpeningTag "<?php".toList).dropWhile isDecoration = [] := by decide
    rw [fieldOnLine?, nothing, split]
    rfl
  rw [fieldIn, windowLines_written fits, written,
    findSome?_pieces_written empty ending wellFormed (by decide), List.findSome?_cons, tag]
  -- what is left are the lines of the fields
  clear fits
  induction fields with
  | nil => rfl
  | cons field others inductionHypothesis =>
    obtain ⟨first, later⟩ := List.forall_mem_cons.mp wellFormed
    have behind := inductionHypothesis later
    have here := FieldLine.fieldOnLine?_text known first
    by_cases same : field.label = label
    · rw [if_pos same] at here
      simp [here, valueIn, same, FieldLine.cleanValue_raw first]
    · rw [if_neg same] at here
      simpa [here, valueIn, same] using behind

/-- The header that has a value for each label. -/
def ofValues (value : String → String) : PluginHeader where
  name := value "Plugin Name"
  pluginUri := value "Plugin URI"
  version := value "Version"
  description := value "Description"
  author := value "Author"
  authorUri := value "Author URI"
  textDomain := value "Text Domain"
  domainPath := value "Domain Path"
  network := (value "Network").toLower = "true"
  requiresWp := value "Requires at least"
  requiresPhp := value "Requires PHP"
  requiresPlugins :=
    ((((value "Requires Plugins").toList.splitOn ',').map trim).filter (· ≠ [])).map String.ofList
  updateUri := value "Update URI"
  license := value "License"
  licenseUri := value "License URI"

theorem splitOn_eq (separator : Char) (text : List Char) : splitOn separator text = text.splitOn separator := by
  induction text with
  | nil => rfl
  | cons c cs inductionHypothesis =>
    rw [splitOn] at inductionHypothesis
    rw [List.splitOn] at inductionHypothesis ⊢
    rw [splitOn, splitBy, inductionHypothesis, List.splitOnP_cons_eq_if_modifyHead]
    cases pieces : cs.splitOnP (· == separator) with
    | nil => exact absurd pieces (List.splitOnP_ne_nil _ _)
    | cons piece others => rfl

theorem sameAsciiFolded_toList {word : String} (lower : word.toLower = word) (value : String) :
    sameAsciiFolded value.toList word.toList = decide (value.toLower = word) := by
  have folded (text : String) : asciiLowercase text.toList = text.toLower.toList := by
    change _ = (text.map Char.toLower).toList
    rw [String.toList_map, asciiLowercase]
  rw [sameAsciiFolded, folded, folded, lower, Bool.eq_iff_iff, beq_iff_eq, decide_eq_true_iff, String.toList_inj]

/-- A header is read back as it was written. -/
theorem parse?_written (wellFormed : ∀ field ∈ fields, field.WellFormed) (distinct : (fields.map (·.label)).Nodup)
    (named : ∃ field ∈ fields, field.label = "Plugin Name" ∧ field.value ≠ "")
    (fits : (String.ofList (written fields ending)).utf8ByteSize ≤ 8192) :
    parse? (String.ofList (written fields ending)) = some (ofValues (valueIn fields)) := by
  have read (label : String) (known : label ∈ labels) :
      fieldIn (windowLines (written fields ending)) label = (valueIn fields label).toList :=
    fieldIn_written fits wellFormed known
  simp only [labels, List.forall_mem_cons] at read
  obtain ⟨name, pluginUri, version, description, author, authorUri, textDomain, domainPath, network,
    requiresWp, requiresPhp, requiresPlugins, updateUri, license, licenseUri, -⟩ := read
  have true_toLower : "true".toLower = "true" := by
    change "true".map Char.toLower = "true"
    rw [← String.toList_inj, String.toList_map]
    decide
  have filled : (fun item : List Char => !item.isEmpty) = fun item => decide (item ≠ []) := by
    funext item
    cases item <;> rfl
  have isNamed : valueIn fields "Plugin Name" ≠ "" := by
    obtain ⟨field, member, label, some⟩ := named
    rwa [← label, valueIn_of_mem distinct member]
  rw [parse?, String.toList_ofList, if_neg (by simpa [name] using isNamed)]
  simp only [name, pluginUri, version, description, author, authorUri, textDomain, domainPath, network,
    requiresWp, requiresPhp, requiresPlugins, updateUri, license, licenseUri, String.ofList_toList,
    sameAsciiFolded_toList true_toLower, ofValues, commaItems, splitOn_eq, filled]

/-- A header with values that look like fields. -/
def lookalikes : List FieldLine :=
  [{ label := "Author URI", value := "Author: nobody", decoration := "/* ".toList, blanks := [' '] },
    { label := "Author", value := "URI: none", decoration := " * @".toList, spelling := "AUTHOR".toList,
      lineBreak := .returnAndFeed },
    { label := "Plugin Name", value := "License: #Version: 2", decoration := "#".toList, spelling := "plugin name".toList,
      blanks := ['\t', ' '] },
    { label := "Network", value := "True", lineBreak := .carriageReturn },
    { label := "License", value := "" },
    { label := "Requires Plugins", value := "forms, , shop", blanks := [' '] }]

theorem parse?_written_lookalikes :
    (∀ field ∈ lookalikes, field.WellFormed) ∧ (lookalikes.map (·.label)).Nodup ∧
      parse? (String.ofList (written lookalikes (some .feed))) =
        some
          { name := "License: #Version: 2"
            author := "URI: none"
            authorUri := "Author: nobody"
            network := true
            requiresPlugins := ["forms", "shop"] } := by
  have wellFormed : ∀ field ∈ lookalikes, field.WellFormed := by
    have parts : ∀ field ∈ lookalikes, field.label ∈ labels ∧
        (∀ c ∈ field.decoration, c ∈ [' ', '\t', '/', '*', '#', '@']) ∧
        asciiLowercase field.spelling = asciiLowercase field.label.toList ∧
        (∀ c ∈ field.blanks, isBlank c ∧ c ≠ '\n' ∧ c ≠ '\r') ∧ OneLine field.value.toList ∧
        Trimmed field.value.toList ∧ ¬ ['*', '/'] <:+: field.value.toList ∧ ¬ ['?', '>'] <:+: field.value.toList := by
      decide +kernel
    intro field member
    obtain ⟨known, decorated, spelled, blank, oneLine, trimmed, noCommentEnd, noClosingTag⟩ := parts field member
    exact ⟨known, decorated, spelled, blank, oneLine, trimmed, noCommentEnd, noClosingTag⟩
  have distinct : (lookalikes.map (·.label)).Nodup := by decide +kernel
  refine ⟨wellFormed, distinct, (parse?_written wellFormed distinct ?_ ?_).trans ?_⟩
  · decide +kernel
  · decide +kernel
  · have network : decide ((valueIn lookalikes "Network").toLower = "true") = true := by
      have value : valueIn lookalikes "Network" = "True" := by decide +kernel
      rw [value, decide_eq_true_iff]
      change "True".map Char.toLower = "true"
      rw [← String.toList_inj, String.toList_map]
      decide
    simp only [ofValues, network]
    decide +kernel

end PluginAudit.PluginHeader
