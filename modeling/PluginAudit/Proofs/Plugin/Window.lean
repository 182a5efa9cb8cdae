import PluginAudit.Proofs.Pattern.Search
import PluginAudit.Proofs.Plugin.Header
import PluginAudit.Proofs.Text.Utf8

/-!
# The part of a file that is read

The bound on what is read of a file counts the bytes of its text, and not those of the file.
A line that names the plugin is read exactly if the text up to the end of the name fits.  In
a file of well-formed text these are the same bytes; an ill-formed piece takes three bytes in
the text, however few it had in the file, and moves what follows it towards the bound.
-/

namespace PluginAudit.PluginHeader

open PluginAudit.Text
open PluginAudit.Text.Utf8

variable {front back text value label : List Char} {room : Nat}

/-! ## Bounded texts -/

theorem takeBytes_append (room : Nat) (front back : List Char) :
    takeBytes room (front ++ back) =
      if textSize front ≤ room then front ++ takeBytes (room - textSize front) back else takeBytes room front := by
  induction front generalizing room with
  | nil => simp
  | cons c cs inductionHypothesis =>
    rw [textSize_cons, List.cons_append, takeBytes, takeBytes]
    by_cases here : c.utf8Size ≤ room
    · rw [if_pos here, if_pos here, inductionHypothesis]
      by_cases others : textSize cs ≤ room - c.utf8Size
      · rw [if_pos others, if_pos (by omega), Nat.sub_sub, List.cons_append]
      · rw [if_neg others, if_neg (by omega)]
    · rw [if_neg here, if_neg here, if_neg (by omega)]

theorem takeBytes_isPrefix (room : Nat) (text : List Char) : takeBytes room text <+: text := by
  induction text generalizing room with
  | nil => exact List.prefix_rfl
  | cons c cs inductionHypothesis =>
    rw [takeBytes]
    split
    · exact List.cons_prefix_cons.mpr ⟨rfl, inductionHypothesis _⟩
    · exact List.nil_prefix

theorem textSize_takeBytes_le (room : Nat) (text : List Char) : textSize (takeBytes room text) ≤ room := by
  induction text generalizing room with
  | nil => exact Nat.zero_le room
  | cons c cs inductionHypothesis =>
    rw [takeBytes]
    split
    case isTrue fits =>
      have := inductionHypothesis (room - c.utf8Size)
      rw [textSize_cons]
      omega
    case isFalse => exact Nat.zero_le room

/-- A text that does not fit loses something. -/
theorem exists_takeBytes_append (large : room < textSize text) :
    ∃ lost, lost ≠ [] ∧ takeBytes room text ++ lost = text := by
  obtain ⟨lost, whole⟩ := takeBytes_isPrefix room text
  refine ⟨lost, ?_, whole⟩
  rintro rfl
  rw [List.append_nil] at whole
  have := textSize_takeBytes_le room text
  rw [whole] at this
  omega

/-! ## Lines that are cut -/

theorem dropWhile_append {p : Char → Bool} (some : front.dropWhile p ≠ []) (back : List Char) :
    (front ++ back).dropWhile p = front.dropWhile p ++ back := by
  rw [List.dropWhile_append, if_neg (by simpa using some)]

theorem isDecoration_of_blank {c : Char} (blank : c = ' ' ∨ c = '\t') : isDecoration c = true := by
  rcases blank with rfl | rfl <;> decide

theorem not_isDecoration_of_tag {c : Char} (opens : sameFolded '<' c) : isDecoration c = false := by
  by_contra decorates
  simp only [isDecoration, Bool.not_eq_false, Bool.or_eq_true, beq_iff_eq] at decorates
  rcases decorates with ((((rfl | rfl) | rfl) | rfl) | rfl) | rfl <;> exact absurd opens (by decide)

/-- A line that names a field has its tag, or has none, also when it goes on. -/
theorem dropOpeningTag_append (isLabel : IsLabel label) (found : fieldOnLine? label front = some value)
    (back : List Char) : dropOpeningTag (front ++ back) = dropOpeningTag front ++ back := by
  obtain ⟨first, others, split, letter⟩ := isLabel.exists_cons
  rw [fieldOnLine?, dropOpeningTag, split] at found
  rw [dropOpeningTag, dropOpeningTag]
  have spaces : front.dropWhile isDecoration = (front.dropWhile fun c => c == ' ' || c == '\t').dropWhile isDecoration := by
    conv_lhs => rw [← List.takeWhile_append_dropWhile (p := fun c => c == ' ' || c == '\t') (l := front)]
    refine List.dropWhile_append_of_pos fun c member => isDecoration_of_blank ?_
    simpa using List.mem_takeWhile_imp member
  cases left : front.dropWhile fun c => c == ' ' || c == '\t' with
  | nil =>
    rw [left] at spaces found
    simp only [afterFolded?, Option.getD_none, spaces] at found
    cases found
  | cons c cs =>
    rw [dropWhile_append (by rw [left]; exact List.cons_ne_nil c cs), left]
    cases tag : afterFolded? ['<', '?', 'p', 'h', 'p'] (c :: cs) with
    | some rest => rw [afterFolded?_append tag, Option.getD_some, Option.getD_some]
    | none =>
      -- a tag that begins in the shorter line would stand where the label does
      have closed : ¬ sameFolded '<' c := by
        intro opens
        rw [left, tag, Option.getD_none, spaces, left,
          List.dropWhile_cons_of_neg (by simp [not_isDecoration_of_tag opens]), List.cons_append, afterFolded?] at found
        split at found
        case isTrue same =>
          have := (starts_label letter).2
          simp_all [sameFolded]
        case isFalse => cases found
      rw [List.cons_append, afterFolded?, if_neg closed, Option.getD_none, Option.getD_none]

/-- What stands behind a label stays there when the line goes on. -/
theorem fieldOnLine?_append (isLabel : IsLabel label) (found : fieldOnLine? label front = some value)
    (back : List Char) : fieldOnLine? label (front ++ back) = some (value ++ back) := by
  have tag := dropOpeningTag_append isLabel found back
  rw [fieldOnLine?] at found ⊢
  rw [tag, dropWhile_append _ back]
  · exact afterFolded?_append found back
  · intro nothing
    obtain ⟨first, others, split, -⟩ := isLabel.exists_cons
    rw [nothing, split] at found
    cases found

/-! ## Values that are cut -/

theorem length_cutAt_le (mark text : List Char) : (cutAt mark text).length ≤ text.length := by
  rw [cutAt]
  cases found : upTo? mark text with
  | none => exact le_rfl
  | some front => exact (upTo?_isPrefix found).length_le

theorem cleanValue_append (before : ∀ c ∈ front, isBlank c) (behind : ∀ c ∈ back, isBlank c) (text : List Char) :
    cleanValue (front ++ text ++ back) = cleanValue text := by
  have same : trim (front ++ text ++ back) = trim text := trimBy_append before behind
  rw [cleanValue, cleanValue, same]

theorem length_cleanValue_le (before : ∀ c ∈ front, isBlank c) (text : List Char) :
    (cleanValue (front ++ text)).length ≤ text.length := by
  have same := cleanValue_append before (List.forall_mem_nil _) text
  rw [List.append_nil] at same
  rw [same, cleanValue]
  exact (length_trim_le _).trans ((length_cutAt_le _ _).trans ((length_cutAt_le _ _).trans (length_trim_le text)))

/-- A value that is cut is another one. -/
theorem FieldLine.cleanValue_ne {line : FieldLine} (wellFormed : line.WellFormed) (filled : line.value ≠ "")
    {lost : List Char} (some : lost ≠ []) (cut : value ++ lost = line.raw) : cleanValue value ≠ line.value.toList := by
  have blank : ∀ c ∈ line.blanks, isBlank c := fun c member => (wellFormed.blank c member).1
  have shorter : (cleanValue value).length < line.value.toList.length := by
    rw [FieldLine.raw, List.append_eq_append_iff] at cut
    rcases cut with ⟨more, inBlanks, -⟩ | ⟨kept, inValue, left⟩
    · have none := length_cleanValue_le (fun c member => blank c (inBlanks ▸ List.mem_append_left more member)) []
      have positive : 0 < line.value.toList.length := by
        rw [List.length_pos_iff]
        simpa using filled
      rw [List.append_nil] at none
      exact none.trans_lt positive
    · have start := length_cleanValue_le blank kept
      have positive := List.length_pos_iff.mpr some
      rw [← inValue] at start
      rw [left, List.length_append]
      omega
  intro same
  rw [same] at shorter
  exact absurd shorter (lt_irrefl _)

/-! ## Lines of a bounded text -/

/-- Whether a character ends a line. -/
def IsBreak (c : Char) : Prop := c = '\n' ∨ c = '\r'

theorem unified_singleton {c : Char} (isBreak : IsBreak c) : unified [c] = ['\n'] := by
  rcases isBreak with rfl | rfl <;> rfl

/-- What follows a line break makes lines of its own. -/
theorem exists_splitOn_unified (ends : ∀ c, front.getLast? = some c → IsBreak c) :
    ∃ lines, splitOn '\n' (unified front) = lines ++ [[]] ∧
      ∀ back, splitOn '\n' (unified (front ++ back)) = lines ++ splitOn '\n' (unified back) := by
  rcases List.eq_nil_or_concat front with rfl | ⟨init, last, rfl⟩
  · exact ⟨[], rfl, fun back => rfl⟩
  · rw [List.concat_eq_append] at ends ⊢
    have split := unified_singleton (ends last List.getLast?_concat)
    have pieces (back : List Char) : splitOn '\n' (unified (init ++ [last] ++ back)) =
        splitOn '\n' (unified init) ++ splitOn '\n' (unified back) := by
      rw [unified_append, unified_append, split, List.append_assoc, List.singleton_append, splitOn_append_cons]
    refine ⟨_, ?_, pieces⟩
    have whole := pieces []
    rw [List.append_nil] at whole
    exact whole

theorem splitOn_unified_append {line rest : List Char} (oneLine : OneLine line)
    (ends : ∀ c, rest.head? = some c → IsBreak c) :
    ∃ others, splitOn '\n' (unified (line ++ rest)) = line :: others := by
  rw [unified_append, unified_eq_self oneLine]
  cases rest with
  | nil => exact ⟨[], by rw [unified, List.map_nil, List.append_nil, oneLine.splitOn]⟩
  | cons c cs =>
    have split : unified (c :: cs) = '\n' :: unified cs := by
      rw [← List.singleton_append, unified_append, unified_singleton (ends c rfl)]
      rfl
    exact ⟨_, by rw [split, splitOn_append_cons, oneLine.splitOn, List.singleton_append]⟩

/-- A text in which no line names a field has no such line when it is cut, either. -/
theorem fieldOnLine?_of_isPrefix (isLabel : IsLabel label) (cut : front <+: text)
    (unnamed : ∀ line ∈ splitOn '\n' (unified text), fieldOnLine? label line = none) :
    ∀ line ∈ splitOn '\n' (unified front), fieldOnLine? label line = none := by
  obtain ⟨back, rfl⟩ := cut
  obtain ⟨lines, last, more, others, start, -, whole⟩ := splitBy_append (· == '\n') (unified front) (unified back)
  rw [unified_append, splitOn, whole] at unnamed
  rw [splitOn, start]
  intro line member
  rw [List.mem_append, List.mem_singleton] at member
  cases member with
  | inl complete => exact unnamed line (List.mem_append_left _ complete)
  | inr isLast =>
    subst isLast
    by_contra named
    obtain ⟨value, found⟩ := Option.ne_none_iff_exists'.mp named
    have longer := fieldOnLine?_append isLabel found more
    rw [unnamed _ (List.mem_append_right lines List.mem_cons_self)] at longer
    cases longer

theorem fieldIn_append {lines : List (List Char)} {label : String}
    (unnamed : ∀ line ∈ lines, fieldOnLine? label.toList line = none) (others : List (List Char)) :
    fieldIn (lines ++ others) label = fieldIn others label := by
  rw [fieldIn, List.findSome?_append, List.findSome?_eq_none_iff.mpr unnamed, Option.none_or]
  rfl

theorem fieldIn_of_unnamed {lines : List (List Char)} {label : String}
    (unnamed : ∀ line ∈ lines, fieldOnLine? label.toList line = none) : fieldIn lines label = [] := by
  rw [fieldIn, List.findSome?_eq_none_iff.mpr unnamed]
  rfl

/-! ## Lines that name a plugin -/

/-- A field on a line, with what stands before and behind the line. -/
structure Placed (front : List Char) (line : FieldLine) (behind rest : List Char) : Prop where
  wellFormed : line.WellFormed
  filled : line.value ≠ ""
  blank : ∀ c ∈ behind, isBlank c ∧ c ≠ '\n' ∧ c ≠ '\r'
  starts : ∀ c, front.getLast? = some c → IsBreak c
  stops : ∀ c, rest.head? = some c → IsBreak c
  first : ∀ earlier ∈ splitOn '\n' (unified front), fieldOnLine? line.label.toList earlier = none

namespace Placed

variable {line : FieldLine} {behind rest : List Char}

theorem isLabel (placed : Placed front line behind rest) : IsLabel line.label.toList :=
  isLabel_of_mem_labels _ placed.wellFormed.known

/-- What is left of the line and of what follows it, if the line is cut behind its value or not at all. -/
theorem exists_takeBytes (placed : Placed front line behind rest) (fits : textSize line.text ≤ room) :
    ∃ blanks others, (∀ c ∈ blanks, isBlank c) ∧
      splitOn '\n' (unified (takeBytes room (line.text ++ (behind ++ rest)))) = (line.text ++ blanks) :: others := by
  rw [takeBytes_append, if_pos fits, takeBytes_append]
  generalize room - textSize line.text = room
  have oneLine {blanks : List Char} (cut : blanks <+: behind) : OneLine (line.text ++ blanks) := by
    intro c member
    rw [List.mem_append] at member
    exact member.elim (placed.wellFormed.oneLine_text c) fun inBlanks => (placed.blank c (cut.subset inBlanks)).2
  split
  case isTrue =>
    have stops : ∀ c, (takeBytes (room - textSize behind) rest).head? = some c → IsBreak c := by
      intro c head
      obtain ⟨lost, whole⟩ := takeBytes_isPrefix (room - textSize behind) rest
      refine placed.stops c ?_
      rw [← whole, List.head?_append, head, Option.some_or]
    obtain ⟨others, pieces⟩ := splitOn_unified_append (oneLine List.prefix_rfl) stops
    rw [List.append_assoc] at pieces
    exact ⟨behind, others, fun c member => (placed.blank c member).1, pieces⟩
  case isFalse =>
    have cut := takeBytes_isPrefix room behind
    refine ⟨takeBytes room behind, [], fun c member => (placed.blank c (cut.subset member)).1, ?_⟩
    rw [unified_eq_self (oneLine cut), (oneLine cut).splitOn]

theorem fieldIn_whole (placed : Placed front line behind rest) (fits : textSize line.text ≤ room) :
    fieldIn (splitOn '\n' (unified (takeBytes room (line.text ++ (behind ++ rest))))) line.label = line.value.toList := by
  obtain ⟨blanks, others, blank, pieces⟩ := placed.exists_takeBytes fits
  have here := FieldLine.fieldOnLine?_text placed.wellFormed.known placed.wellFormed
  rw [if_pos rfl] at here
  have value : cleanValue ([] ++ line.raw ++ blanks) = line.value.toList :=
    (cleanValue_append (List.forall_mem_nil _) blank line.raw).trans (FieldLine.cleanValue_raw placed.wellFormed)
  rw [List.nil_append] at value
  rw [pieces, fieldIn, List.findSome?_cons, fieldOnLine?_append placed.isLabel here]
  exact value

theorem nil_ne_value (placed : Placed front line behind rest) : [] ≠ line.value.toList := by
  simpa using placed.filled.symm

/-- Where the text ends before the value does, the label or the value is cut. -/
theorem fieldIn_cut (placed : Placed front line behind rest) (large : room < textSize line.text) :
    fieldIn (splitOn '\n' (unified (takeBytes room (line.text ++ (behind ++ rest))))) line.label ≠ line.value.toList := by
  obtain ⟨lost, some, cut⟩ := exists_takeBytes_append large
  rw [takeBytes_append, if_neg (by omega)]
  generalize takeBytes room line.text = kept at cut ⊢
  have oneLine : OneLine kept :=
    fun c member => placed.wellFormed.oneLine_text c (cut ▸ List.mem_append_left lost member)
  rw [unified_eq_self oneLine, oneLine.splitOn]
  cases found : fieldOnLine? line.label.toList kept with
  | none =>
    rw [fieldIn_of_unnamed (List.forall_mem_singleton.mpr found)]
    exact placed.nil_ne_value
  | some value =>
    have whole := FieldLine.fieldOnLine?_text placed.wellFormed.known placed.wellFormed
    rw [if_pos rfl, ← cut, fieldOnLine?_append placed.isLabel found, Option.some.injEq] at whole
    rw [fieldIn, List.findSome?_cons, found]
    exact FieldLine.cleanValue_ne placed.wellFormed placed.filled some whole

/-- A field that is read has its value exactly if the text up to the end of the value fits. -/
theorem fieldIn_iff (placed : Placed front line behind rest) :
    fieldIn (windowLines (front ++ (line.text ++ (behind ++ rest)))) line.label = line.value.toList ↔
      textSize (front ++ line.text) ≤ windowSize := by
  change fieldIn (splitOn '\n' (unified (takeBytes windowSize _))) _ = _ ↔ _
  rw [takeBytes_append, textSize_append]
  by_cases reached : textSize front ≤ windowSize
  · obtain ⟨lines, before, followed⟩ := exists_splitOn_unified placed.starts
    have unnamed : ∀ earlier ∈ lines, fieldOnLine? line.label.toList earlier = none :=
      fun earlier member => placed.first earlier (before ▸ List.mem_append_left _ member)
    rw [if_pos reached, followed, fieldIn_append unnamed]
    by_cases fits : textSize line.text ≤ windowSize - textSize front
    · exact iff_of_true (placed.fieldIn_whole fits) (by omega)
    · exact iff_of_false (placed.fieldIn_cut (Nat.lt_of_not_le fits)) (by omega)
  · -- the text ends in front of the line
    rw [if_neg reached, fieldIn_of_unnamed
      (fieldOnLine?_of_isPrefix placed.isLabel (takeBytes_isPrefix _ front) placed.first)]
    exact iff_of_false placed.nil_ne_value (by omega)

end Placed

/-! ## Files -/

/-- The bytes of a file with a field on one of its lines. -/
structure FieldInFile where
  front : List UInt8
  line : FieldLine
  behind : List Char := []
  rest : List UInt8 := []

namespace FieldInFile

variable {field : FieldInFile}

def bytes (field : FieldInFile) : List UInt8 := field.front ++ encode (field.line.text ++ field.behind) ++ field.rest

/-- The line is the first one that names the plugin. -/
structure NamesPlugin (field : FieldInFile) : Prop where
  wellFormed : field.line.WellFormed
  label : field.line.label = "Plugin Name"
  filled : field.line.value ≠ ""
  blank : ∀ c ∈ field.behind, isBlank c ∧ c ≠ '\n' ∧ c ≠ '\r'
  starts : ∀ b, field.front.getLast? = some b → b = 0x0A ∨ b = 0x0D
  stops : ∀ b, field.rest.head? = some b → b = 0x0A ∨ b = 0x0D
  first : ∀ earlier ∈ splitOn '\n' (unified (decodeLossy field.front)),
    fieldOnLine? "Plugin Name".toList earlier = none

/-- A line break is decoded apart from what stands before and behind it. -/
theorem decodeLossy_append_break {b : UInt8} (ends : b = 0x0A ∨ b = 0x0D) (init rest : List UInt8) :
    IsBreak (Char.ofNat b.toNat) ∧
      decodeLossy (init ++ b :: rest) = decodeLossy init ++ Char.ofNat b.toNat :: decodeLossy rest := by
  have ascii : b < 0x80 := by rcases ends with rfl | rfl <;> decide
  constructor
  · rcases ends with rfl | rfl
    · exact .inl rfl
    · exact .inr rfl
  · have leads : ∀ lead, (b :: rest).head? = some lead → lead < 0x80 := by
      rintro lead ⟨⟩
      exact ascii
    rw [decodeLossy_append leads, decodeLossy_cons, next_one (UInt8.lt_iff_toNat_lt.mp ascii)]
    rfl

namespace NamesPlugin

/-- What stands before the line is a text of its own, and it ends with a line break. -/
theorem decodeLossy_front (names : field.NamesPlugin) :
    (∀ rest, decodeLossy (field.front ++ rest) = decodeLossy field.front ++ decodeLossy rest) ∧
      ∀ c, (decodeLossy field.front).getLast? = some c → IsBreak c := by
  have starts := names.starts
  rcases List.eq_nil_or_concat field.front with none | ⟨init, b, some⟩
  · rw [none, decodeLossy_nil]
    exact ⟨fun rest => rfl, fun c last => nomatch last⟩
  · rw [some, List.concat_eq_append] at starts ⊢
    have split := decodeLossy_append_break (starts b List.getLast?_concat) init
    have alone := (split []).2
    rw [decodeLossy_nil] at alone
    constructor
    · intro rest
      rw [List.append_assoc, List.singleton_append, (split rest).2, alone, List.append_assoc]
      rfl
    · intro c last
      rw [alone, List.getLast?_concat, Option.some.injEq] at last
      exact last ▸ (split []).1

theorem decodeLossy_bytes (names : field.NamesPlugin) :
    decodeLossy field.bytes =
      decodeLossy field.front ++ (field.line.text ++ (field.behind ++ decodeLossy field.rest)) := by
  rw [bytes, List.append_assoc, names.decodeLossy_front.1, decodeLossy_encode_append, List.append_assoc]

theorem placed (names : field.NamesPlugin) :
    Placed (decodeLossy field.front) field.line field.behind (decodeLossy field.rest) where
  wellFormed := names.wellFormed
  filled := names.filled
  blank := names.blank
  starts := names.decodeLossy_front.2
  stops := by
    have stops := names.stops
    cases rest : field.rest with
    | nil => exact fun c head => absurd head (by simp [decodeLossy_nil])
    | cons b others =>
      obtain ⟨isBreak, piece⟩ := decodeLossy_append_break (stops b (by rw [rest]; rfl)) [] others
      rw [List.nil_append, decodeLossy_nil, List.nil_append] at piece
      intro c head
      rw [piece, List.head?_cons, Option.some.injEq] at head
      exact head ▸ isBreak
  first := by
    rw [names.label]
    exact names.first

end NamesPlugin

variable {disk : Disk} {path : Path} {content : ByteArray}

theorem exists_parse?_iff {text name : String} (named : name ≠ "") :
    (∃ header, parse? text = some header ∧ header.name = name) ↔
      fieldIn (windowLines text.toList) "Plugin Name" = name.toList := by
  have filled : name.toList ≠ [] := by simpa using named
  rw [parse?]
  by_cases unnamed : fieldIn (windowLines text.toList) "Plugin Name" = []
  · simp [unnamed, Ne.symm filled]
  · simp [unnamed, ← String.toList_inj]

theorem NamesPlugin.exists_read_iff (names : field.NamesPlugin) (file : disk.read path = .ok content)
    (split : content.toList = field.bytes) :
    (∃ header, read disk path = .ok (some header) ∧ header.name = field.line.value) ↔
      textSize (decodeLossy field.front ++ field.line.text) ≤ windowSize := by
  have text : (textOf content).toList =
      decodeLossy field.front ++ (field.line.text ++ (field.behind ++ decodeLossy field.rest)) := by
    rw [toList_textOf, split, names.decodeLossy_bytes]
  have parsed : read disk path = .ok (parse? (textOf content)) := by
    rw [read, Disk.readLossy, file]
    rfl
  rw [parsed, ← names.placed.fieldIn_iff, ← text, names.label, ← exists_parse?_iff names.filled]
  simp only [Except.ok.injEq]

/-- The bytes up to the end of the name. -/
def bytesToName (field : FieldInFile) : List UInt8 := field.front ++ encode field.line.text

/-- The plugin has the name on the line exactly if the text of the file up to the end of the name
fits.  This text is no shorter than the bytes that it stands for, and as long as they are where
they are well-formed. -/
theorem read_name_iff (file : disk.read path = .ok content) (split : content.toList = field.bytes)
    (names : field.NamesPlugin) :
    ((∃ header, read disk path = .ok (some header) ∧ header.name = field.line.value) ↔
        textSize (decodeLossy field.front ++ field.line.text) ≤ windowSize) ∧
      field.bytesToName.length ≤ textSize (decodeLossy field.front ++ field.line.text) ∧
      ∀ text, field.front = encode text →
        textSize (decodeLossy field.front ++ field.line.text) = field.bytesToName.length := by
  refine ⟨names.exists_read_iff file split, ?_, fun text wellFormed => ?_⟩
  · have front := length_le_textSize_decodeLossy field.front
    rw [bytesToName, List.length_append, length_encode, textSize_append]
    omega
  · rw [bytesToName, List.length_append, length_encode, textSize_append, wellFormed, decodeLossy_encode,
      length_encode]

/-! ## A file in which the line fits and is not read -/

/-- A disk with one file. -/
def diskOf (content : List UInt8) : Disk :=
  { entries := [(["foo.php"], .file content.toByteArray false)], workingDirectory := [] }

theorem read_diskOf (content : List UInt8) : (diskOf content).read ⟨"foo.php"⟩ = .ok content.toByteArray := by
  have placed : (diskOf content).place true ⟨"foo.php"⟩ = .ok ⟨["foo.php"], true⟩ := by
    have relative : (Path.mk "foo.php").isAbsolute = false := by decide
    have steps : Disk.steps "foo.php" = ["foo.php"] := by decide +kernel
    have entry : Disk.entry? (diskOf content) ([] ++ ["foo.php"]) = some (.file content.toByteArray false) := rfl
    have root : Disk.entry? (diskOf content) [] = some .directory := rfl
    rw [Disk.place, relative, steps]
    change (diskOf content).followFrom true Disk.maximalLinks [] ["foo.php"] = _
    simp only [Disk.followFrom, root, entry]
    rfl
  rw [Disk.read, Disk.locate, placed]
  rfl

def fooLine : FieldLine := { label := "Plugin Name", value := "Foo", blanks := [' '] }

/-- A file with a line of ill-formed bytes in front of the plugin's name. -/
def spoilt (count : Nat) : FieldInFile where
  front := List.replicate count 0xFF ++ [0x0A]
  line := fooLine
  rest := [0x0A]

theorem decodeLossy_spoilt (count : Nat) :
    decodeLossy (spoilt count).front = List.replicate count replacement ++ ['\n'] := by
  have bytes (rest : List UInt8) :
      decodeLossy (List.replicate count 0xFF ++ rest) = List.replicate count replacement ++ decodeLossy rest := by
    induction count with
    | zero => rfl
    | succ count inductionHypothesis =>
      have piece : next 0xFF (List.replicate count 0xFF ++ rest) = (none, List.replicate count 0xFF ++ rest) := by
        simp [next]
      rw [List.replicate_succ, List.cons_append, decodeLossy_cons, piece, inductionHypothesis]
      rfl
  have feed := (decodeLossy_append_break (.inl rfl) [] []).2
  rw [decodeLossy_nil, List.nil_append] at feed
  exact (bytes [0x0A]).trans (congrArg _ feed)

theorem textSize_spoilt (count : Nat) :
    textSize (decodeLossy (spoilt count).front ++ (spoilt count).line.text) = 3 * count + 17 := by
  have illFormed : textSize (List.replicate count replacement) = 3 * count := by
    induction count with
    | zero => rfl
    | succ count inductionHypothesis =>
      have size : replacement.utf8Size = 3 := by decide
      rw [List.replicate_succ, textSize_cons, inductionHypothesis, size]
      omega
  have line : textSize fooLine.text = 16 := by decide +kernel
  rw [decodeLossy_spoilt, textSize_append, textSize_append, illFormed]
  exact congrArg (3 * count + 1 + ·) line

/-- Nothing is named by a line of ill-formed bytes. -/
theorem fieldOnLine?_replacement (count : Nat) :
    fieldOnLine? "Plugin Name".toList (List.replicate count replacement) = none := by
  have plain : isDecoration replacement = false ∧ (replacement == ' ' || replacement == '\t') = false ∧
      sameFolded '<' replacement = false ∧ sameFolded 'P' replacement = false := by decide +kernel
  have label : "Plugin Name".toList ++ [':'] = 'P' :: "lugin Name:".toList := by decide
  rw [fieldOnLine?, label]
  cases count with
  | zero => decide
  | succ count => simp [List.replicate_succ, dropOpeningTag, afterFolded?, plain]

theorem wellFormed_fooLine : fooLine.WellFormed where
  known := by decide +kernel
  decorated := List.forall_mem_nil _
  spelled := rfl
  blank := List.forall_mem_singleton.mpr (by decide)
  oneLine := by decide +kernel
  trimmed := by decide +kernel
  noCommentEnd := by decide +kernel
  noClosingTag := by decide +kernel

theorem namesPlugin_spoilt (count : Nat) : (spoilt count).NamesPlugin where
  wellFormed := wellFormed_fooLine
  label := rfl
  filled := by
    change fooLine.value ≠ ""
    decide
  blank := List.forall_mem_nil _
  starts := by
    intro b last
    rw [spoilt, List.getLast?_concat, Option.some.injEq] at last
    exact .inl last.symm
  stops := by
    intro b head
    exact .inl (Option.some.inj head).symm
  first := by
    have oneLine : OneLine (List.replicate count replacement) := by
      intro c member
      rw [List.eq_of_mem_replicate member]
      decide
    have lines : splitOn '\n' (unified (decodeLossy (spoilt count).front)) = [List.replicate count replacement, []] := by
      rw [decodeLossy_spoilt, unified_append, unified_eq_self oneLine]
      exact (splitOn_append_cons '\n' _ []).trans (congrArg (· ++ _) oneLine.splitOn)
    rw [lines, List.forall_mem_cons, List.forall_mem_singleton]
    exact ⟨fieldOnLine?_replacement count, fieldOnLine?_replacement 0⟩

theorem toList_spoilt (count : Nat) : (spoilt count).bytes.toByteArray.toList = (spoilt count).bytes := by
  rw [toList_eq_data_toList, List.toList_data_toByteArray]

theorem read_name_spoilt :
    (diskOf (spoilt 3).bytes).read ⟨"foo.php"⟩ = .ok (spoilt 3).bytes.toByteArray ∧ (spoilt 3).NamesPlugin ∧
      ∃ header, read (diskOf (spoilt 3).bytes) ⟨"foo.php"⟩ = .ok (some header) ∧ header.name = "Foo" := by
  refine ⟨read_diskOf _, namesPlugin_spoilt 3, ?_⟩
  refine (read_name_iff (read_diskOf _) (toList_spoilt 3) (namesPlugin_spoilt 3)).1.mpr ?_
  rw [textSize_spoilt]
  decide

/-- The name ends among the first 8192 bytes of the file, and no name is read. -/
theorem not_read_spoilt :
    (spoilt 2731).NamesPlugin ∧ (spoilt 2731).bytesToName.length = 2748 ∧
      ¬ ∃ header, read (diskOf (spoilt 2731).bytes) ⟨"foo.php"⟩ = .ok (some header) ∧ header.name = "Foo" := by
  refine ⟨namesPlugin_spoilt 2731, ?_, ?_⟩
  · have line : (encode fooLine.text).length = 16 := by decide +kernel
    have front : (spoilt 2731).front.length = 2732 := by
      rw [spoilt, List.length_append, List.length_replicate]
      rfl
    rw [bytesToName, List.length_append, front]
    exact congrArg (2732 + ·) line
  · refine mt ((namesPlugin_spoilt 2731).exists_read_iff (read_diskOf _) (toList_spoilt 2731)).mp ?_
    rw [textSize_spoilt]
    decide

end FieldInFile

end PluginAudit.PluginHeader
