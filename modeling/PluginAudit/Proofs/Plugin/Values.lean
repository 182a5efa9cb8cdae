import PluginAudit.Proofs.Plugin.Window
import PluginAudit.Proofs.Text.Boundaries
import PluginAudit.Proofs.Text.Parts

/-!
# What a header holds

The values of a header are parts of single lines, cut before the signs that end a comment or the
code.  They come from the part of the content that is read, which ends between two characters
and is the same whatever follows a content that fills it.
-/

namespace PluginAudit.PluginHeader

open PluginAudit.Text
open PluginAudit.Text.Utf8

variable {line raw value label mark text back : List Char} {lines : List (List Char)}

/-! ## Values -/

/-- A value on one line without the end of a comment or of the code, and without white space
around it. -/
structure IsClean (value : List Char) : Prop where
  oneLine : OneLine value
  noCommentEnd : ¬ ['*', '/'] <:+: value
  noClosingTag : ¬ ['?', '>'] <:+: value
  trimmed : Trimmed value

namespace IsClean

theorem nil : IsClean [] := ⟨List.forall_mem_nil _, by decide, by decide, Trimmed.nil⟩

theorem of_isInfix (clean : IsClean value) (part : text <:+: value) (trimmed : Trimmed text) : IsClean text where
  oneLine c member := clean.oneLine c (part.subset member)
  noCommentEnd within := clean.noCommentEnd (within.trans part)
  noClosingTag within := clean.noClosingTag (within.trans part)
  trimmed := trimmed

end IsClean

theorem cutAt_isPrefix (mark text : List Char) : cutAt mark text <+: text := by
  rw [cutAt]
  cases found : upTo? mark text with
  | none => exact List.prefix_rfl
  | some front => exact upTo?_isPrefix found

theorem not_infix_cutAt (nonempty : mark ≠ []) (text : List Char) : ¬ mark <:+: cutAt mark text := by
  rw [cutAt]
  cases found : upTo? mark text with
  | none => exact not_infix_of_upTo?_eq_none found
  | some front => exact not_infix_of_upTo? nonempty found

theorem isClean_cleanValue (oneLine : OneLine raw) : IsClean (cleanValue raw) := by
  have comment := cutAt_isPrefix ['*', '/'] (trim raw)
  have tag := cutAt_isPrefix ['?', '>'] (cutAt ['*', '/'] (trim raw))
  have part : cleanValue raw <:+: cutAt ['?', '>'] (cutAt ['*', '/'] (trim raw)) := trim_isInfix _
  have whole : cleanValue raw <:+: raw :=
    part.trans (tag.isInfix.trans (comment.isInfix.trans (trim_isInfix raw)))
  refine ⟨fun c member => oneLine c (whole.subset member), fun within => ?_, fun within => ?_, trimmed_trim _⟩
  · -- the second cut takes nothing in front of the first one away
    exact not_infix_cutAt (List.cons_ne_nil _ _) (trim raw) (within.trans (part.trans tag.isInfix))
  · exact not_infix_cutAt (List.cons_ne_nil _ _) _ (within.trans part)

theorem dropOpeningTag_isSuffix (line : List Char) : dropOpeningTag line <:+ line := by
  rw [dropOpeningTag]
  cases tag : afterFolded? ['<', '?', 'p', 'h', 'p'] (line.dropWhile fun c => c == ' ' || c == '\t') with
  | none => exact List.suffix_rfl
  | some rest => exact (afterFolded?_isSuffix tag).trans (List.dropWhile_suffix _)

theorem fieldOnLine?_isSuffix (found : fieldOnLine? label line = some value) : value <:+ line :=
  (afterFolded?_isSuffix found).trans ((List.dropWhile_suffix _).trans (dropOpeningTag_isSuffix line))

theorem isClean_fieldIn (oneLine : ∀ line ∈ lines, OneLine line) (label : String) :
    IsClean (fieldIn lines label) := by
  rw [fieldIn]
  refine isClean_cleanValue ?_
  cases found : lines.findSome? (fieldOnLine? label.toList) with
  | none => exact List.forall_mem_nil _
  | some value =>
    obtain ⟨line, member, onLine⟩ := List.exists_of_findSome?_eq_some found
    exact fun c inValue => oneLine line member c ((fieldOnLine?_isSuffix onLine).subset inValue)

theorem not_return_mem_unified (text : List Char) : '\r' ∉ unified text := by
  intro member
  obtain ⟨c, -, same⟩ := List.mem_map.mp member
  split at same
  case isTrue => exact absurd same (by decide)
  case isFalse other => exact other (by simpa using same)

theorem oneLine_of_mem_windowLines (member : line ∈ windowLines text) : OneLine line := by
  intro c inLine
  constructor
  · rintro rfl
    exact not_mem_of_mem_splitOn member inLine
  · rintro rfl
    exact not_return_mem_unified _ ((isInfix_of_mem_splitOn member).subset inLine)

/-- The values of a header that are texts. -/
def texts (header : PluginHeader) : List String :=
  [header.name, header.pluginUri, header.version, header.description, header.author, header.authorUri,
    header.textDomain, header.domainPath, header.requiresWp, header.requiresPhp, header.updateUri, header.license,
    header.licenseUri]

variable {content : String} {header : PluginHeader}

theorem commaItems_eq (text : List Char) :
    commaItems text = ((text.splitOn ',').map trim).filter (· ≠ []) := by
  rw [commaItems, splitOn_eq]
  congr 1
  funext item
  cases item <;> rfl

theorem parse?_eq (content : String) :
    parse? content =
      if fieldIn (windowLines content.toList) "Plugin Name" = [] then none
      else some (ofValues fun label => String.ofList (fieldIn (windowLines content.toList) label)) := by
  have true_toLower : "true".toLower = "true" := by
    change "true".map Char.toLower = "true"
    rw [← String.toList_inj, String.toList_map]
    decide
  have network (value : List Char) :
      sameAsciiFolded value "true".toList = decide ((String.ofList value).toLower = "true") := by
    have folded := sameAsciiFolded_toList true_toLower (String.ofList value)
    rwa [String.toList_ofList] at folded
  simp only [parse?, List.isEmpty_iff, ofValues, network, commaItems_eq, String.toList_ofList]

/-- The values that a header was made of. -/
theorem exists_values (parsed : parse? content = some header) :
    ∃ value : String → String, header = ofValues value ∧ value "Plugin Name" ≠ "" ∧
      ∀ label, IsClean (value label).toList := by
  rw [parse?_eq, Option.ite_none_left_eq_some, Option.some.injEq] at parsed
  obtain ⟨named, rfl⟩ := parsed
  refine ⟨_, rfl, by simpa [← String.toList_inj] using named, fun label => ?_⟩
  rw [String.toList_ofList]
  exact isClean_fieldIn (fun line => oneLine_of_mem_windowLines) label

theorem name_ne_empty (parsed : parse? content = some header) : header.name ≠ "" := by
  obtain ⟨value, rfl, named, -⟩ := exists_values parsed
  exact named

theorem isClean_of_mem_texts (parsed : parse? content = some header) {text : String} (member : text ∈ header.texts) :
    IsClean text.toList := by
  obtain ⟨value, rfl, -, clean⟩ := exists_values parsed
  simp only [texts, List.mem_cons, List.not_mem_nil, or_false] at member
  rcases member with rfl | rfl | rfl | rfl | rfl | rfl | rfl | rfl | rfl | rfl | rfl | rfl | rfl
  all_goals exact clean _

theorem isItem_of_mem_requiresPlugins (parsed : parse? content = some header) {item : String}
    (member : item ∈ header.requiresPlugins) : IsItem item.toList ∧ IsClean item.toList := by
  obtain ⟨value, rfl, -, clean⟩ := exists_values parsed
  obtain ⟨text, isItem, rfl⟩ := List.mem_map.mp member
  rw [← commaItems_eq] at isItem
  obtain ⟨item, part⟩ := mem_commaItems isItem
  rw [String.toList_ofList]
  exact ⟨item, (clean "Requires Plugins").of_isInfix part item.trimmed⟩

/-! ## The part that is read -/

/-- A text that fills the window is not read any further. -/
theorem window_append (filled : windowSize ≤ textSize text) (back : List Char) : window (text ++ back) = window text := by
  rw [window, window, takeBytes_append]
  split
  case isTrue fits =>
    have full : windowSize - textSize text = 0 := by omega
    have whole : takeBytes windowSize (text ++ []) = text ++ takeBytes (windowSize - textSize text) [] := by
      rw [takeBytes_append, if_pos fits]
    have none : takeBytes 0 back = [] := by
      cases back with
      | nil => rfl
      | cons c cs => rw [takeBytes, if_neg (by have := c.utf8Size_pos; omega)]
    rw [List.append_nil] at whole
    rw [whole, full, none]
    rfl
  case isFalse => rfl

theorem window_window (text : List Char) : window (window text) = window text := by
  refine takeBytes_eq_self ?_
  rw [utf8ByteSize_eq_textSize, String.toList_ofList]
  exact textSize_takeBytes_le windowSize text

theorem parse?_congr {first second : String} (same : window first.toList = window second.toList) :
    parse? first = parse? second := by
  rw [parse?_eq, parse?_eq, windowLines, windowLines, same]

theorem textSize_le_takeBytes {front : List Char} {room : Nat} (fits : textSize front ≤ room) (starts : front <+: text) :
    textSize front ≤ textSize (takeBytes room text) := by
  obtain ⟨rest, rfl⟩ := starts
  rw [takeBytes_append, if_pos fits, textSize_append]
  exact Nat.le_add_right _ _

/-- The window ends between two characters, at the last such place within its size. -/
theorem exists_window_end (content : String) :
    ∃ stop : content.Pos, window content.toList = (content.sliceTo stop).copy.toList ∧
      stop.offset.byteIdx ≤ windowSize ∧
      ∀ other : content.Pos, other.offset.byteIdx ≤ windowSize → other ≤ stop := by
  obtain ⟨rest, split⟩ := takeBytes_isPrefix windowSize content.toList
  have valid : String.Pos.Raw.IsValid content ⟨textSize (window content.toList)⟩ :=
    isValid_iff.mpr ⟨_, rest, split.symm, rfl⟩
  refine ⟨⟨_, valid⟩, ?_, textSize_takeBytes_le windowSize _, fun other fits => ?_⟩
  · obtain ⟨whole, size⟩ := toList_split ⟨_, valid⟩
    exact eq_of_textSize_eq (takeBytes_isPrefix windowSize _) ⟨_, whole.symm⟩ size
  · obtain ⟨whole, size⟩ := toList_split other
    rw [size] at fits
    have inside := textSize_le_takeBytes fits ⟨_, whole.symm⟩
    rw [String.Pos.le_iff, String.Pos.Raw.le_iff, size]
    exact inside

/-- A header has a name, and its values are clean; so are the plugins it requires, none of which
is empty or has a comma in it.  What it is read from ends between two characters, and it is the
same whatever follows a content that is as long as the window. -/
theorem parse?_clean (content : String) :
    (∀ header, parse? content = some header →
        header.name ≠ "" ∧ (∀ value ∈ header.texts, IsClean value.toList) ∧
          ∀ item ∈ header.requiresPlugins, IsItem item.toList ∧ IsClean item.toList) ∧
      (∃ stop : content.Pos, window content.toList = (content.sliceTo stop).copy.toList ∧
        parse? content = parse? (content.sliceTo stop).copy ∧
        stop.offset.byteIdx ≤ 8192 ∧ ∀ other : content.Pos, other.offset.byteIdx ≤ 8192 → other ≤ stop) ∧
      (8192 ≤ content.utf8ByteSize → ∀ suffix, parse? (content ++ suffix) = parse? content) := by
  refine ⟨fun header parsed => ⟨name_ne_empty parsed, fun value => isClean_of_mem_texts parsed,
    fun item => isItem_of_mem_requiresPlugins parsed⟩, ?_, fun filled suffix => ?_⟩
  · obtain ⟨stop, isWindow, fits, last⟩ := exists_window_end content
    refine ⟨stop, isWindow, parse?_congr ?_, fits, last⟩
    rw [← isWindow, window_window]
  · rw [utf8ByteSize_eq_textSize] at filled
    refine parse?_congr ?_
    rw [String.toList_append, window_append filled]

/-- The name ends in front of both signs, and nothing stands between two commas. -/
theorem parse?_clean_signs :
    ∃ header, parse? "/*\n * Plugin Name: Forms ?> here */\n * Requires Plugins: ,akismet ,, jetpack\r\n" = some header ∧
      header.name = "Forms" ∧ header.requiresPlugins = ["akismet", "jetpack"] ∧
      ∀ item ∈ header.requiresPlugins, IsItem item.toList ∧ IsClean item.toList := by
  have parsed : parse? "/*\n * Plugin Name: Forms ?> here */\n * Requires Plugins: ,akismet ,, jetpack\r\n" =
      some { name := "Forms", requiresPlugins := ["akismet", "jetpack"] } := by decide +kernel
  exact ⟨_, parsed, rfl, rfl, ((parse?_clean _).1 _ parsed).2.2⟩

end PluginAudit.PluginHeader
