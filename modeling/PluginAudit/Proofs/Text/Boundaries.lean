import PluginAudit.Proofs.Text.Utf8

/-!
# Boundaries of characters

The first byte of a character is told from all its others, so the bytes of a text that is not
empty stand in those of another text only where the text itself stands there.  Both ends of
such a place are boundaries of characters.
-/

namespace PluginAudit.Text.Utf8

variable {text front back needle : List Char} {before behind : List UInt8} {b : UInt8}

theorem encode_append (front back : List Char) : encode (front ++ back) = encode front ++ encode back :=
  List.flatMap_append

theorem encode_cons (c : Char) (cs : List Char) : encode (c :: cs) = String.utf8EncodeChar c ++ encode cs :=
  List.flatMap_cons

theorem encode_ne_nil (some : text ≠ []) : encode text ≠ [] := by
  rw [← List.length_pos_iff, length_encode]
  exact textSize_pos some

/-- Where a character begins, a text is cut in two. -/
theorem exists_split_of_firstByte (first : b.IsUTF8FirstByte) (split : encode text = before ++ b :: behind) :
    ∃ front back, text = front ++ back ∧ encode front = before ∧ encode back = b :: behind := by
  induction text generalizing before with
  | nil => simp [encode] at split
  | cons c cs inductionHypothesis =>
    rw [encode_cons, List.append_eq_append_iff] at split
    rcases split with ⟨more, passed, later⟩ | ⟨more, character, others⟩
    · obtain ⟨front, back, rfl, here, there⟩ := inductionHypothesis later
      exact ⟨c :: front, back, rfl, by rw [encode_cons, here, passed], there⟩
    · cases more with
      | nil =>
        rw [List.append_nil] at character
        exact ⟨[c], cs, rfl, by rw [← character, encode, List.flatMap_singleton], others.symm⟩
      | cons d more =>
        obtain ⟨rfl, -⟩ := List.cons.inj others
        -- of the bytes of one character only the first one looks like it
        have within : before.length < (String.utf8EncodeChar c).length := by simp [character]
        have isFirst : (String.utf8EncodeChar c)[before.length] = b := by simp [character]
        have atStart : before.length = 0 :=
          UInt8.isUTF8FirstByte_getElem_utf8EncodeChar.mp (isFirst ▸ first)
        obtain rfl := List.length_eq_zero_iff.mp atStart
        exact ⟨[], c :: cs, rfl, rfl, by rw [encode_cons, character, List.nil_append, ← others]⟩

theorem exists_firstByte (some : text ≠ []) : ∃ b behind, b.IsUTF8FirstByte ∧ encode text = b :: behind := by
  obtain ⟨c, cs, rfl⟩ := List.exists_cons_of_ne_nil some
  have positive : 0 < (String.utf8EncodeChar c).length := by
    rw [String.length_utf8EncodeChar]
    exact c.utf8Size_pos
  cases bytes : String.utf8EncodeChar c with
  | nil => simp [bytes] at positive
  | cons b others =>
    have first : (String.utf8EncodeChar c)[0].IsUTF8FirstByte :=
      UInt8.isUTF8FirstByte_getElem_utf8EncodeChar.mpr rfl
    simp only [bytes, List.getElem_cons_zero] at first
    exact ⟨b, others ++ encode cs, first, by rw [encode_cons, bytes, List.cons_append]⟩

/-- A text that starts with the bytes of another one starts with that text. -/
theorem exists_rest_of_prefix (split : encode text = encode needle ++ behind) :
    ∃ rest, text = needle ++ rest ∧ encode rest = behind := by
  have decoded := decodeLossy_encode text
  rw [split, decodeLossy_encode_append] at decoded
  refine ⟨decodeLossy behind, decoded.symm, ?_⟩
  rw [← decoded, encode_append, List.append_cancel_left_eq] at split
  exact split

/-- The bytes of a text that is not empty stand only where the text does. -/
theorem exists_split_of_encode (some : needle ≠ []) (split : encode text = before ++ encode needle ++ behind) :
    ∃ front back, text = front ++ needle ++ back ∧ encode front = before ∧ encode back = behind := by
  obtain ⟨b, others, first, begins⟩ := exists_firstByte some
  rw [List.append_assoc, begins, List.cons_append] at split
  obtain ⟨front, tail, rfl, here, there⟩ := exists_split_of_firstByte first split
  rw [← List.cons_append, ← begins] at there
  obtain ⟨back, rfl, rest⟩ := exists_rest_of_prefix there
  exact ⟨front, back, (List.append_assoc _ _ _).symm, here, rest⟩

theorem infix_of_encode (some : needle ≠ []) (isInfix : encode needle <:+: encode text) : needle <:+: text := by
  obtain ⟨before, behind, split⟩ := isInfix
  obtain ⟨front, back, rfl, -, -⟩ := exists_split_of_encode some split.symm
  exact ⟨front, back, rfl⟩

theorem suffix_of_encode (some : needle ≠ []) (isSuffix : encode needle <:+ encode text) : needle <:+ text := by
  obtain ⟨before, split⟩ := isSuffix
  rw [← List.append_nil (before ++ _)] at split
  obtain ⟨front, back, rfl, -, none⟩ := exists_split_of_encode some split.symm
  obtain rfl : back = [] := by
    by_contra more
    exact encode_ne_nil more none
  exact ⟨front, (List.append_nil _).symm⟩

/-! ## Offsets -/

theorem utf8ByteSize_eq_textSize (content : String) : content.utf8ByteSize = textSize content.toList := by
  have bytes : content.toByteArray = (encode content.toList).toByteArray := by
    conv_lhs => rw [← String.ofList_toList (s := content), String.toByteArray_ofList]
    rfl
  rw [← length_encode, String.utf8ByteSize, bytes, List.size_toByteArray]

/-- An offset lies between two characters exactly if it is the size of what is before it. -/
theorem isValid_iff {content : String} {offset : Nat} :
    String.Pos.Raw.IsValid content ⟨offset⟩ ↔
      ∃ front back, content.toList = front ++ back ∧ offset = textSize front := by
  rw [String.Pos.Raw.isValid_iff_exists_append]
  constructor
  · rintro ⟨front, back, rfl, isEnd⟩
    refine ⟨front.toList, back.toList, String.toList_append, ?_⟩
    rw [← utf8ByteSize_eq_textSize]
    exact congrArg String.Pos.Raw.byteIdx isEnd
  · rintro ⟨front, back, split, rfl⟩
    refine ⟨String.ofList front, String.ofList back, ?_, ?_⟩
    · rw [← String.toList_inj, split, String.toList_append, String.toList_ofList, String.toList_ofList]
    · rw [String.Pos.Raw.ext_iff, String.byteIdx_rawEndPos, utf8ByteSize_eq_textSize, String.toList_ofList]

/-- A place cuts a content in two, and its offset is the size of the first part. -/
theorem toList_split {content : String} (place : content.Pos) :
    content.toList = (content.sliceTo place).copy.toList ++ (content.sliceFrom place).copy.toList ∧
      place.offset.byteIdx = textSize (content.sliceTo place).copy.toList := by
  constructor
  · rw [← String.toList_append, ← place.splits.eq_append]
  · rw [place.splits.offset_eq_rawEndPos, String.byteIdx_rawEndPos, utf8ByteSize_eq_textSize]

theorem eq_of_textSize_eq (first : front <+: text) (second : back <+: text) (same : textSize front = textSize back) :
    front = back :=
  (List.prefix_of_prefix_length_le first second (length_le_of_textSize_le first second same.le)).eq_of_length_le
    (length_le_of_textSize_le second first same.ge)

end PluginAudit.Text.Utf8
