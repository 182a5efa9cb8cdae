import PluginAudit.Proofs.Pattern.Search
import PluginAudit.Text.Utf8

/-!
# Bytes that are text

Lenient decoding gives well-formed bytes back as the text that they encode, and it never joins
bytes across an ASCII byte: what stands before one is decoded apart from it.  A text takes at
least the bytes that it was decoded from.
-/

namespace PluginAudit.Text.Utf8

variable {lead b : UInt8} {front back rest : List UInt8} {c : Char} {text : List Char}

/-! ## Pieces -/

theorem decodeLossyAfter_append (recent done : List Char) (bytes : List UInt8) :
    decodeLossyAfter (recent ++ done) bytes = done.reverse ++ decodeLossyAfter recent bytes := by
  fun_induction decodeLossyAfter recent bytes with
  | case1 recent => rw [decodeLossyAfter, List.reverse_append]
  | case2 recent lead rest inductionHypothesis => rw [← inductionHypothesis, decodeLossyAfter, List.cons_append]

theorem decodeLossy_nil : decodeLossy [] = [] := by
  rw [decodeLossy, decodeLossyAfter, List.reverse_nil]

/-- A text is decoded piece by piece. -/
theorem decodeLossy_cons (lead : UInt8) (rest : List UInt8) :
    decodeLossy (lead :: rest) = (next lead rest).1.getD replacement :: decodeLossy (next lead rest).2 := by
  rw [decodeLossy, decodeLossyAfter]
  exact decodeLossyAfter_append [] [_] _

theorem not_isContinuation (ascii : b < 0x80) : isContinuation b = false := by
  rw [UInt8.lt_iff_toNat_lt] at ascii
  simp only [isContinuation, UInt8.le_iff_toNat_le, Bool.and_eq_false_iff, decide_eq_false_iff_not]
  left
  simp at ascii ⊢
  omega

theorem not_mayFollow (ascii : b < 0x80) : mayFollow lead b = false := by
  have outside := not_isContinuation ascii
  rw [UInt8.lt_iff_toNat_lt] at ascii
  unfold mayFollow
  split_ifs
  all_goals
    first
    | exact outside
    | simp only [UInt8.le_iff_toNat_le, Bool.and_eq_false_iff, decide_eq_false_iff_not]
      left
      simp at ascii ⊢
      omega

theorem next_append (ascii : ∀ b, back.head? = some b → b < 0x80) :
    next lead (rest ++ back) = ((next lead rest).1, (next lead rest).2 ++ back) := by
  cases back with
  | nil => rw [List.append_nil, List.append_nil]
  | cons t ts =>
    have noContinuation := not_isContinuation (ascii t rfl)
    have noFollower : mayFollow lead t = false := not_mayFollow (ascii t rfl)
    unfold next
    -- how many bytes a piece may take depends on its first byte alone
    split_ifs
    · rfl
    · rcases rest with _ | ⟨b, rest⟩ <;> simp only [List.nil_append, List.cons_append] <;> grind
    · rcases rest with _ | ⟨b, _ | ⟨c, rest⟩⟩ <;> simp only [List.nil_append, List.cons_append] <;> grind
    · rcases rest with _ | ⟨b, _ | ⟨c, _ | ⟨d, rest⟩⟩⟩ <;>
        simp only [List.nil_append, List.cons_append] <;> grind
    · rfl

/-- What stands before an ASCII byte is decoded apart from it and what follows. -/
theorem decodeLossy_append (ascii : ∀ b, back.head? = some b → b < 0x80) (front : List UInt8) :
    decodeLossy (front ++ back) = decodeLossy front ++ decodeLossy back := by
  induction size : front.length using Nat.strongRecOn generalizing front with
  | ind n inductionHypothesis =>
    cases front with
    | nil => rw [decodeLossy_nil, List.nil_append, List.nil_append]
    | cons lead rest =>
      have shorter : (next lead rest).2.length < n := by
        have := next_length lead rest
        rw [← size, List.length_cons]
        omega
      rw [List.cons_append, decodeLossy_cons, next_append ascii, decodeLossy_cons,
        inductionHypothesis _ shorter _ rfl, List.cons_append]

/-! ## Encoded text -/

theorem toNat_ofNat {n : Nat} (fits : n < 256) : (UInt8.ofNat n).toNat = n := by
  simp only [UInt8.toNat_ofNat']
  omega

theorem isContinuation_iff : isContinuation b = true ↔ 0x80 ≤ b.toNat ∧ b.toNat ≤ 0xBF := by
  simp [isContinuation, UInt8.le_iff_toNat_le]

/-- The payload of a byte is a remainder. -/
theorem payload_eq (b : UInt8) :
    payload 0x3F b = b.toNat % 64 ∧ payload 0x1F b = b.toNat % 32 ∧ payload 0x0F b = b.toNat % 16 ∧
      payload 0x07 b = b.toNat % 8 := by
  simp only [payload, UInt8.toNat_and]
  exact ⟨Nat.and_two_pow_sub_one_eq_mod _ 6, Nat.and_two_pow_sub_one_eq_mod _ 5,
    Nat.and_two_pow_sub_one_eq_mod _ 4, Nat.and_two_pow_sub_one_eq_mod _ 3⟩

theorem mayFollow_iff :
    mayFollow lead b = true ↔ 0x80 ≤ b.toNat ∧ b.toNat ≤ 0xBF ∧ (lead.toNat = 0xE0 → 0xA0 ≤ b.toNat) ∧
      (lead.toNat = 0xED → b.toNat ≤ 0x9F) ∧ (lead.toNat = 0xF0 → 0x90 ≤ b.toNat) ∧
      (lead.toNat = 0xF4 → b.toNat ≤ 0x8F) := by
  simp only [mayFollow, isContinuation, beq_iff_eq, ← UInt8.toNat_inj, UInt8.le_iff_toNat_le]
  simp only [UInt8.reduceToNat]
  split_ifs <;> simp only [Bool.and_eq_true, decide_eq_true_eq] <;> omega

theorem next_one (ascii : lead.toNat < 0x80) : next lead rest = (some (Char.ofNat lead.toNat), rest) := by
  unfold next
  exact if_pos (UInt8.lt_iff_toNat_lt.mpr ascii)

theorem next_two (starts : 0xC2 ≤ lead.toNat ∧ lead.toNat ≤ 0xDF) (second : isContinuation b = true) :
    next lead (b :: rest) = (some (Char.ofNat (lead.toNat % 32 * 0x40 + b.toNat % 64)), rest) := by
  have above : ¬lead.toNat < 0x80 := by omega
  simp [next, UInt8.lt_iff_toNat_lt, UInt8.le_iff_toNat_le, payload_eq, above, starts, second]

theorem next_three {c : UInt8} (starts : 0xE0 ≤ lead.toNat ∧ lead.toNat ≤ 0xEF) (second : mayFollow lead b = true)
    (third : isContinuation c = true) :
    next lead (b :: c :: rest) =
      (some (Char.ofNat (lead.toNat % 16 * 0x1000 + b.toNat % 64 * 0x40 + c.toNat % 64)), rest) := by
  have above : ¬lead.toNat < 0x80 ∧ ¬lead.toNat ≤ 0xDF := by omega
  simp [next, UInt8.lt_iff_toNat_lt, UInt8.le_iff_toNat_le, payload_eq, above, starts, second, third]

theorem next_four {c d : UInt8} (starts : 0xF0 ≤ lead.toNat ∧ lead.toNat ≤ 0xF4) (second : mayFollow lead b = true)
    (third : isContinuation c = true) (fourth : isContinuation d = true) :
    next lead (b :: c :: d :: rest) =
      (some (Char.ofNat
        (lead.toNat % 8 * 0x40000 + b.toNat % 64 * 0x1000 + c.toNat % 64 * 0x40 + d.toNat % 64)), rest) := by
  have above : ¬lead.toNat < 0x80 ∧ ¬lead.toNat ≤ 0xDF ∧ ¬lead.toNat ≤ 0xEF := by omega
  simp [next, UInt8.lt_iff_toNat_lt, UInt8.le_iff_toNat_le, payload_eq, above, starts, second, third, fourth]

/-- The bytes of a character are one piece, and it stands for that character. -/
theorem next_utf8EncodeChar (c : Char) (rest : List UInt8) :
    ∃ lead others, String.utf8EncodeChar c = lead :: others ∧ next lead (others ++ rest) = (some c, rest) := by
  have valid : c.val.toNat < 0xD800 ∨ 0xDFFF < c.val.toNat ∧ c.val.toNat < 0x110000 := c.valid
  have self {n : Nat} (same : n = c.val.toNat) : (some (Char.ofNat n), rest) = (some c, rest) := by
    rw [same]
    exact congrArg (some · , rest) (Char.ofNat_toNat c)
  unfold String.utf8EncodeChar
  dsimp only
  generalize c.val.toNat = v at valid self ⊢
  have last (n : Nat) : (UInt8.ofNat (n % 64 + 128)).toNat = n % 64 + 128 := toNat_ofNat (by omega)
  have continues (n : Nat) : isContinuation (UInt8.ofNat (n % 64 + 128)) = true := by
    rw [isContinuation_iff, last]
    omega
  split_ifs with one two three
  · have lead := toNat_ofNat (show v < 256 by omega)
    refine ⟨_, [], rfl, (next_one ?_).trans (self ?_)⟩ <;> omega
  · have lead := toNat_ofNat (show v / 64 % 32 + 192 < 256 by omega)
    refine ⟨_, [_], rfl, (next_two ?_ (continues v)).trans (self ?_)⟩
    · omega
    · rw [lead, last]
      omega
  · have lead := toNat_ofNat (show v / 4096 % 16 + 224 < 256 by omega)
    refine ⟨_, [_, _], rfl, (next_three ?_ (mayFollow_iff.mpr ?_) (continues v)).trans (self ?_)⟩
    · omega
    · rw [lead, last]
      omega
    · rw [lead, last, last]
      omega
  · have lead := toNat_ofNat (show v / 262144 % 8 + 240 < 256 by omega)
    refine ⟨_, [_, _, _], rfl,
      (next_four ?_ (mayFollow_iff.mpr ?_) (continues (v / 64)) (continues v)).trans (self ?_)⟩
    · omega
    · rw [lead, last]
      omega
    · rw [lead, last, last, last]
      omega

/-- A text is read back from its bytes, whatever follows them. -/
theorem decodeLossy_encode_append (text : List Char) (rest : List UInt8) :
    decodeLossy (encode text ++ rest) = text ++ decodeLossy rest := by
  induction text with
  | nil => rfl
  | cons c text inductionHypothesis =>
    obtain ⟨lead, others, bytes, piece⟩ := next_utf8EncodeChar c (encode text ++ rest)
    have whole : encode (c :: text) = lead :: others ++ encode text := by
      rw [encode, List.flatMap_cons, bytes]
      rfl
    rw [whole, List.append_assoc, List.cons_append, decodeLossy_cons, piece, inductionHypothesis]
    rfl

theorem decodeLossy_encode (text : List Char) : decodeLossy (encode text) = text := by
  have alone := decodeLossy_encode_append text []
  rwa [List.append_nil, decodeLossy_nil, List.append_nil] at alone

/-! ## Sizes -/

theorem length_encode (text : List Char) : (encode text).length = textSize text := by
  induction text with
  | nil => rfl
  | cons c text inductionHypothesis =>
    rw [encode] at inductionHypothesis ⊢
    rw [List.flatMap_cons, List.length_append, inductionHypothesis, String.length_utf8EncodeChar, textSize_cons]

theorem utf8Size_ofNat {n : Nat} (valid : n < 0xD800 ∨ 0xDFFF < n ∧ n < 0x110000) :
    (Char.ofNat n).utf8Size = if n < 0x80 then 1 else if n < 0x800 then 2 else if n < 0x10000 then 3 else 4 := by
  have code : (Char.ofNat n).val.toNat = n := by
    rw [Char.ofNat, dif_pos (show n.isValidChar from valid)]
    rfl
  unfold Char.utf8Size
  simp only [UInt32.le_iff_toNat_le, code, UInt32.toNat_ofNatLT]
  split_ifs <;> omega

/-- A piece takes no more bytes than the character that it is shown as. -/
theorem length_next (lead : UInt8) (rest : List UInt8) :
    rest.length < ((next lead rest).1.getD replacement).utf8Size + (next lead rest).2.length := by
  have illFormed : replacement.utf8Size = 3 := by decide
  fun_cases next lead rest
  -- an ill-formed piece has three bytes at most
  all_goals
    try
      simp only [Option.getD_none, List.length_cons, List.length_nil, illFormed]
      omega
  -- a character has as many as its code point asks for, as no shorter form is well-formed
  all_goals
    rw [Option.getD_some]
    simp only [UInt8.lt_iff_toNat_lt, UInt8.le_iff_toNat_le, Bool.and_eq_true, decide_eq_true_eq, UInt8.reduceToNat,
      isContinuation_iff, mayFollow_iff, payload_eq, List.length_cons] at *
    rw [utf8Size_ofNat (by omega)]
    split_ifs <;> omega

theorem length_le_textSize_decodeLossy (bytes : List UInt8) : bytes.length ≤ textSize (decodeLossy bytes) := by
  induction size : bytes.length using Nat.strongRecOn generalizing bytes with
  | ind n inductionHypothesis =>
    cases bytes with
    | nil => exact size ▸ Nat.zero_le _
    | cons lead rest =>
      have piece := length_next lead rest
      have shorter := next_length lead rest
      have later := inductionHypothesis _ (by rw [← size, List.length_cons]; omega) (next lead rest).2 rfl
      rw [decodeLossy_cons, textSize_cons, ← size, List.length_cons]
      omega

/-! ## Files -/

theorem toList_loop_eq (bytes : ByteArray) (i : Nat) (read : List UInt8) :
    ByteArray.toList.loop bytes i read = read.reverse ++ bytes.data.toList.drop i := by
  fun_induction ByteArray.toList.loop bytes i read with
  | case1 i read more inductionHypothesis =>
    have within : i < bytes.data.toList.length := more
    rw [inductionHypothesis, List.drop_eq_getElem_cons within]
    simp [ByteArray.get!, more]
  | case2 i read past =>
    rw [List.drop_eq_nil_of_le (Nat.le_of_not_lt past), List.append_nil]

theorem toList_eq_data_toList (bytes : ByteArray) : bytes.toList = bytes.data.toList :=
  toList_loop_eq bytes 0 []

/-- A file is read leniently, whether or not its bytes are well-formed. -/
theorem toList_textOf (bytes : ByteArray) : (textOf bytes).toList = decodeLossy bytes.toList := by
  rw [textOf, String.fromUTF8?]
  by_cases valid : bytes.IsValidUTF8
  · rw [dif_pos valid]
    obtain ⟨text, rfl⟩ := valid
    have same : String.fromUTF8 text.utf8Encode ⟨text, rfl⟩ = String.ofList text :=
      String.toByteArray_inj.mp String.toByteArray_ofList.symm
    simp only [same]
    rw [String.toList_ofList, toList_eq_data_toList, List.utf8Encode, List.toList_data_toByteArray]
    exact (decodeLossy_encode text).symm
  · rw [dif_neg valid]
    exact String.toList_ofList

end PluginAudit.Text.Utf8
