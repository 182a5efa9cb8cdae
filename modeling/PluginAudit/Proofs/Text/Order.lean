import PluginAudit.Proofs.Text.Boundaries

/-!
# The order of texts

Characters are in the order of their bytes: a longer character has a larger first byte, and of
characters of one length the first byte that differs decides.  Texts are therefore in the order
of their bytes as well.
-/

namespace PluginAudit.Text.Utf8

variable {text text' : List Char}

/-- The bytes of different numbers decide; equal ones leave it to what follows them. -/
theorem ofNat_cons_lt {m n : Nat} {front back : List UInt8} (fits : n < 256) (le : m ≤ n)
    (later : m = n → front < back) : UInt8.ofNat m :: front < UInt8.ofNat n :: back := by
  rcases le.lt_or_eq with before | rfl
  · refine List.Lex.rel (UInt8.lt_iff_toNat_lt.mpr ?_)
    rwa [toNat_ofNat (before.trans fits), toNat_ofNat fits]
  · exact List.Lex.cons (later rfl)

/-- A character before another one has smaller bytes, whatever follows the two. -/
theorem utf8EncodeChar_append_lt {c d : Char} (before : c < d) (front back : List UInt8) :
    String.utf8EncodeChar c ++ front < String.utf8EncodeChar d ++ back := by
  have smaller : c.val.toNat < d.val.toNat := before
  have valid : d.val.toNat < 0xD800 ∨ 0xDFFF < d.val.toNat ∧ d.val.toNat < 0x110000 := d.valid
  unfold String.utf8EncodeChar
  dsimp only
  generalize c.val.toNat = v at smaller
  generalize d.val.toNat = w at smaller valid
  split_ifs
  -- where all bytes so far are equal, the numbers differ in what is left of them
  all_goals repeat first | omega | refine ofNat_cons_lt (by omega) (by omega) fun _ => ?_

theorem encode_lt_encode (before : text < text') : encode text < encode text' := by
  induction before with
  | nil =>
    obtain ⟨b, behind, -, bytes⟩ := exists_firstByte (List.cons_ne_nil _ _)
    rw [bytes]
    exact List.Lex.nil
  | @cons c _ _ _ inductionHypothesis =>
    rw [encode_cons, encode_cons]
    exact List.append_left_lt inductionHypothesis
  | rel before =>
    rw [encode_cons, encode_cons]
    exact utf8EncodeChar_append_lt before _ _

end PluginAudit.Text.Utf8
