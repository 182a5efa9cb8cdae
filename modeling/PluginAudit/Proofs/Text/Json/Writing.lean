import PluginAudit.Proofs.Text.Json.Equality
import PluginAudit.Proofs.Text.Slicing
import PluginAudit.Text.Json.Reader

/-!
# Written JSON values

The compact form of a value tells the value, and where the value ends, whatever
stands behind it.  So no two values are written alike.
-/

namespace PluginAudit.Text.Json

/-- A text that cannot go on a number. -/
def EndsNumber (rest : List Char) : Prop := ∀ c, rest.head? = some c → c.isDigit = false

/-- Of the things that fit, a thing that is written is told by the text it starts, and so is
what stands behind it. -/
def Delimited {α : Type} (write : α → List Char) (fits : α → Prop) (x : α) : Prop :=
  ∀ y rest rest', fits y → EndsNumber rest → EndsNumber rest' → write x ++ rest = write y ++ rest' →
    x = y ∧ rest = rest'

/-! ## Texts -/

/-- A control character is written with two digits. -/
theorem hexDigits_eq : ∀ n < 0x20,
    (if n < 0x10 then ['0'] else []) ++ hexDigits n = [(n / 16).digitChar, (n % 16).digitChar] ∧
      fourDigits? '0' '0' (n / 16).digitChar (n % 16).digitChar = some n := by
  decide

/-- A character is read back from the form it is written in. -/
theorem readUnits_escapedChar (c : Char) (units : List Nat) (rest : List Char) :
    readUnits units (escapedChar c ++ rest) = readUnits (c.toNat :: units) rest := by
  by_cases special : c ∈ ['"', '\\', '\n', '\r', '\t', '\x08', '\x0c']
  · simp only [List.mem_cons, List.not_mem_nil, or_false] at special
    rcases special with rfl | rfl | rfl | rfl | rfl | rfl | rfl <;> rfl
  · simp only [List.mem_cons, List.not_mem_nil, or_false, not_or] at special
    have notQuote := special.1
    have notBackslash := special.2.1
    by_cases control : c.toNat < 0x20
    · obtain ⟨digits, value⟩ := hexDigits_eq c.toNat control
      have written : escapedChar c =
          ['\\', 'u', '0', '0', (c.toNat / 16).digitChar, (c.toNat % 16).digitChar] := by
        simp only [escapedChar, special, control, beq_iff_eq, if_false, if_true, List.append_assoc, digits]
        rfl
      simp only [written, List.cons_append, List.nil_append, readUnits, value]
    · have written : escapedChar c = [c] := by simp [escapedChar, special, control]
      rw [written, List.singleton_append, readUnits.eq_5 _ _ _ notQuote
        (fun _ _ _ _ _ same => absurd same notBackslash) (fun _ _ same => absurd same notBackslash),
        if_neg control]

/-- A text is read back from the form it is written in, whatever stands behind it. -/
theorem readUnits_escaped (cs : List Char) (units : List Nat) (rest : List Char) :
    readUnits units (cs.flatMap escapedChar ++ '"' :: rest) =
      some ((cs.map Char.toNat).reverse ++ units, rest) := by
  induction cs generalizing units with
  | nil => simp [readUnits]
  | cons c others inductionHypothesis =>
    rw [List.flatMap_cons, List.append_assoc, readUnits_escapedChar, inductionHypothesis]
    simp

theorem toList_escaped (s : String) : (escaped s).toList = '"' :: (s.toList.flatMap escapedChar ++ ['"']) := by
  simp [escaped]

theorem escaped_append_inj {s s' : String} {rest rest' : List Char}
    (same : (escaped s).toList ++ rest = (escaped s').toList ++ rest') : s = s' ∧ rest = rest' := by
  simp only [toList_escaped, List.cons_append, List.append_assoc, List.nil_append, List.cons.injEq,
    true_and] at same
  have read := congrArg (readUnits []) same
  simp only [readUnits_escaped, List.append_nil, Option.some.injEq, Prod.mk.injEq,
    List.reverse_inj] at read
  refine ⟨String.toList_inj.mp ?_, read.2⟩
  exact List.map_injective_iff.mpr (fun _ _ => Char.toNat_inj.mp) read.1

/-! ## Numbers -/

theorem toDigits_append_inj {n n' : Nat} {rest rest' : List Char} (ends : EndsNumber rest)
    (ends' : EndsNumber rest') (same : Nat.toDigits 10 n ++ rest = Nat.toDigits 10 n' ++ rest') :
    n = n' ∧ rest = rest' := by
  have front (n : Nat) {rest : List Char} (ends : EndsNumber rest) :
      (Nat.toDigits 10 n ++ rest).takeWhile Char.isDigit = Nat.toDigits 10 n := by
    have stops : rest.takeWhile Char.isDigit = [] := by
      cases rest with
      | nil => rfl
      | cons c others => simp [ends c rfl]
    rw [List.takeWhile_append_of_pos fun c => Nat.isDigit_of_mem_toDigits (by decide) (by decide), stops,
      List.append_nil]
  have digits : Nat.toDigits 10 n = Nat.toDigits 10 n' := by
    rw [← front n ends, same, front n' ends']
  rw [digits] at same
  refine ⟨?_, List.append_cancel_left same⟩
  simpa using congrArg (Nat.ofDigitChars 10 · 0) digits

theorem toList_ofNat (n : Nat) : (toString (Int.ofNat n)).toList = Nat.toDigits 10 n :=
  Nat.toList_repr

theorem toList_negSucc (n : Nat) :
    (toString (Int.negSucc n)).toList = '-' :: Nat.toDigits 10 (n + 1) := by
  have written : toString (Int.negSucc n) = "-" ++ (n + 1).repr := rfl
  rw [written, String.toList_append, Nat.toList_repr]
  rfl

/-- The first digit of a number is a digit. -/
theorem exists_first_digit (n : Nat) : ∃ c rest, Nat.toDigits 10 n = c :: rest ∧ c.isDigit := by
  cases digits : Nat.toDigits 10 n with
  | nil => exact absurd digits Nat.toDigits_ne_nil
  | cons c rest =>
    exact ⟨c, rest, rfl, Nat.isDigit_of_mem_toDigits (by decide) (by decide) (digits ▸ List.mem_cons_self)⟩

theorem number_append_inj {n n' : Int} {rest rest' : List Char} (ends : EndsNumber rest)
    (ends' : EndsNumber rest') (same : (toString n).toList ++ rest = (toString n').toList ++ rest') :
    n = n' ∧ rest = rest' := by
  have signed (n n' : Nat) {rest rest' : List Char} :
      Nat.toDigits 10 n ++ rest ≠ ('-' :: Nat.toDigits 10 n') ++ rest' := by
    obtain ⟨c, others, digits, isDigit⟩ := exists_first_digit n
    rw [digits]
    intro same
    rw [(List.cons.inj same).1] at isDigit
    cases isDigit
  cases n with
  | ofNat n =>
    cases n' with
    | ofNat n' =>
      simp only [toList_ofNat] at same
      obtain ⟨rfl, rest_eq⟩ := toDigits_append_inj ends ends' same
      exact ⟨rfl, rest_eq⟩
    | negSucc n' =>
      simp only [toList_ofNat, toList_negSucc] at same
      exact absurd same (signed _ _)
  | negSucc n =>
    cases n' with
    | ofNat n' =>
      simp only [toList_ofNat, toList_negSucc] at same
      exact absurd same.symm (signed _ _)
    | negSucc n' =>
      simp only [toList_negSucc, List.cons_append, List.cons.injEq, true_and] at same
      obtain ⟨successor, rest_eq⟩ := toDigits_append_inj ends ends' same
      exact ⟨by rw [Nat.succ.inj successor], rest_eq⟩

/-! ## Lists and objects -/

section Joined

variable {α : Type} {write : α → List Char} {fits : α → Prop} {stop : Char} {rest rest' : List Char}

/-- What is behind the first of several things that are written with commas between them, up to
the character that ends them. -/
def behindFirst (write : α → List Char) (stop : Char) (rest : List Char) : List α → List Char
  | [] => stop :: rest
  | x :: xs => ',' :: (joinWith [','] ((x :: xs).map write) ++ stop :: rest)

theorem joinWith_eq_behindFirst (x : α) (xs : List α) :
    joinWith [','] ((x :: xs).map write) ++ stop :: rest = write x ++ behindFirst write stop rest xs := by
  cases xs with
  | nil => rfl
  | cons next others =>
    simp only [List.map_cons, behindFirst]
    rw [joinWith_cons (List.cons_ne_nil _ _)]
    simp

theorem endsNumber_behindFirst (closes : stop.isDigit = false) (xs : List α) :
    EndsNumber (behindFirst write stop rest xs) := by
  intro c first
  cases xs with
  | nil =>
    cases first
    exact closes
  | cons x others =>
    cases first
    rfl

/-- Things that are written with commas between them, up to a character that starts none of
them, are told by what they are written as if each of them is. -/
theorem joinWith_append_inj (notComma : stop ≠ ',') (closes : stop.isDigit = false)
    (starts : ∀ x, fits x → ∃ c others, write x = c :: others ∧ c ≠ stop) {xs ys : List α}
    (delimited : ∀ x ∈ xs, Delimited write fits x) (fitting : ∀ x ∈ xs, fits x)
    (fitting' : ∀ y ∈ ys, fits y)
    (same : joinWith [','] (xs.map write) ++ stop :: rest =
      joinWith [','] (ys.map write) ++ stop :: rest') : xs = ys ∧ rest = rest' := by
  have notStop {x : α} (fit : fits x) (xs : List α) (rest rest' : List Char) :
      stop :: rest ≠ write x ++ behindFirst write stop rest' xs := by
    obtain ⟨c, others, written, different⟩ := starts x fit
    rw [written]
    intro same
    exact different (List.cons.inj same).1.symm
  induction xs generalizing ys with
  | nil =>
    cases ys with
    | nil => exact ⟨rfl, (List.cons.inj same).2⟩
    | cons y ys =>
      rw [joinWith_eq_behindFirst] at same
      exact absurd same (notStop (fitting' y List.mem_cons_self) ys rest rest')
  | cons x xs inductionHypothesis =>
    cases ys with
    | nil =>
      rw [joinWith_eq_behindFirst] at same
      exact absurd same.symm (notStop (fitting x List.mem_cons_self) xs rest' rest)
    | cons y ys =>
      rw [joinWith_eq_behindFirst, joinWith_eq_behindFirst] at same
      obtain ⟨rfl, behind⟩ := delimited x List.mem_cons_self y _ _ (fitting' y List.mem_cons_self)
        (endsNumber_behindFirst closes xs) (endsNumber_behindFirst closes ys) same
      -- what is behind the first things tells whether there are others
      cases xs with
      | nil =>
        cases ys with
        | nil => exact ⟨rfl, (List.cons.inj behind).2⟩
        | cons _ _ => exact absurd (List.cons.inj behind).1 notComma
      | cons next xs =>
        cases ys with
        | nil => exact absurd (List.cons.inj behind).1.symm notComma
        | cons next' ys =>
          obtain ⟨others, rest_eq⟩ := inductionHypothesis
            (fun x member => delimited x (List.mem_cons_of_mem _ member))
            (fun x member => fitting x (List.mem_cons_of_mem _ member))
            (fun y member => fitting' y (List.mem_cons_of_mem _ member)) (List.cons.inj behind).2
          exact ⟨by rw [others], rest_eq⟩

end Joined

/-- A value as it is written. -/
def written (value : Json) : List Char := value.compact.toList

/-- A member of an object as it is written. -/
def writtenMember (entry : String × Json) : List Char :=
  (escaped entry.1).toList ++ ':' :: entry.2.written

theorem written_list (items : List Json) :
    written (.list items) = '[' :: (joinWith [','] (items.map written) ++ [']']) := by
  have inner : (compactItems items).toList = joinWith [','] (items.map written) := by
    induction items with
    | nil => rfl
    | cons item rest inductionHypothesis =>
      cases rest with
      | nil => simp [compactItems, joinWith, written]
      | cons next others =>
        rw [compactItems, String.toList_append, String.toList_append, inductionHypothesis]
        · rfl
        · simp
  simp only [written, compact, String.toList_append, inner]
  rfl

theorem written_object (members : List (String × Json)) :
    written (.object members) = '\x7b' :: (joinWith [','] (members.map writtenMember) ++ ['\x7d']) := by
  have inner : (compactMembers members).toList = joinWith [','] (members.map writtenMember) := by
    induction members with
    | nil => rfl
    | cons entry rest inductionHypothesis =>
      cases rest with
      | nil => simp [compactMembers, joinWith, writtenMember, written]
      | cons next others =>
        rw [compactMembers]
        · simp only [String.toList_append, inductionHypothesis, List.map_cons]
          rw [joinWith_cons (List.cons_ne_nil _ _)]
          simp [writtenMember, written]
        · simp
  simp only [written, compact, String.toList_append, inner]
  rfl

/-! ## Values -/

/-- What a value is. -/
inductive Kind
  | null
  | bool
  | number
  | text
  | list
  | object

def kind : Json → Kind
  | .null => .null
  | .bool _ => .bool
  | .number _ => .number
  | .text _ => .text
  | .list _ => .list
  | .object _ => .object
  | .unusable => .null

/-- What a value is that is written with a given character first. -/
def kindOfFirst? (c : Char) : Option Kind :=
  if c = 'n' then some .null
  else if c = 't' ∨ c = 'f' then some .bool
  else if c = '"' then some .text
  else if c = '[' then some .list
  else if c = '\x7b' then some .object
  else if c = '-' ∨ c.isDigit then some .number
  else none

/-- The first character tells what a value is. -/
theorem exists_first (value : Json) :
    ∃ c others, value.written = c :: others ∧ kindOfFirst? c = some value.kind := by
  cases value with
  | null | unusable => exact ⟨'n', "ull".toList, rfl, rfl⟩
  | bool value => cases value <;> exact ⟨_, _, rfl, rfl⟩
  | text value => exact ⟨'"', _, toList_escaped value, rfl⟩
  | list items => exact ⟨'[', _, written_list items, rfl⟩
  | object members => exact ⟨'\x7b', _, written_object members, rfl⟩
  | number value =>
    cases value with
    | negSucc n => exact ⟨'-', _, toList_negSucc n, rfl⟩
    | ofNat n =>
      obtain ⟨c, others, digits, isDigit⟩ := exists_first_digit n
      have different {d : Char} (notDigit : d.isDigit = false) : c ≠ d := by
        rintro rfl
        exact Bool.false_ne_true (notDigit.symm.trans isDigit)
      refine ⟨c, others, (toList_ofNat n).trans digits, ?_⟩
      rw [kindOfFirst?, if_neg (different rfl), if_neg (not_or.mpr ⟨different rfl, different rfl⟩),
        if_neg (different rfl), if_neg (different rfl), if_neg (different rfl), if_pos (.inr isDigit)]
      rfl

theorem kind_eq_of_written {value other : Json} {rest rest' : List Char}
    (same : value.written ++ rest = other.written ++ rest') : value.kind = other.kind := by
  obtain ⟨c, others, written_eq, first⟩ := value.exists_first
  obtain ⟨c', others', written_eq', first'⟩ := other.exists_first
  rw [written_eq, written_eq'] at same
  rw [(List.cons.inj same).1, first'] at first
  exact (Option.some.inj first).symm

/-- A value starts with no bracket that ends a list or an object. -/
theorem exists_first_ne (value : Json) {stop : Char} (stops : kindOfFirst? stop = none) :
    ∃ c others, value.written = c :: others ∧ c ≠ stop := by
  obtain ⟨c, others, written_eq, first⟩ := value.exists_first
  refine ⟨c, others, written_eq, ?_⟩
  rintro rfl
  cases stops.symm.trans first

theorem delimited_member {entry : String × Json} (delimited : Delimited written Usable entry.2) :
    Delimited writtenMember (fun entry => Usable entry.2) entry := by
  intro entry' rest rest' usable' ends ends' same
  simp only [writtenMember, List.append_assoc, List.cons_append] at same
  obtain ⟨names, values⟩ := escaped_append_inj same
  obtain ⟨sameValue, rest_eq⟩ := delimited entry'.2 rest rest' usable' ends ends' (List.cons.inj values).2
  exact ⟨Prod.ext names sameValue, rest_eq⟩

/-- The compact form of a value tells the value and where it ends. -/
theorem delimited_written {value : Json} (usable : Usable value) : Delimited written Usable value := by
  induction value using induction_parts with
  | unusable => cases usable
  | null =>
    intro other rest rest' usable' ends ends' same
    have sameKind := kind_eq_of_written same
    cases other <;> cases sameKind
    · exact ⟨rfl, List.append_cancel_left same⟩
    · cases usable'
  | bool value =>
    intro other rest rest' usable' ends ends' same
    have sameKind := kind_eq_of_written same
    cases other <;> cases sameKind
    rename_i value'
    cases value <;> cases value'
    · exact ⟨rfl, List.append_cancel_left same⟩
    · cases (List.cons.inj same).1
    · cases (List.cons.inj same).1
    · exact ⟨rfl, List.append_cancel_left same⟩
  | number value =>
    intro other rest rest' usable' ends ends' same
    have sameKind := kind_eq_of_written same
    cases other <;> cases sameKind
    obtain ⟨rfl, rest_eq⟩ := number_append_inj ends ends' same
    exact ⟨rfl, rest_eq⟩
  | text value =>
    intro other rest rest' usable' ends ends' same
    have sameKind := kind_eq_of_written same
    cases other <;> cases sameKind
    obtain ⟨rfl, rest_eq⟩ := escaped_append_inj same
    exact ⟨rfl, rest_eq⟩
  | list items each =>
    intro other rest rest' usable' ends ends' same
    have sameKind := kind_eq_of_written same
    cases other <;> cases sameKind
    cases usable with
    | list usable =>
    cases usable' with
    | list usable' =>
    simp only [written_list, List.cons_append, List.append_assoc, List.nil_append] at same
    obtain ⟨rfl, rest_eq⟩ := joinWith_append_inj (by decide) rfl
      (fun item _ => item.exists_first_ne rfl) (fun item member => each item member (usable item member))
      usable usable' (List.cons.inj same).2
    exact ⟨rfl, rest_eq⟩
  | object members each =>
    intro other rest rest' usable' ends ends' same
    have sameKind := kind_eq_of_written same
    cases other <;> cases sameKind
    cases usable with
    | object usable =>
    cases usable' with
    | object usable' =>
    simp only [written_object, List.cons_append, List.append_assoc, List.nil_append] at same
    obtain ⟨rfl, rest_eq⟩ := joinWith_append_inj (by decide) rfl
      (fun entry _ => ⟨'"', _, by rw [writtenMember, toList_escaped]; rfl, by decide⟩)
      (fun entry member => delimited_member (each entry member (usable entry member)))
      usable usable' (List.cons.inj same).2
    exact ⟨rfl, rest_eq⟩

/-- No two values are written alike. -/
theorem compact_inj {value other : Json} (usable : Usable value) (usable' : Usable other) :
    value.compact = other.compact ↔ value = other := by
  refine ⟨fun same => ?_, fun same => by rw [same]⟩
  have ends : EndsNumber [] := nofun
  exact (delimited_written usable other [] [] usable' ends ends (by rw [written, same, written])).1

end PluginAudit.Text.Json
