import TableAccess.Proofs.StoredValues

/-!
# Integers as parameters

An integer for a column of integers may be given as it is or as a `Text.IsNumeral`, with any sign
and leading zeros. It is sent in two's complement if the width of the column holds it and refused
otherwise; neither way of giving it ever wraps, and the cell is read as the integer again.
-/

namespace TableAccess

/-- Digits, at least one, behind an optional sign, with the integer that they say. -/
inductive Text.IsNumeral : List Char → Int → Prop
  | unsigned {digits : List Char} (hne : digits ≠ [])
      (hdigits : ∀ c ∈ digits, c.isDigit = true) :
      IsNumeral digits (Nat.ofDigitChars 10 digits 0)
  | plus {digits : List Char} (hne : digits ≠ []) (hdigits : ∀ c ∈ digits, c.isDigit = true) :
      IsNumeral ('+' :: digits) (Nat.ofDigitChars 10 digits 0)
  | minus {digits : List Char} (hne : digits ≠ []) (hdigits : ∀ c ∈ digits, c.isDigit = true) :
      IsNumeral ('-' :: digits) (-(Nat.ofDigitChars 10 digits 0 : Nat))

namespace IntegerWidth

variable {w : IntegerWidth} {n : Int} {cs : List Char}

/-- The type of the columns whose integers have the width. -/
def columnType : IntegerWidth → ColumnType
  | two => .int2
  | four => .int4
  | eight => .int8

def signed (negative : Bool) (m : Nat) : Int :=
  if negative then -m else m

lemma le_ofDigitChars (m : Nat) (cs : List Char) : m ≤ Nat.ofDigitChars 10 cs m := by
  have hpow : 0 < 10 ^ cs.length := Nat.pow_pos (by decide)
  rw [Nat.ofDigitChars_eq_ofDigitChars_zero]
  calc m ≤ 10 ^ cs.length * m := Nat.le_mul_of_pos_left m hpow
    _ ≤ 10 ^ cs.length * m + Nat.ofDigitChars 10 cs 0 := Nat.le_add_right _ _

/-- What is out of range only gets further out by more digits. -/
lemma check_signed_of_le {negative : Bool} {m k : Nat} (hm : ¬ w.Holds (signed negative m))
    (hk : m ≤ k) : w.check (signed negative k) = w.check (signed negative m) := by
  have hhalf := w.half_pos
  have hfurther : ¬ w.Holds (signed negative k) ∧
      fault (signed negative k) = fault (signed negative m) := by
    unfold Holds signed fault at *
    cases negative with
    | false =>
      simp only [Bool.false_eq_true, if_false] at hm ⊢
      exact ⟨by omega, by rw [if_neg (by omega), if_neg (by omega)]⟩
    | true =>
      simp only [if_true] at hm ⊢
      exact ⟨by omega, by rw [if_pos (by omega), if_pos (by omega)]⟩
  rw [check_eq_error hfurther.1, check_eq_error hm, hfurther.2]

lemma readDigits_eq {negative : Bool} {m : Nat} (hm : w.Holds (signed negative m))
    (hcs : ∀ c ∈ cs, c.isDigit = true) :
    w.readDigits negative (signed negative m) cs =
      w.check (signed negative (Nat.ofDigitChars 10 cs m)) := by
  induction cs generalizing m with
  | nil => rw [readDigits, Nat.ofDigitChars_nil, check_eq_ok hm.1 hm.2]
  | cons c cs ih =>
    have hc : c.isDigit = true := hcs c (by simp)
    have hrest : ∀ c ∈ cs, c.isDigit = true := fun c h => hcs c (by simp [h])
    have hnext : 10 * signed negative m +
        (if negative then -(Text.digitValue c : Int) else Text.digitValue c) =
          signed negative (10 * m + Text.digitValue c) := by
      cases negative with
      | false => simp [signed]
      | true => simp [signed]; ring
    have hvalue : Nat.ofDigitChars 10 (c :: cs) m =
        Nat.ofDigitChars 10 cs (10 * m + Text.digitValue c) := rfl
    rw [readDigits, if_pos hc, hvalue]
    simp only [hnext]
    by_cases hfits : w.Holds (signed negative (10 * m + Text.digitValue c))
    · rw [check_eq_ok hfits.1 hfits.2]
      exact ih hfits hrest
    · rw [check_signed_of_le hfits (le_ofDigitChars _ cs), check_eq_error hfits]
      rfl

lemma readSigned_eq (negative : Bool) (hne : cs ≠ []) (hcs : ∀ c ∈ cs, c.isDigit = true) :
    w.readSigned negative cs = w.check (signed negative (Nat.ofDigitChars 10 cs 0)) := by
  have hhalf := w.half_pos
  have hzero : signed negative 0 = 0 := by cases negative <;> rfl
  have hstart : w.Holds (signed negative 0) := by
    unfold Holds
    omega
  have hread := readDigits_eq hstart hcs
  rw [hzero] at hread
  rw [readSigned, if_neg (by simpa using hne), hread]

/-- A numeral is the integer that it says, if the width holds it. -/
theorem parse_numeral (h : Text.IsNumeral cs n) : w.parse cs = w.check n := by
  cases h with
  | plus hne hdigits => exact readSigned_eq false hne hdigits
  | minus hne hdigits => exact readSigned_eq true hne hdigits
  | unsigned hne hdigits =>
    have hsigned := readSigned_eq (w := w) false hne hdigits
    cases cs with
    | nil => exact absurd rfl hne
    | cons c cs =>
      -- A digit is no sign, so that the text is read from its first character on.
      have hc : c.isDigit = true := hdigits c (by simp)
      have hplus : c ≠ '+' := Text.ne_of_isDigit hc (by decide)
      have hminus : c ≠ '-' := Text.ne_of_isDigit hc (by decide)
      have hparse : w.parse (c :: cs) = w.readSigned false (c :: cs) := by
        simp [parse, hplus, hminus]
      rw [hparse, hsigned]
      rfl

end IntegerWidth

namespace Value

open IntegerWidth

variable {w : IntegerWidth} {n : Int}

lemma bytes_of_check (error : IntegerFault → BindError) (w : IntegerWidth) (n : Int) :
    (((w.check n).map w.bytes).mapError error).map some =
      if w.Holds n then .ok (some (w.twosComplement n)) else .error (error (fault n)) := by
  rw [check_eq, ← bytes_eq_twosComplement]
  split_ifs <;> rfl

lemma encode_int (w : IntegerWidth) (n : Int64) :
    encode (int n) w.columnType =
      if w.Holds n.toInt then .ok (some (w.twosComplement n.toInt))
      else .error (.integerRange (fault n.toInt)) := by
  rw [← bytes_of_check]
  cases w <;> rfl

lemma encode_numeral {s : String} (h : Text.IsNumeral (Text.trim s.toList) n) (w : IntegerWidth) :
    encode (text s) w.columnType =
      if w.Holds n then .ok (some (w.twosComplement n))
      else .error (.integerText (fault n)) := by
  rw [← bytes_of_check, ← parse_numeral h]
  cases w <;> rfl

lemma ofBytes?_columnType {raw : List UInt8} (w : IntegerWidth) :
    ofBytes? w.columnType raw = (integerCell? w raw).map ofInt := by
  cases w <;> rfl

lemma ofCell_twosComplement {n : Int64} (h : w.Holds n.toInt) (index : Nat) (name : String) :
    ofCell index ⟨name, w.columnType⟩ (some (w.twosComplement n.toInt)) = .ok (int n) := by
  have hread : ofBytes? w.columnType (w.twosComplement n.toInt) = some (int n) := by
    rw [ofBytes?_columnType, ← bytes_eq_twosComplement, integerCell?, if_pos (length_bytes w _),
      ofBytes_bytes h, Option.map_some, ofInt, Int64.ofInt_toInt]
  exact ofCell_some hread index name

/-- An integer of 64 bits goes into a column exactly if the width of the column holds it, in the
bytes of its two's complement, which are read as the same integer. A text that says an integer of
any size goes in just as that integer would. -/
theorem encode_integers_exactly (w : IntegerWidth) :
    (∀ n : Int64, encode (int n) w.columnType =
      if w.Holds n.toInt then .ok (some (w.twosComplement n.toInt))
      else .error (.integerRange (fault n.toInt))) ∧
    (∀ n : Int64, w.Holds n.toInt → ∀ index name,
      ofCell index ⟨name, w.columnType⟩ (some (w.twosComplement n.toInt)) = .ok (int n)) ∧
    (∀ s n, Text.IsNumeral (Text.trim s.toList) n →
      encode (text s) w.columnType =
        if w.Holds n then .ok (some (w.twosComplement n))
        else .error (.integerText (fault n))) ∧
    (∀ s n, Text.IsNumeral (Text.trim s.toList) n → ¬ IntegerWidth.eight.Holds n →
      encode (text s) w.columnType = .error (.integerText (fault n))) := by
  refine ⟨encode_int w, fun n => ofCell_twosComplement, fun s n h => encode_numeral h w, ?_⟩
  intro s n h hwide
  have hw : ¬ w.Holds n := fun hw => hwide hw.eight
  rw [encode_numeral h, if_neg hw]

/-- The least integer of two bytes, and the least of those that no column holds. -/
theorem encode_integers_exactly_atBounds :
    IntegerWidth.two.Holds (-32768) ∧ Text.IsNumeral (Text.trim " -032768\n".toList) (-32768) ∧
      encode (int (-32768)) .int2 = .ok (some [128, 0]) ∧
      ofCell 0 ⟨"balance", .int2⟩ (some [128, 0]) = .ok (int (-32768)) ∧
      encode (text " -032768\n") .int2 = .ok (some [128, 0]) ∧
      Text.IsNumeral (Text.trim "+9223372036854775808".toList) 9223372036854775808 ∧
      ¬ IntegerWidth.eight.Holds 9223372036854775808 ∧
      encode (text "+9223372036854775808") .int2 = .error (.integerText .tooLarge) := by
  obtain ⟨hint, hcell, htext, hwide⟩ := encode_integers_exactly .two
  have hfits : IntegerWidth.two.Holds (-32768) := by decide
  have hleast : Text.IsNumeral (Text.trim " -032768\n".toList) (-32768) :=
    @Text.IsNumeral.minus "032768".toList (by decide) (List.all_eq_true.mp (by decide))
  have hlarge : Text.IsNumeral (Text.trim "+9223372036854775808".toList) 9223372036854775808 :=
    @Text.IsNumeral.plus "9223372036854775808".toList (by decide) (List.all_eq_true.mp (by decide))
  have hnone : ¬ IntegerWidth.eight.Holds 9223372036854775808 := by decide
  exact ⟨hfits, hleast, hint (-32768), hcell (-32768) hfits 0 "balance", htext _ _ hleast, hlarge,
    hnone, hwide _ _ hlarge hnone⟩

end Value
end TableAccess
