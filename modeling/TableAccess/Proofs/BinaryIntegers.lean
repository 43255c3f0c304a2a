import Mathlib.Tactic.Lemma
import Mathlib.Tactic.Ring
import Mathlib.Tactic.SplitIfs
import TableAccess.Number.IntegerText

/-!
# Integers and their bytes

Bytes are read as the number whose big-endian bytes they are, and as the integer of which they are
the two's complement. Writing it gives the bytes again, and an integer that has been written is read
back if the width holds it. `twosComplement` takes the bytes from the bits of the integer.
-/

namespace TableAccess

lemma bigEndian_succ (count n : Nat) :
    bigEndian (count + 1) n = UInt8.ofNat (n / 256 ^ count) :: bigEndian count n := by
  simp [bigEndian, List.range_succ]

/-- Only the lowest digits to the base 256 are written. -/
lemma bigEndian_mul_add (count q n : Nat) :
    bigEndian count (256 ^ count * q + n) = bigEndian count n := by
  have hbyte : ∀ i ∈ (List.range count).reverse,
      UInt8.ofNat ((256 ^ count * q + n) / Nat.pow 256 i) = UInt8.ofNat (n / Nat.pow 256 i) := by
    intro i hi
    obtain ⟨more, rfl⟩ : ∃ more, count = i + (more + 1) :=
      Nat.exists_eq_add_of_lt (by simpa using hi)
    have hsplit : 256 ^ (i + (more + 1)) * q + n = 256 ^ i * (256 * (256 ^ more * q)) + n := by
      rw [Nat.pow_add, Nat.pow_succ]
      ac_rfl
    rw [Nat.pow_eq, hsplit, Nat.mul_add_div (Nat.pow_pos (by decide))]
    apply UInt8.toNat_inj.mp
    simp
  exact List.map_congr_left hbyte

lemma foldl_bytes (n : Nat) (bs : List UInt8) :
    bs.foldl (fun n b => 256 * n + b.toNat) n = n * 256 ^ bs.length + ofBigEndian bs := by
  induction bs generalizing n with
  | nil => simp [ofBigEndian]
  | cons b bs ih =>
    rw [ofBigEndian, List.foldl_cons, List.foldl_cons, ih, ih (256 * 0 + b.toNat),
      List.length_cons, Nat.pow_succ]
    ring

lemma ofBigEndian_cons (b : UInt8) (bs : List UInt8) :
    ofBigEndian (b :: bs) = 256 ^ bs.length * b.toNat + ofBigEndian bs := by
  rw [ofBigEndian, List.foldl_cons, foldl_bytes, Nat.mul_zero, Nat.zero_add, Nat.mul_comm]

lemma ofBigEndian_lt (bs : List UInt8) : ofBigEndian bs < 256 ^ bs.length := by
  induction bs with
  | nil => simp [ofBigEndian]
  | cons b bs ih =>
    have hb : b.toNat < 256 := b.toNat_lt
    rw [ofBigEndian_cons, List.length_cons, Nat.pow_succ]
    calc 256 ^ bs.length * b.toNat + ofBigEndian bs
        < 256 ^ bs.length * b.toNat + 256 ^ bs.length := by omega
      _ = 256 ^ bs.length * (b.toNat + 1) := by ring
      _ ≤ 256 ^ bs.length * 256 := Nat.mul_le_mul_left _ hb

theorem bigEndian_ofBigEndian (bs : List UInt8) : bigEndian bs.length (ofBigEndian bs) = bs := by
  induction bs with
  | nil => rfl
  | cons b bs ih =>
    have hfirst : (256 ^ bs.length * b.toNat + ofBigEndian bs) / 256 ^ bs.length = b.toNat := by
      rw [Nat.mul_add_div (Nat.pow_pos (by decide)), Nat.div_eq_of_lt (ofBigEndian_lt bs),
        Nat.add_zero]
    rw [ofBigEndian_cons, List.length_cons, bigEndian_succ, hfirst, bigEndian_mul_add, ih,
      UInt8.ofNat_toNat]

lemma length_bigEndian (count n : Nat) : (bigEndian count n).length = count := by
  simp [bigEndian]

/-- As many bytes as are written hold the number modulo a power of 256. -/
theorem ofBigEndian_bigEndian (count n : Nat) :
    ofBigEndian (bigEndian count n) = n % 256 ^ count := by
  induction count with
  | zero => simp [bigEndian, ofBigEndian, Nat.mod_one]
  | succ count ih =>
    have hbyte : (UInt8.ofNat (n / 256 ^ count)).toNat = n / 256 ^ count % 256 := by simp
    rw [bigEndian_succ, ofBigEndian_cons, length_bigEndian, ih, hbyte, Nat.mod_pow_succ,
      Nat.add_comm]

namespace IntegerWidth

variable {w : IntegerWidth} {bs : List UInt8} {n : Int}

/-- The integer is one of the width. -/
def Holds (w : IntegerWidth) (n : Int) : Prop :=
  -w.half ≤ n ∧ n < w.half

instance (w : IntegerWidth) (n : Int) : Decidable (w.Holds n) :=
  inferInstanceAs (Decidable (_ ∧ _))

/-- On which side of the width an integer is that the width does not hold. -/
def fault (n : Int) : IntegerFault :=
  if n < 0 then .tooSmall else .tooLarge

/-- The bits of an integer in two's complement, eight to a byte and the highest first. -/
def twosComplement (w : IntegerWidth) (n : Int) : List UInt8 :=
  let bits := BitVec.ofInt (8 * w.size) n
  (List.range w.size).reverse.map fun i => .ofBitVec (bits.extractLsb' (8 * i) 8)

lemma two_mul_half (w : IntegerWidth) : 2 * w.half = 256 ^ w.size := by
  cases w <;> rfl

lemma half_pos (w : IntegerWidth) : 0 < w.half := by
  cases w <;> decide

lemma check_eq_ok {n : Int} (hlow : -w.half ≤ n) (hhigh : n < w.half) : w.check n = .ok n := by
  rw [check, if_neg (by omega), if_neg (by omega)]

lemma check_eq_error (h : ¬ w.Holds n) : w.check n = .error (fault n) := by
  unfold Holds at h
  unfold check fault
  by_cases hlow : n < -w.half
  · rw [if_pos hlow, if_pos (by omega)]
  · rw [if_neg hlow, if_pos (by omega), if_neg (by omega)]

lemma check_eq (w : IntegerWidth) (n : Int) :
    w.check n = if w.Holds n then .ok n else .error (fault n) := by
  by_cases h : w.Holds n
  · rw [if_pos h, check_eq_ok h.1 h.2]
  · rw [if_neg h, check_eq_error h]

lemma Holds.eight (h : w.Holds n) : IntegerWidth.eight.Holds n := by
  have hhalf : w.half ≤ IntegerWidth.eight.half := by cases w <;> decide
  unfold Holds at h ⊢
  omega

/-- The bytes of a width give an integer of that width. -/
lemma ofBytes_mem_range (h : bs.length = w.size) :
    -(w.half : Int) ≤ w.ofBytes bs ∧ w.ofBytes bs < w.half := by
  have hlt := ofBigEndian_lt bs
  rw [h, ← two_mul_half] at hlt
  simp only [ofBytes]
  split_ifs <;> omega

theorem bytes_ofBytes (h : bs.length = w.size) : w.bytes (w.ofBytes bs) = bs := by
  have hlt := ofBigEndian_lt bs
  rw [h, ← two_mul_half] at hlt
  have hmod : (w.ofBytes bs % (2 * w.half)).toNat = ofBigEndian bs := by
    simp only [ofBytes]
    split_ifs
    · rw [Int.emod_eq_of_lt (by omega) (by omega), Int.toNat_natCast]
    · rw [Int.sub_emod_right, Int.emod_eq_of_lt (by omega) (by omega), Int.toNat_natCast]
  rw [bytes, hmod, ← h, bigEndian_ofBigEndian]

theorem ofBytes_bytes (h : w.Holds n) : w.ofBytes (w.bytes n) = n := by
  obtain ⟨hlow, hhigh⟩ := h
  have hmod := Int.emod_lt_of_pos n (show (0 : Int) < 2 * w.half by omega)
  have hlt : (n % (2 * w.half)).toNat < 2 * w.half := by omega
  have hread : ofBigEndian (w.bytes n) = (n % (2 * w.half)).toNat := by
    rw [bytes, ofBigEndian_bigEndian, ← two_mul_half, Nat.mod_eq_of_lt hlt]
  simp only [ofBytes, hread]
  by_cases hn : 0 ≤ n
  · rw [Int.emod_eq_of_lt hn (by omega), if_pos (by omega)]
    omega
  · have hmod : n % (2 * w.half) = n + 2 * w.half := by
      rw [← Int.add_emod_right, Int.emod_eq_of_lt (by omega) (by omega)]
    rw [hmod, if_neg (by omega)]
    omega

lemma length_bytes (w : IntegerWidth) (n : Int) : (w.bytes n).length = w.size :=
  length_bigEndian _ _

theorem bytes_eq_twosComplement (w : IntegerWidth) (n : Int) : w.bytes n = w.twosComplement n := by
  unfold bytes bigEndian twosComplement
  apply List.map_congr_left
  intro i hi
  have hbits : (BitVec.ofInt (8 * w.size) n).toNat = (n % (2 * w.half)).toNat := by
    have hpow : (2 * w.half : Int) = (2 ^ (8 * w.size) : Nat) := by
      rw [Nat.pow_mul, ← two_mul_half]
      simp
    rw [BitVec.toNat_ofInt, hpow]
  apply UInt8.toNat_inj.mp
  simp [hbits, Nat.shiftRight_eq_div_pow, Nat.pow_mul]

end IntegerWidth
end TableAccess
