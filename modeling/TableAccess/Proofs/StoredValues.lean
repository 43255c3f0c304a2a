import TableAccess.Column.Cell
import TableAccess.Column.Parameter
import TableAccess.Proofs.BinaryIntegers
import TableAccess.Proofs.Blanks

/-!
# Values that go back into their column

A cell is read by the type of its column, and a value is written by the type of its parameter. For
the types without a fraction, a calendar or JSON the two agree: what was read from a column can be
sent to it again, and has the bytes of the cell. Object identifiers are the exception. They are
read as integers, which are not sent as object identifiers.
-/

namespace TableAccess

namespace ColumnType

def scalarTypes : List ColumnType :=
  [bool, int2, int4, int8, oid, text, varchar, bpchar, name, unknown, uuid, bytea]

/-- The bytes in which the server sends a value of a scalar type. -/
def IsCanonical (raw : List UInt8) : ColumnType → Prop
  | bool => raw = [0] ∨ raw = [1]
  | int2 => raw.length = 2
  | int4 | oid => raw.length = 4
  | int8 => raw.length = 8
  | text | varchar | bpchar | name | unknown => ByteArray.IsValidUTF8 ⟨raw.toArray⟩
  | uuid => raw.length = 16
  | bytea => True
  | _ => False

end ColumnType

namespace Value

variable {raw : List UInt8}

/-- The value of a cell is written as that cell. -/
def Restores (type : ColumnType) (raw : List UInt8) : Prop :=
  ∃ v, ofBytes? type raw = some v ∧ v.encode type = .ok (some raw)

lemma restores_bool (h : raw = [0] ∨ raw = [1]) : Restores .bool raw := by
  rcases h with rfl | rfl
  · exact ⟨.bool false, rfl, rfl⟩
  · exact ⟨.bool true, rfl, rfl⟩

lemma toInt_ofBytes {w : IntegerWidth} (h : raw.length = w.size) :
    (Int64.ofInt (w.ofBytes raw)).toInt = w.ofBytes raw := by
  obtain ⟨hlow, hhigh⟩ := IntegerWidth.ofBytes_mem_range h
  have hhalf : w.half ≤ 2 ^ 63 := by cases w <;> decide
  exact Int64.toInt_ofInt_of_le (by omega) (by omega)

/-- An integer has the width of its cell. -/
lemma encodeWidth_ofBytes {w : IntegerWidth} (h : raw.length = w.size) :
    encodeWidth w (Int64.ofInt (w.ofBytes raw)).toInt = .ok raw := by
  obtain ⟨hlow, hhigh⟩ := IntegerWidth.ofBytes_mem_range h
  rw [encodeWidth, toInt_ofBytes h, IntegerWidth.check_eq_ok hlow hhigh]
  simp only [Except.map, Except.mapError, IntegerWidth.bytes_ofBytes h]

lemma restores_integer {type : ColumnType} {w : IntegerWidth}
    (hread : ofBytes? type raw = (integerCell? w raw).map ofInt)
    (hwrite : ∀ n, encodeInt n type = encodeWidth w n) (h : raw.length = w.size) :
    Restores type raw := by
  refine ⟨ofInt (w.ofBytes raw), ?_, ?_⟩
  · rw [hread, integerCell?, if_pos h]
    rfl
  · rw [ofInt, encode, hwrite, encodeWidth_ofBytes h]
    rfl

lemma ofBytes?_text {type : ColumnType} (htype : type.isText = true) :
    ofBytes? type raw = (ofUtf8? raw).map .text := by
  cases type with
  | text | varchar | bpchar | name | unknown => rfl
  | _ => cases htype

lemma encodeText_text {type : ColumnType} (htype : type.isText = true) (s : String) :
    encodeText s type = .ok (utf8 s) := by
  cases type with
  | text | varchar | bpchar | name | unknown => rfl
  | _ => cases htype

/-- Blanks around a text count only where it is sent as it is. -/
lemma encode_text_around {front back : String} (hfront : Text.IsGap front.toList)
    (hback : Text.IsGap back.toList) {type : ColumnType} (htype : type.isText = false) (s : String) :
    (text (front ++ s ++ back)).encode type = (text s).encode type := by
  have htrim : Text.trim (front ++ s ++ back).toList = Text.trim s.toList := by
    rw [String.toList_append, String.toList_append, Text.trim_around hfront hback]
  cases type with
  | text | varchar | bpchar | name | unknown => cases htype
  | _ => simp only [encode, encodeText, htrim, htype, Bool.false_eq_true, if_false]

lemma restores_text {type : ColumnType} (htype : type.isText = true)
    (h : ByteArray.IsValidUTF8 ⟨raw.toArray⟩) : Restores type raw := by
  refine ⟨.text (String.fromUTF8 ⟨raw.toArray⟩ h), ?_, ?_⟩
  · rw [ofBytes?_text htype, ofUtf8?, String.fromUTF8?, dif_pos h]
    rfl
  · rw [encode, encodeText_text htype]
    rfl

lemma restores_uuid (h : raw.length = 16) : Restores .uuid raw := by
  refine ⟨.uuid ⟨raw, h⟩, ?_, rfl⟩
  rw [ofBytes?, Uuid.of?, dif_pos h]
  rfl

lemma restores_bytes (raw : List UInt8) : Restores .bytea raw :=
  ⟨.bytes raw, rfl, rfl⟩

/-- A scalar is restored from its cell unless it is an object identifier. -/
theorem restores_of_isCanonical {type : ColumnType} (h : type.IsCanonical raw)
    (hoid : type ≠ .oid) : Restores type raw := by
  cases type with
  | bool => exact restores_bool h
  | int2 | int4 | int8 => exact restores_integer rfl (fun _ => rfl) h
  | oid => exact absurd rfl hoid
  | text | varchar | bpchar | name | unknown => exact restores_text rfl h
  | uuid => exact restores_uuid h
  | bytea => exact restores_bytes raw
  | _ => exact h.elim

/-- An object identifier is read as an integer, which no parameter of its type takes. -/
lemma encode_oid (h : raw.length = 4) :
    ∃ v, ofBytes? .oid raw = some v ∧ v.encode .oid = .error .wrongType := by
  refine ⟨ofInt (ofBigEndian raw), ?_, rfl⟩
  rw [ofBytes?, naturalCell?, if_pos h]
  rfl

lemma ofCell_some {type : ColumnType} {v : Value} (h : ofBytes? type raw = some v) (index : Nat)
    (name : String) : ofCell index ⟨name, type⟩ (some raw) = .ok v := by
  cases type with
  | other _ => cases h
  | _ => simp only [ofCell, h]

lemma ofCell_none {type : ColumnType} (h : type ∈ ColumnType.scalarTypes) (index : Nat)
    (name : String) : ofCell index ⟨name, type⟩ none = .ok .null := by
  cases type with
  | other _ => simp [ColumnType.scalarTypes] at h
  | _ => rfl

/-- Every cell of a scalar type is read. What was read is written as the cell that it came from,
NULL as NULL, but an object identifier is refused. -/
theorem encode_ofCell {type : ColumnType} (htype : type ∈ ColumnType.scalarTypes) {cell : Cell}
    (hcell : ∀ raw ∈ cell, type.IsCanonical raw) (index : Nat) (name : String) :
    ∃ v, ofCell index ⟨name, type⟩ cell = .ok v ∧
      v.encode type = if type = .oid ∧ cell ≠ none then .error .wrongType else .ok cell := by
  cases cell with
  | none =>
    exact ⟨.null, ofCell_none htype index name, by simp [encode]⟩
  | some raw =>
    have hraw := hcell raw rfl
    by_cases hoid : type = .oid
    · subst hoid
      obtain ⟨v, hread, hwrite⟩ := encode_oid hraw
      exact ⟨v, ofCell_some hread index name, by simp [hwrite]⟩
    · obtain ⟨v, hread, hwrite⟩ := restores_of_isCanonical hraw hoid
      exact ⟨v, ofCell_some hread index name, by simp [hwrite, hoid]⟩

theorem encode_ofCell_smallest :
    ColumnType.int2 ∈ ColumnType.scalarTypes ∧ ColumnType.int2.IsCanonical [128, 0] ∧
      ∃ v, ofCell 0 ⟨"balance", .int2⟩ (some [128, 0]) = .ok v ∧
        v.encode .int2 = .ok (some [128, 0]) := by
  have htype : ColumnType.int2 ∈ ColumnType.scalarTypes := by decide
  have hraw : ColumnType.int2.IsCanonical [128, 0] := rfl
  have hcell : ∀ raw ∈ (some [128, 0] : Cell), ColumnType.int2.IsCanonical raw := by
    intro raw hcell
    rw [← Option.some.inj hcell]
    exact hraw
  obtain ⟨v, hread, hwrite⟩ := encode_ofCell htype hcell 0 "balance"
  exact ⟨htype, hraw, v, hread, by simpa using hwrite⟩

/-- The identifier of a table cannot be sent back to the column in which it was found. -/
theorem encode_ofCell_oid :
    let cell : Cell := some [0, 0, 4, 235]
    ColumnType.oid ∈ ColumnType.scalarTypes ∧ (∀ raw ∈ cell, ColumnType.oid.IsCanonical raw) ∧
      ofCell 0 ⟨"relid", .oid⟩ cell = .ok (.int 1259) ∧
      (int 1259).encode .oid = .error .wrongType ∧ (int 1259).encode .oid ≠ .ok cell := by
  intro cell
  have hcell : ∀ raw ∈ cell, ColumnType.oid.IsCanonical raw := by
    intro raw hraw
    rw [← Option.some.inj hraw]
    rfl
  have hencode : (int 1259).encode .oid = .error .wrongType := rfl
  refine ⟨by decide, hcell, rfl, hencode, ?_⟩
  rw [hencode]
  simp

end Value
end TableAccess
