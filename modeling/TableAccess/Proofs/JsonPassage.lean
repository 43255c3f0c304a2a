import Mathlib.Algebra.Ring.Int.Defs
import TableAccess.Proofs.JsonDocuments

/-!
# Values that pass JSON on

A value that is read from JSON is written as the same JSON: scalars come back from their own kinds
of values, arrays and objects are kept as they are. Only an integer beyond 64 bits with a sign
cannot be read, and only where it stands alone, since inside an array or an object nothing turns
it into a value.
-/

namespace TableAccess

namespace Json

mutual

/-- The integers in the value have 64 bits, with a sign or without, and its floats are finite. -/
def hasMachineNumbers : Json → Bool
  | int n => decide (-2 ^ 63 ≤ n) && decide (n < 2 ^ 64)
  | float x => x.isFinite
  | array items => itemsHaveMachineNumbers items
  | object members => membersHaveMachineNumbers members
  | _ => true

def itemsHaveMachineNumbers : List Json → Bool
  | [] => true
  | j :: js => hasMachineNumbers j && itemsHaveMachineNumbers js

def membersHaveMachineNumbers : List (String × Json) → Bool
  | [] => true
  | (_, j) :: js => hasMachineNumbers j && membersHaveMachineNumbers js

end

end Json

namespace Value

variable {j : Json}

lemma ofJson_array {items : List Json} (h : (Json.array items).hasDistinctKeys = true) :
    ofJson (.array items) = .ok (json (.array items)) :=
  ofDocument_toJson (v := json (.array items)) h

lemma ofJson_object {members : List (String × Json)}
    (h : (Json.object members).hasDistinctKeys = true) :
    ofJson (.object members) = .ok (json (.object members)) :=
  ofDocument_toJson (v := json (.object members)) h

/-- What a document is read as depends on the JSON it stands for alone. -/
theorem ofDocument_eq_ofJson {d : Document} (h : d.toJson? = some j) :
    ofDocument d = ofJson j := by
  have hkeys := Document.hasDistinctKeys_of_toJson? d h
  cases d with
  | array items closed =>
    have hread : ofDocument (.array items closed) = .ok (json j) := by simp [ofDocument, h]
    cases closed with
    | false => simp [Document.toJson?] at h
    | true =>
      simp only [Document.toJson?, if_true, Option.map_eq_some_iff] at h
      obtain ⟨values, -, rfl⟩ := h
      rw [hread, ofJson_array hkeys]
  | object members closed =>
    have hread : ofDocument (.object members closed) = .ok (json j) := by simp [ofDocument, h]
    cases closed with
    | false => simp [Document.toJson?] at h
    | true =>
      simp only [Document.toJson?, if_true, Option.map_eq_some_iff] at h
      obtain ⟨pairs, -, rfl⟩ := h
      rw [hread, ofJson_object hkeys]
  | refused | broken => simp [Document.toJson?] at h
  | _ =>
    cases h
    rfl

/-- Text that holds JSON is read as this JSON is. -/
theorem parse_eq_ofJson {s : String} (h : Json.parse? s = some j) :
    parse s.toList = ofJson j := by
  unfold Json.parse? at h
  unfold parse Decoding.alone
  split at h
  · rename_i d hparse
    rw [hparse, ofDocument_eq_ofJson h]
    cases ofJson j <;> rfl
  · cases h

lemma ofJson_of_large {n : Int} (h : 2 ^ 63 ≤ n) :
    ofJson (.int n) = .error (.integerTooLarge n) := by
  have hn : ¬ n < 9223372036854775808 := by omega
  simp [ofJson, Document.ofJson, ofDocument, hn]

lemma exists_ofJson (hkeys : j.hasDistinctKeys = true) (hnumbers : j.hasMachineNumbers = true)
    (hsmall : ∀ n, j = .int n → n < 2 ^ 63) : ∃ v, ofJson j = .ok v ∧ v.toJson = j := by
  cases j with
  | int n =>
    simp only [Json.hasMachineNumbers, Bool.and_eq_true, decide_eq_true_iff] at hnumbers
    have hn : n < 9223372036854775808 := hsmall n rfl
    refine ⟨int (Int64.ofInt n), ?_, ?_⟩
    · simp [ofJson, Document.ofJson, ofDocument, hn]
    · rw [toJson, Int64.toInt_ofInt_of_le hnumbers.1 hn]
  | array items => exact ⟨_, ofJson_array hkeys, rfl⟩
  | object members => exact ⟨_, ofJson_object hkeys, rfl⟩
  | _ => exact ⟨_, rfl, rfl⟩

/-- JSON without repeated keys is refused only as an integer beyond 64 bits with a sign; any other
is read as a value that is written as the same JSON, and a plain value is read back from what is
written. All of it holds for every text of the JSON. -/
theorem json_passes_unchanged :
    (∀ j : Json, j.hasDistinctKeys = true → j.hasMachineNumbers = true →
      (∀ e, ofJson j = .error e ↔ ∃ n, j = .int n ∧ 2 ^ 63 ≤ n ∧ e = .integerTooLarge n) ∧
      (∀ v, ofJson j = .ok v → v.toJson = j) ∧
      ∀ s, Json.parse? s = some j → parse s.toList = ofJson j) ∧
    ∀ v : Value, v.isPlain = true →
      ofJson v.toJson = .ok v ∧ ∀ s, Json.parse? s = some v.toJson → parse s.toList = .ok v := by
  constructor
  · intro j hkeys hnumbers
    by_cases hlarge : ∃ n, j = .int n ∧ 2 ^ 63 ≤ n
    · obtain ⟨n, rfl, hn⟩ := hlarge
      rw [ofJson_of_large hn]
      refine ⟨fun e => ⟨fun he => ?_, ?_⟩, fun v hv => ?_, fun s hs => ?_⟩
      · cases he
        exact ⟨n, rfl, hn, rfl⟩
      · rintro ⟨m, hm, -, rfl⟩
        cases hm
        rfl
      · cases hv
      · rw [parse_eq_ofJson hs, ofJson_of_large hn]
    · have hsmall : ∀ n, j = .int n → n < 2 ^ 63 := fun n hj =>
        Int.not_le.mp fun hn => hlarge ⟨n, hj, hn⟩
      obtain ⟨w, hread, hwritten⟩ := exists_ofJson hkeys hnumbers hsmall
      rw [hread]
      refine ⟨fun e => ⟨fun he => ?_, ?_⟩, fun v hv => ?_, fun s hs => ?_⟩
      · cases he
      · rintro ⟨n, hj, hn, -⟩
        exact absurd ⟨n, hj, hn⟩ hlarge
      · cases hv
        exact hwritten
      · rw [parse_eq_ofJson hs, hread]
  · intro v hplain
    have hread : ofJson v.toJson = .ok v := ofDocument_toJson hplain
    refine ⟨hread, fun s hs => ?_⟩
    rw [parse_eq_ofJson hs, hread]

/-- Keys out of order, a float beside the integer it equals and an integer that is no value. -/
def mixed : Json :=
  .object [("z", .array [.int 18446744073709551615, .float (.ofInt 1), .int 1]),
    ("a", .object [("z", .null)])]

theorem json_passes_unchanged_mixed :
    mixed.hasDistinctKeys = true ∧ mixed.hasMachineNumbers = true ∧
      (json mixed).isPlain = true ∧ ofJson mixed = .ok (json mixed) ∧
      (∀ e, ofJson mixed ≠ .error e) ∧
      Json.parse? " 18446744073709551615" = some (.int 18446744073709551615) ∧
      parse " 18446744073709551615".toList = .error (.integerTooLarge 18446744073709551615) := by
  obtain ⟨hread, hwritten⟩ := json_passes_unchanged
  have hkeys : mixed.hasDistinctKeys = true := by decide
  have hnumbers : mixed.hasMachineNumbers = true := by decide
  have hplain : (json mixed).isPlain = true := hkeys
  have hfails := (hread mixed hkeys hnumbers).1
  have hdocument : Document.parse " 18446744073709551615".toList =
      (.int 18446744073709551615, true) :=
    Document.parse_eq_of_same (by decide +kernel) (by decide +kernel)
  have htext : Json.parse? " 18446744073709551615" = some (.int 18446744073709551615) := by
    rw [Json.parse?, hdocument]
    rfl
  obtain ⟨hlarge, -, hparse⟩ := hread (.int 18446744073709551615) (by decide) (by decide)
  refine ⟨hkeys, hnumbers, hplain, (hwritten _ hplain).1, fun e he => ?_, htext, ?_⟩
  · obtain ⟨n, hn, -⟩ := (hfails e).mp he
    cases hn
  · rw [hparse _ htext]
    exact (hlarge _).mpr ⟨_, rfl, by decide, rfl⟩

end Value
end TableAccess
