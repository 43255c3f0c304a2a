import TableAccess.Proofs.StoredValues

/-!
# UUIDs as text

The written form of an identifier is read as the identifier, so that it may be kept in a column of
text. Nothing that is read as an identifier has a blank at either end; a text that stands for an
identifier is therefore sent as this identifier, with blanks around it or without.
-/

namespace TableAccess

namespace Text.Hex

lemma digit?_digit {n : Nat} (h : n < 16) : digit? (digit n) = some n := by
  have hall : ∀ n < 16, digit? (digit n) = some n := by decide
  exact hall n h

lemma length_ofBytes (bytes : List UInt8) : (ofBytes bytes).length = 2 * bytes.length := by
  induction bytes with
  | nil => rfl
  | cons b bytes ih =>
    have hstep : ofBytes (b :: bytes) = ofByte b ++ ofBytes bytes := rfl
    rw [hstep, List.length_append, ih, ofByte, List.length_cons]
    simp only [List.length_cons, List.length_nil]
    omega

theorem toBytes?_ofBytes (bytes : List UInt8) : toBytes? (ofBytes bytes) = some bytes := by
  induction bytes with
  | nil => rfl
  | cons b bytes ih =>
    have hb : b.toNat < 256 := b.toNat_lt
    have hhigh := digit?_digit (show b.toNat / 16 < 16 by omega)
    have hlow := digit?_digit (show b.toNat % 16 < 16 by omega)
    have hbyte : UInt8.ofNat (16 * (b.toNat / 16) + b.toNat % 16) = b := by
      rw [show 16 * (b.toNat / 16) + b.toNat % 16 = b.toNat by omega, UInt8.ofNat_toNat]
    have hstep : ofBytes (b :: bytes) =
        digit (b.toNat / 16) :: digit (b.toNat % 16) :: ofBytes bytes := rfl
    rw [hstep, toBytes?, hhigh, hlow, ih]
    simp only [Option.bind_eq_bind, Option.bind_some, hbyte]
    rfl

lemma isBlank_of_digit? {c : Char} {n : Nat} (h : digit? c = some n) : isBlank c = false := by
  have hval : c.toNat = c.val.toNat := rfl
  have hbounds : 48 ≤ c.toNat ∧ c.toNat ≤ 102 := by
    unfold digit? at h
    simp only [Char.le_def, UInt32.le_iff_toNat_le] at h
    split_ifs at h with hdigit hlower hupper
    · simp at hdigit
      omega
    · simp at hlower
      omega
    · simp at hupper
      omega
  exact isBlank_of_toNat (by omega) (by omega)

lemma visible_of_toBytes? {cs : List Char} {bytes : List UInt8} (h : toBytes? cs = some bytes) :
    ∀ c ∈ cs, isBlank c = false := by
  fun_induction toBytes? cs generalizing bytes with
  | case1 => exact List.forall_mem_nil _
  | case2 => cases h
  | case3 a b cs ih =>
    simp only [Option.bind_eq_bind, Option.bind_eq_some_iff] at h
    obtain ⟨high, hhigh, low, hlow, rest, hrest, -⟩ := h
    exact List.forall_mem_cons.mpr ⟨isBlank_of_digit? hhigh,
      List.forall_mem_cons.mpr ⟨isBlank_of_digit? hlow, ih hrest⟩⟩

end Text.Hex

namespace Uuid

open Text

variable {sizes : List Nat} {cs digits : List Char} {u : Uuid}

lemma undashed?_dashed (hne : sizes ≠ []) (hlen : digits.length = sizes.sum) :
    undashed? sizes (dashed sizes digits) = some digits := by
  induction sizes generalizing digits with
  | nil => exact absurd rfl hne
  | cons n sizes ih =>
    cases sizes with
    | nil =>
      have hn : digits.length = n := by simpa using hlen
      rw [dashed, undashed?, if_pos hn]
    | cons m sizes =>
      rw [List.sum_cons] at hlen
      have hfirst : (digits.take n).length = n := by
        rw [List.length_take]
        omega
      have hbehind : (digits.drop n).length = (m :: sizes).sum := by
        rw [List.length_drop]
        omega
      have hrest := ih (List.cons_ne_nil m sizes) hbehind
      have hdrop : (dashed (n :: m :: sizes) digits).drop n =
          '-' :: dashed (m :: sizes) (digits.drop n) := List.drop_left' hfirst
      have htake : (dashed (n :: m :: sizes) digits).take n = digits.take n :=
        List.take_left' hfirst
      rw [undashed?, hdrop, htake]
      · simp [hrest]
      · simp

lemma length_dashed (hne : sizes ≠ []) (hlen : digits.length = sizes.sum) :
    (dashed sizes digits).length + 1 = digits.length + sizes.length := by
  induction sizes generalizing digits with
  | nil => exact absurd rfl hne
  | cons n sizes ih =>
    cases sizes with
    | nil => simp [dashed]
    | cons m sizes =>
      rw [List.sum_cons] at hlen
      have hbehind : (digits.drop n).length = (m :: sizes).sum := by
        rw [List.length_drop]
        omega
      have hrest := ih (List.cons_ne_nil m sizes) hbehind
      rw [List.length_drop] at hrest
      rw [dashed, List.length_append, List.length_cons, List.length_take, List.length_cons]
      · omega
      · simp

/-- Only dashes are taken out. -/
lemma mem_of_undashed? (h : undashed? sizes cs = some digits) :
    ∀ c ∈ cs, c ∈ digits ∨ c = '-' := by
  fun_induction undashed? sizes cs generalizing digits with
  | case1 => cases h
  | case2 cs =>
    intro c hc
    rw [← Option.some.inj h]
    exact .inl hc
  | case3 => cases h
  | case4 n sizes cs hsizes rest hdrop ih =>
    obtain ⟨behind, hbehind, rfl⟩ := Option.map_eq_some_iff.mp h
    intro c hc
    rw [← List.take_append_drop n cs, hdrop, List.mem_append, List.mem_cons] at hc
    rcases hc with hc | rfl | hc
    · exact .inl (List.mem_append_left _ hc)
    · exact .inr rfl
    · exact (ih hbehind c hc).imp_left (List.mem_append_right _)
  | case5 => cases h

lemma length_digits (u : Uuid) : (Hex.ofBytes u.octets).length = groupSizes.sum := by
  rw [Hex.length_ofBytes, u.size]
  rfl

lemma ofGroups?_chars (u : Uuid) : ofGroups? u.chars = some u := by
  have hundashed := undashed?_dashed (by decide) u.length_digits
  have hof : of? u.octets = some u := dif_pos u.size
  rw [ofGroups?, chars, hundashed, Option.bind_some, ofDigits?, Hex.toBytes?_ofBytes,
    Option.bind_some, hof]

theorem parse?_chars (u : Uuid) : parse? u.chars = some u := by
  have hlen : u.chars.length = 36 := by
    have hdashed := length_dashed (by decide) u.length_digits
    rw [u.length_digits] at hdashed
    exact Nat.succ.inj hdashed
  rw [parse?, hlen, if_neg (by decide), if_pos rfl, ofGroups?_chars]

lemma visible_of_ofDigits? (h : ofDigits? cs = some u) : ∀ c ∈ cs, isBlank c = false := by
  obtain ⟨bytes, hbytes, -⟩ := Option.bind_eq_some_iff.mp h
  exact Hex.visible_of_toBytes? hbytes

lemma visible_of_ofGroups? (h : ofGroups? cs = some u) : ∀ c ∈ cs, isBlank c = false := by
  obtain ⟨digits, hdigits, hread⟩ := Option.bind_eq_some_iff.mp h
  intro c hc
  rcases mem_of_undashed? hdigits c hc with hc | rfl
  · exact visible_of_ofDigits? hread c hc
  · decide

/-- The mark of a name has no blank in either case. -/
lemma visible_of_lower_eq (h : lower cs = nameMark) : ∀ c ∈ cs, isBlank c = false := by
  have hmark : ∀ c ∈ nameMark, isBlank c = false := visible_of_any rfl
  intro c hc
  have hlower : c.toLower ∈ nameMark := by
    rw [← h]
    exact List.mem_map_of_mem hc
  have hval : c.toNat = c.val.toNat := rfl
  by_cases hupper : 65 ≤ c.val.toNat ∧ c.val.toNat ≤ 90
  · exact isBlank_of_toNat (by omega) (by omega)
  · have hsame : c.toLower = c := by
      unfold Char.toLower
      rw [dif_neg]
      simpa [UInt32.le_iff_toNat_le] using hupper
    exact hmark c (hsame ▸ hlower)

/-- Whatever is read as an identifier has no blank at either end. -/
theorem isTrimmed_of_parse? (h : parse? cs = some u) : IsTrimmed cs := by
  unfold parse? at h
  split_ifs at h with hsimple hgroups hbraced hbraces hname hmark
  · exact isTrimmed_of_forall (visible_of_ofDigits? h)
  · exact isTrimmed_of_forall (visible_of_ofGroups? h)
  · constructor
    · intro c hc
      rw [hbraces.1] at hc
      cases hc
      decide
    · intro c hc
      rw [hbraces.2] at hc
      cases hc
      decide
  · apply isTrimmed_of_forall
    intro c hc
    rw [← List.take_append_drop 9 cs, List.mem_append] at hc
    rcases hc with hc | hc
    · exact visible_of_lower_eq hmark c hc
    · exact visible_of_ofGroups? h c hc

end Uuid

namespace Value

open Text

variable {s : String} {u : Uuid}

lemma ofUtf8?_utf8 (s : String) : ofUtf8? (utf8 s) = some s := by
  have hbytes : (⟨(utf8 s).toArray⟩ : ByteArray) = s.toUTF8 := rfl
  have hvalid : s.toUTF8.IsValidUTF8 := s.isValidUTF8
  rw [ofUtf8?, hbytes, String.fromUTF8?, dif_pos hvalid]
  rfl

lemma encode_uuid_text (h : (text s).uuid? = some u) :
    (text s).encode .uuid = .ok (some u.octets) := by
  have hread : Uuid.parse? s.toList = some u := h
  have htrim := (Uuid.isTrimmed_of_parse? hread).trim_eq_self
  simp only [encode, encodeText, htrim, hread]
  rfl

lemma encode_uuid_written {type : ColumnType}
    (htype : type ∈ [ColumnType.text, .varchar, .bpchar]) (u : Uuid) :
    (uuid u).encode type = .ok (some (utf8 u.text)) ∧ type.isText = true := by
  simp only [List.mem_cons, List.not_mem_nil, or_false] at htype
  rcases htype with rfl | rfl | rfl <;> exact ⟨rfl, rfl⟩

lemma ofCell_utf8 {type : ColumnType} (htype : type.isText = true) (s : String) (index : Nat)
    (name : String) : ofCell index ⟨name, type⟩ (some (utf8 s)) = .ok (text s) := by
  have hread : ofBytes? type (utf8 s) = some (text s) := by
    rw [ofBytes?_text htype, ofUtf8?_utf8, Option.map_some]
  exact ofCell_some hread index name

/-- An identifier that is sent to a column of text is read from it as its written form, which
stands for the identifier. Whatever text stands for it is sent to a column of identifiers as the
octets of the identifier, with blanks around it or without. -/
theorem encode_uuids_alike (u : Uuid) :
    (∀ type ∈ [ColumnType.text, .varchar, .bpchar],
      (uuid u).encode type = .ok (some (utf8 u.text)) ∧
        ∀ index name, ofCell index ⟨name, type⟩ (some (utf8 u.text)) = .ok (text u.text)) ∧
    (text u.text).uuid? = some u ∧ (uuid u).encode .uuid = .ok (some u.octets) ∧
    ∀ s, (text s).uuid? = some u →
      (text s).encode .uuid = .ok (some u.octets) ∧
        ∀ front back : String, IsGap front.toList → IsGap back.toList →
          (text (front ++ s ++ back)).encode .uuid = .ok (some u.octets) := by
  refine ⟨?_, ?_, rfl, ?_⟩
  · intro type htype
    obtain ⟨hencode, htext⟩ := encode_uuid_written htype u
    exact ⟨hencode, ofCell_utf8 htext u.text⟩
  · rw [uuid?, Uuid.text, String.toList_ofList, u.parse?_chars]
  · intro s h
    refine ⟨encode_uuid_text h, ?_⟩
    intro front back hfront hback
    rw [encode_text_around hfront hback rfl, encode_uuid_text h]

/-- A name in capitals stands for the identifier that it ends in. -/
theorem encode_uuids_alike_name :
    let u : Uuid := ⟨[103, 229, 80, 68, 16, 177, 66, 111, 146, 71, 187, 104, 14, 95, 224, 200], rfl⟩
    let name := "URN:UUID:67E55044-10B1-426F-9247-BB680E5FE0C8"
    ColumnType.varchar ∈ [ColumnType.text, .varchar, .bpchar] ∧
      ofCell 2 ⟨"id", .varchar⟩ (some (utf8 "67e55044-10b1-426f-9247-bb680e5fe0c8")) =
        .ok (text "67e55044-10b1-426f-9247-bb680e5fe0c8") ∧
      (text name).uuid? = some u ∧ (text name).encode .uuid = .ok (some u.octets) ∧
      IsGap "\n".toList ∧ (text ("" ++ name ++ "\n")).encode .uuid = .ok (some u.octets) := by
  intro u name
  have htype : ColumnType.varchar ∈ [ColumnType.text, .varchar, .bpchar] := by decide
  have hname : (text name).uuid? = some u := by decide
  have hnone : IsGap "".toList := isGap_of_all rfl
  have hgap : IsGap "\n".toList := isGap_of_all (by decide)
  have hwritten : u.text = "67e55044-10b1-426f-9247-bb680e5fe0c8" := by decide
  obtain ⟨hcolumns, -, -, htexts⟩ := encode_uuids_alike u
  have hcell := (hcolumns .varchar htype).2 2 "id"
  rw [hwritten] at hcell
  exact ⟨htype, hcell, hname, (htexts name hname).1, hgap, (htexts name hname).2 "" "\n" hnone hgap⟩

end Value
end TableAccess
