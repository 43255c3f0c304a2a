import TableAccess.Proofs.StoredValues

/-!
# Dates and times read back

What is written of a date or a time is read as the same date or time, whatever follows it. For a
number of fixed width nothing has to be known of what follows; behind a year with a sign or a
fraction of a second there must be no further digit.
-/

namespace TableAccess

namespace Text

/-- The text does not go on with a digit. -/
def StopsDigits (cs : List Char) : Prop :=
  ∀ c ∈ cs.head?, c.isDigit = false

variable {width n : Nat} {cs rest : List Char}

lemma stopsDigits_cons {c : Char} (h : c.isDigit = false) (cs : List Char) :
    StopsDigits (c :: cs) := by
  intro d hd
  rw [← Option.some.inj hd]
  exact h

lemma stopsDigits_nil : StopsDigits [] := by
  intro c hc
  cases hc

lemma length_padded (hn : n < 10 ^ width) (hwidth : 0 < width) :
    (padded width n).length = width := by
  have hlen : (decimal n).length ≤ width :=
    (Nat.length_toDigits_le_iff (by decide) hwidth).mpr hn
  rw [padded, List.length_append, List.length_replicate]
  omega

lemma isDigit_of_mem_padded : ∀ c ∈ padded width n, c.isDigit = true := by
  intro c hc
  rw [padded, List.mem_append] at hc
  rcases hc with hc | hc
  · rw [List.eq_of_mem_replicate hc]
    decide
  · exact isDigit_of_mem_decimal hc

lemma exists_padded_eq_cons (width n : Nat) :
    ∃ c cs, padded width n = c :: cs ∧ c.isDigit = true := by
  cases h : padded width n with
  | nil =>
    have hpos : 0 < (decimal n).length := Nat.length_toDigits_pos
    have hlen := congrArg List.length h
    rw [padded, List.length_append, List.length_nil] at hlen
    omega
  | cons c cs =>
    have hc : c ∈ padded width n := by rw [h]; simp
    exact ⟨c, cs, rfl, isDigit_of_mem_padded c hc⟩

lemma padded_ne_nil (width n : Nat) : padded width n ≠ [] := by
  obtain ⟨c, cs, hpadded, -⟩ := exists_padded_eq_cons width n
  rw [hpadded]
  exact List.cons_ne_nil c cs

lemma value_padded (width n : Nat) : value (padded width n) = n := by
  have hvalue : ∀ cs, value cs = Nat.ofDigitChars 10 cs 0 := fun _ => rfl
  rw [hvalue, padded, Nat.ofDigitChars_append, Nat.ofDigitChars_replicate_zero, Nat.mul_zero,
    ← hvalue, value_decimal]

lemma visible_padded : ∀ c ∈ padded width n, isBlank c = false :=
  fun c hc => isBlank_of_isDigit (isDigit_of_mem_padded c hc)

lemma takeWhile_digits_append (hcs : ∀ c ∈ cs, c.isDigit = true) (hrest : StopsDigits rest) :
    (cs ++ rest).takeWhile Char.isDigit = cs := by
  rw [List.takeWhile_append_of_pos hcs]
  cases rest with
  | nil => simp
  | cons c rest =>
    have hc : c.isDigit = false := hrest c rfl
    simp [hc]

end Text

namespace Date

lemma daysIn_le (year : Int) (month : Nat) : daysIn year month ≤ 31 := by
  unfold daysIn
  split_ifs <;> decide

lemma of?_self (d : Date) : of? d.year d.month d.day = some d :=
  dif_pos d.valid

end Date

lemma Time.of?_self (t : Time) : of? t.hour t.minute t.second t.nano = some t :=
  dif_pos t.valid

namespace Calendar

open Text

variable {width n : Nat} {cs rest : List Char}

/-- Digits are read as far as the width goes, or else up to the first other character. -/
lemma number?_digits (hne : cs ≠ []) (hcs : ∀ c ∈ cs, c.isDigit = true)
    (hwidth : cs.length ≤ width) (hrest : cs.length = width ∨ StopsDigits rest) :
    number? width (cs ++ rest) = some (value cs, rest) := by
  have hstops : StopsDigits (rest.take (width - cs.length)) := by
    rcases hrest with hfull | hstop
    · rw [hfull, Nat.sub_self, List.take_zero]
      exact stopsDigits_nil
    · intro c hc
      apply hstop c
      cases rest with
      | nil => simp at hc
      | cons d rest =>
        cases h : width - cs.length with
        | zero => simp [h] at hc
        | succ k => simpa [h] using hc
  have htake : (cs ++ rest).take width = cs ++ rest.take (width - cs.length) := by
    rw [List.take_append, List.take_of_length_le hwidth]
  have hdigits := takeWhile_digits_append hcs hstops
  simp [number?, htake, hdigits, hne]

lemma trimStart_padded (width n : Nat) (rest : List Char) :
    trimStart (padded width n ++ rest) = padded width n ++ rest := by
  obtain ⟨c, cs, hpadded, hc⟩ := exists_padded_eq_cons width n
  rw [hpadded, List.cons_append]
  exact trimStart_cons (isBlank_of_isDigit hc) _

lemma number?_padded {least : Nat} (hwidth : (padded least n).length ≤ width)
    (hrest : (padded least n).length = width ∨ StopsDigits rest) :
    number? width (padded least n ++ rest) = some (n, rest) := by
  rw [number?_digits (padded_ne_nil least n) isDigit_of_mem_padded hwidth hrest, value_padded]

lemma number?_full (hn : n < 10 ^ width) (hwidth : 0 < width) (rest : List Char) :
    number? width (padded width n ++ rest) = some (n, rest) := by
  have hlen := length_padded hn hwidth
  exact number?_padded (Nat.le_of_eq hlen) (.inl hlen)

lemma field?_padded (hn : n < 10 ^ width) (hwidth : 0 < width) (rest : List Char) :
    field? width (padded width n ++ rest) = some (n, rest) := by
  rw [field?, trimStart_padded, number?_full hn hwidth]

lemma mark?_self (loose : Bool) {mark : Char} (h : isBlank mark = false) (rest : List Char) :
    mark? loose mark (mark :: rest) = some rest := by
  have htrim := trimStart_cons h rest
  cases loose <;> simp [mark?, htrim]

lemma year?_yearText (year : Int) (hrest : StopsDigits rest) :
    year? (Date.yearText year ++ rest) = some (year, rest) := by
  unfold Date.yearText
  by_cases hfour : 0 ≤ year ∧ year ≤ 9999
  · have hread : number? 4 (padded 4 year.toNat ++ rest) = some (year.toNat, rest) :=
      number?_full (by omega) (by decide) rest
    have htrim := trimStart_padded 4 year.toNat rest
    obtain ⟨c, cs, hpadded, hc⟩ := exists_padded_eq_cons 4 year.toNat
    have hminus : c ≠ '-' := ne_of_isDigit hc (by decide)
    have hplus : c ≠ '+' := ne_of_isDigit hc (by decide)
    rw [if_pos hfour, year?, htrim]
    rw [hpadded, List.cons_append] at hread ⊢
    simp [hminus, hplus, hread]
    omega
  · -- Behind a sign a year may have any number of digits.
    have hread : number? (padded 4 year.natAbs ++ rest).length (padded 4 year.natAbs ++ rest) =
        some (year.natAbs, rest) := number?_padded (by simp) (.inr hrest)
    rw [if_neg hfour]
    by_cases hnegative : year < 0
    · have hyear : -(year.natAbs : Int) = year := by omega
      rw [if_pos hnegative, List.cons_append, year?, trimStart_cons (by decide)]
      simp only [hread, Option.map_some, hyear]
    · have hyear : (year.natAbs : Int) = year := by omega
      rw [if_neg hnegative, List.cons_append, year?, trimStart_cons (by decide)]
      simp only [hread, Option.map_some, hyear]

theorem date?_chars (loose : Bool) (d : Date) (rest : List Char) :
    date? loose (d.chars ++ rest) = some (d, rest) := by
  obtain ⟨-, hmonths, hdays⟩ := d.valid
  have hmonth : d.month < 10 ^ 2 := by omega
  have hday : d.day < 10 ^ 2 := by
    have hle := Date.daysIn_le d.year d.month
    omega
  have hdash := fun rest => mark?_self loose (show isBlank '-' = false by decide) rest
  have hyear := year?_yearText d.year (stopsDigits_cons (c := '-') (by decide)
    (padded 2 d.month ++ '-' :: (padded 2 d.day ++ rest)))
  simp [date?, Date.chars, hyear, hdash, field?_padded hmonth, field?_padded hday, d.of?_self]

/-- A fraction of `width` digits counts in units of its last digit. -/
lemma fraction?_padded (hn : n < 10 ^ width) (hwidth : 0 < width) (hnine : width ≤ 9)
    (hrest : StopsDigits rest) :
    fraction? ('.' :: (padded width n ++ rest)) = some (n * 10 ^ (9 - width), rest) := by
  have hlen := length_padded hn hwidth
  have hread : number? 9 (padded width n ++ rest) = some (n, rest) :=
    number?_padded (by omega) (.inr hrest)
  have hdigits : (padded width n ++ rest).takeWhile Char.isDigit = padded width n :=
    takeWhile_digits_append isDigit_of_mem_padded hrest
  simp [fraction?, hread, hdigits, hlen, hnine]

theorem fraction?_fractionText {nano : Nat} (hnano : nano < 10 ^ 9) (hstop : StopsDigits rest)
    (hpoint : rest.head? ≠ some '.') :
    fraction? (Time.fractionText nano ++ rest) = some (nano, rest) := by
  unfold Time.fractionText
  split_ifs with hnone hmillis hmicros
  · subst hnone
    cases rest with
    | nil => rfl
    | cons c rest =>
      have hc : c ≠ '.' := by simpa using hpoint
      simp [fraction?, hc]
  · have hcount : nano / 1000000 * 10 ^ (9 - 3) = nano := by omega
    rw [List.cons_append, fraction?_padded (by omega) (by decide) (by decide) hstop, hcount]
  · have hcount : nano / 1000 * 10 ^ (9 - 6) = nano := by omega
    rw [List.cons_append, fraction?_padded (by omega) (by decide) (by decide) hstop, hcount]
  · rw [List.cons_append, fraction?_padded hnano (by decide) (by decide) hstop]
    simp

theorem time?_chars (loose : Bool) (t : Time) (hstop : StopsDigits rest)
    (hpoint : rest.head? ≠ some '.') : time? loose (t.chars ++ rest) = some (t, rest) := by
  obtain ⟨hhours, hminutes, hseconds, hnanos⟩ := t.valid
  have hhour : t.hour < 10 ^ 2 := by omega
  have hminute : t.minute < 10 ^ 2 := by omega
  have hsecond : t.second < 10 ^ 2 := by omega
  have hcolon := fun rest => mark?_self loose (show isBlank ':' = false by decide) rest
  simp [time?, Time.chars, hcolon, field?_padded hhour, field?_padded hminute,
    field?_padded hsecond, fraction?_fractionText hnanos hstop hpoint, t.of?_self]

lemma complete?_nil {α : Type} (a : α) : complete? (some (a, [])) = some a :=
  rfl

end Calendar

open Calendar Text

theorem Date.parse?_chars (d : Date) : Date.parse? d.chars = some d := by
  have hread := date?_chars true d []
  rw [List.append_nil] at hread
  rw [Date.parse?, hread]
  rfl

namespace Time

lemma exists_chars_eq_cons (t : Time) : ∃ c cs, t.chars = c :: cs ∧ c.isDigit = true := by
  obtain ⟨c, cs, hpadded, hc⟩ := exists_padded_eq_cons 2 t.hour
  refine ⟨c, cs ++ (':' :: padded 2 t.minute ++ ':' :: padded 2 t.second ++ fractionText t.nano),
    ?_, hc⟩
  rw [chars, hpadded]
  simp

lemma time?_last (loose : Bool) (t : Time) : time? loose t.chars = some (t, []) := by
  have hread := time?_chars loose t stopsDigits_nil (by simp)
  rwa [List.append_nil] at hread

end Time

namespace LocalTimestamp

variable (t : LocalTimestamp)

lemma parseMarked?_chars : parseMarked? (t.chars 'T') = some t := by
  have hmark := mark?_self true (show isBlank 'T' = false by decide) t.time.chars
  simp [parseMarked?, chars, date?_chars, hmark, Time.time?_last, complete?_nil]

/-- The blank before the time is passed over, and a digit is no mark. -/
lemma parseMarked?_spaced : parseMarked? (t.chars ' ') = none := by
  have hmark : mark? true 'T' (' ' :: t.time.chars) = none := by
    obtain ⟨c, cs, hchars, hc⟩ := t.time.exists_chars_eq_cons
    have hne : c ≠ 'T' := ne_of_isDigit hc (by decide)
    have htrim : trimStart (' ' :: t.time.chars) = c :: cs := by
      rw [hchars]
      exact trimStart_cons (isBlank_of_isDigit hc) cs
    simp [mark?, htrim, hne]
  simp [parseMarked?, chars, date?_chars, hmark, complete?]

lemma parseSpaced?_chars : parseSpaced? (t.chars ' ') = some t := by
  have hblank : time? false (' ' :: t.time.chars) = time? false t.time.chars := rfl
  simp [parseSpaced?, chars, date?_chars, hblank, Time.time?_last]

theorem parse?_chars : parse? (t.chars 'T') = some t := by
  rw [parse?, parseMarked?_chars, Option.some_or]

theorem parse?_spaced : parse? (t.chars ' ') = some t := by
  rw [parse?, parseMarked?_spaced, parseSpaced?_chars, Option.none_or]

lemma backMinutes?_zero : t.backMinutes? 0 = some t := by
  obtain ⟨hhours, hminutes, -, -⟩ := t.time.valid
  have hday : (60 * t.time.hour + t.time.minute : Int) / 1440 = 0 := by omega
  have hminute : ((60 * t.time.hour + t.time.minute : Int) % 1440).toNat =
      60 * t.time.hour + t.time.minute := by omega
  have hhour : (60 * t.time.hour + t.time.minute) / 60 = t.time.hour := by omega
  have hrest : (60 * t.time.hour + t.time.minute) % 60 = t.time.minute := by omega
  simp [backMinutes?, hday, hminute, hhour, hrest, Date.addDays?, t.time.of?_self]

end LocalTimestamp

/-- Behind the time there is either form of the offset of universal time. -/
lemma Timestamp.parse?_offset (t : Timestamp) {offset : List Char}
    (hoffset : offset = ['Z'] ∨ offset = ['+', '0', '0', ':', '0', '0']) :
    Timestamp.parse? (t.utc.chars 'T' ++ offset) = some t := by
  have hstop : StopsDigits offset := by
    rcases hoffset with rfl | rfl <;> exact stopsDigits_cons (by decide) _
  have hpoint : offset.head? ≠ some '.' := by rcases hoffset with rfl | rfl <;> decide
  have hread : offset? (trimStart offset) = some (0, []) := by
    rcases hoffset with rfl | rfl <;> decide
  simp [Timestamp.parse?, LocalTimestamp.chars, date?_chars, divider?,
    time?_chars true t.utc.time hstop hpoint, hread, t.utc.backMinutes?_zero, complete?_nil]

namespace Date

lemma dayNumber_mem_range (d : Date) : -97000000 ≤ d.dayNumber ∧ d.dayNumber ≤ 97000000 := by
  obtain ⟨hyears, hmonths, hdays⟩ := d.valid
  have hle := daysIn_le d.year d.month
  unfold dayNumber daysBefore
  dsimp only
  split_ifs <;> omega

lemma dayNumber_holds (d : Date) : IntegerWidth.four.Holds d.dayNumber := by
  have hrange := d.dayNumber_mem_range
  have hhalf : IntegerWidth.four.half = 2147483648 := rfl
  unfold IntegerWidth.Holds
  omega

lemma chars_ne_nil (d : Date) : d.chars ≠ [] := by
  simp [chars]

lemma visible_chars (d : Date) : ∀ c ∈ d.chars, isBlank c = false := by
  have hdash : isBlank '-' = false := by decide
  have hyear : ∀ c ∈ yearText d.year, isBlank c = false := by
    unfold yearText
    split_ifs
    · exact visible_padded
    · exact List.forall_mem_cons.mpr ⟨hdash, visible_padded⟩
    · exact List.forall_mem_cons.mpr ⟨by decide, visible_padded⟩
  simp only [chars, List.forall_mem_append, List.forall_mem_cons]
  exact ⟨⟨hyear, hdash, visible_padded⟩, hdash, visible_padded⟩

end Date

lemma Time.chars_ne_nil (t : Time) : t.chars ≠ [] := by
  simp [chars]

lemma Time.visible_chars (t : Time) : ∀ c ∈ t.chars, isBlank c = false := by
  have hcolon : isBlank ':' = false := by decide
  have hpoint : isBlank '.' = false := by decide
  have hfraction : ∀ c ∈ fractionText t.nano, isBlank c = false := by
    unfold fractionText
    split_ifs
    · exact List.forall_mem_nil _
    all_goals exact List.forall_mem_cons.mpr ⟨hpoint, visible_padded⟩
  simp only [chars, List.forall_mem_append, List.forall_mem_cons]
  exact ⟨⟨⟨visible_padded, hcolon, visible_padded⟩, hcolon, visible_padded⟩, hfraction⟩

lemma LocalTimestamp.isTrimmed_chars (t : LocalTimestamp) (mark : Char) :
    IsTrimmed (t.chars mark) := by
  have hends := (isTrimmed_of_forall t.date.visible_chars).between
    (isTrimmed_of_forall t.time.visible_chars) t.date.chars_ne_nil t.time.chars_ne_nil [mark]
  rwa [List.append_assoc, List.singleton_append] at hends

lemma Timestamp.isTrimmed_offset (t : Timestamp) {offset : List Char} (hne : offset ≠ [])
    (hoffset : ∀ c ∈ offset, isBlank c = false) : IsTrimmed (t.utc.chars 'T' ++ offset) := by
  have hends := (isTrimmed_of_forall t.utc.date.visible_chars).between
    (isTrimmed_of_forall hoffset) t.utc.date.chars_ne_nil hne ('T' :: t.utc.time.chars)
  exact hends

/-- Every microsecond that the calendar reaches is one of eight bytes. -/
lemma LocalTimestamp.micros_holds (t : LocalTimestamp) : IntegerWidth.eight.Holds t.micros := by
  have hdays := t.date.dayNumber_mem_range
  have hseconds : t.time.seconds ≤ 86400 := by
    obtain ⟨hhours, hminutes, hsecond, -⟩ := t.time.valid
    unfold Time.seconds
    omega
  have hnanos := t.time.valid.2.2.2
  have hhalf : IntegerWidth.eight.half = 9223372036854775808 := rfl
  have hmicros : t.micros.natAbs = t.nanos.natAbs / 1000 := Int.natAbs_tdiv t.nanos 1000
  unfold nanos at hmicros
  unfold IntegerWidth.Holds
  omega

namespace Value

/-- The type of the columns for a date or a time, and the days or microseconds that they count. -/
def calendarCount? : Value → Option (ColumnType × IntegerWidth × Int)
  | date d => some (.date, .four, d.dayNumber)
  | localTimestamp t => some (.timestamp, .eight, t.micros)
  | timestamp t => some (.timestamptz, .eight, t.utc.micros)
  | _ => none

/-- The text is the value as it is shown or the string that JSON has for it. -/
def IsWrittenAs (v : Value) (s : String) : Prop :=
  s = v.display ∨ v.toJson = .string s

variable {v : Value} {s front back : String}

lemma encode_date_text {d : Date} (hs : (date d).IsWrittenAs s) :
    (text s).encode .date = .ok (some d.bytes) := by
  have hchars : s.toList = d.chars := by
    rcases hs with rfl | hs
    · exact String.toList_ofList
    · rw [← Json.string.inj hs]
      exact String.toList_ofList
  have htrim : trim s.toList = d.chars := by
    rw [hchars]
    exact (isTrimmed_of_forall d.visible_chars).trim_eq_self
  simp only [encode, encodeText, htrim, d.parse?_chars]
  rfl

lemma encode_localTimestamp_text {t : LocalTimestamp} (hs : (localTimestamp t).IsWrittenAs s) :
    (text s).encode .timestamp = .ok (some t.bytes) := by
  have hread : LocalTimestamp.parse? (trim s.toList) = some t := by
    rcases hs with rfl | hs
    · have hchars : (localTimestamp t).display.toList = t.chars ' ' := String.toList_ofList
      rw [hchars, (t.isTrimmed_chars ' ').trim_eq_self, t.parse?_spaced]
    · have hchars : s.toList = t.chars 'T' := by
        rw [← Json.string.inj hs]
        exact String.toList_ofList
      rw [hchars, (t.isTrimmed_chars 'T').trim_eq_self, t.parse?_chars]
  simp only [encode, encodeText, hread]
  rfl

lemma encode_timestamp_text {t : Timestamp} (hs : (timestamp t).IsWrittenAs s) :
    (text s).encode .timestamptz = .ok (some t.utc.bytes) := by
  have hread : Timestamp.parse? (trim s.toList) = some t := by
    rcases hs with rfl | hs
    · have hchars : (timestamp t).display.toList =
          t.utc.chars 'T' ++ ['+', '0', '0', ':', '0', '0'] := String.toList_ofList
      rw [hchars, (t.isTrimmed_offset (by decide) (visible_of_any rfl)).trim_eq_self,
        t.parse?_offset (.inr rfl)]
    · have hchars : s.toList = t.utc.chars 'T' ++ ['Z'] := by
        rw [← Json.string.inj hs]
        exact String.toList_ofList
      rw [hchars, (t.isTrimmed_offset (by decide) (visible_of_any rfl)).trim_eq_self,
        t.parse?_offset (.inl rfl)]
  simp only [encode, encodeText, hread]
  rfl

/-- A date or a time goes into a column of its type as the days or microseconds that the column
counts, which the width of the column holds. Its text, as it is shown or as JSON has it, goes into
the column in the same bytes, whatever blanks stand around it. -/
theorem encode_calendar_text {type : ColumnType} {w : IntegerWidth} {n : Int}
    (h : v.calendarCount? = some (type, w, n)) :
    w.Holds n ∧ v.encode type = .ok (some (w.twosComplement n)) ∧
      ∀ s front back : String, v.IsWrittenAs s → IsGap front.toList → IsGap back.toList →
        (text (front ++ s ++ back)).encode type = .ok (some (w.twosComplement n)) := by
  have hbytes := w.bytes_eq_twosComplement n
  cases v with
  | date d =>
    cases h
    refine ⟨d.dayNumber_holds, by rw [← hbytes]; rfl, ?_⟩
    intro s front back hs hfront hback
    rw [encode_text_around hfront hback rfl, encode_date_text hs, Date.bytes, hbytes]
  | localTimestamp t =>
    cases h
    refine ⟨t.micros_holds, by rw [← hbytes]; rfl, ?_⟩
    intro s front back hs hfront hback
    rw [encode_text_around hfront hback rfl, encode_localTimestamp_text hs, LocalTimestamp.bytes,
      hbytes]
  | timestamp t =>
    cases h
    refine ⟨t.utc.micros_holds, by rw [← hbytes]; rfl, ?_⟩
    intro s front back hs hfront hback
    rw [encode_text_around hfront hback rfl, encode_timestamp_text hs, LocalTimestamp.bytes,
      hbytes]
  | _ => cases h

/-- Half a second into a leap second, with a year before the first. -/
theorem encode_calendar_text_leapSecond :
    let t : LocalTimestamp := ⟨⟨-44, 3, 15, by decide⟩, ⟨23, 59, 60, 500000000, by decide⟩⟩
    (localTimestamp t).calendarCount? = some (.timestamp, .eight, -64495958399500000) ∧
      (localTimestamp t).IsWrittenAs "-0044-03-15 23:59:60.500" ∧
      (localTimestamp t).IsWrittenAs "-0044-03-15T23:59:60.500" ∧ IsGap "\t ".toList ∧
      (localTimestamp t).encode .timestamp = .ok (some [255, 26, 221, 68, 126, 38, 65, 32]) ∧
      (text ("\t " ++ "-0044-03-15 23:59:60.500" ++ "\t ")).encode .timestamp =
        .ok (some [255, 26, 221, 68, 126, 38, 65, 32]) ∧
      (text ("\t " ++ "-0044-03-15T23:59:60.500" ++ "\t ")).encode .timestamp =
        .ok (some [255, 26, 221, 68, 126, 38, 65, 32]) := by
  intro t
  have hcount : (localTimestamp t).calendarCount? =
      some (.timestamp, .eight, -64495958399500000) := by decide
  have hshown : (localTimestamp t).IsWrittenAs "-0044-03-15 23:59:60.500" := .inl (by decide)
  have htext : t.jsonText = "-0044-03-15T23:59:60.500" := by decide
  have hjson : (localTimestamp t).IsWrittenAs "-0044-03-15T23:59:60.500" :=
    .inr (congrArg Json.string htext)
  have hgap : IsGap "\t ".toList := isGap_of_all (by decide)
  have hbytes : IntegerWidth.eight.twosComplement (-64495958399500000) =
      [255, 26, 221, 68, 126, 38, 65, 32] := by decide
  obtain ⟨-, hvalue, htexts⟩ := encode_calendar_text hcount
  rw [hbytes] at hvalue htexts
  exact ⟨hcount, hshown, hjson, hgap, hvalue, htexts _ _ _ hshown hgap hgap,
    htexts _ _ _ hjson hgap hgap⟩

end Value
end TableAccess
