import TableAccess.Proofs.Formula
import TableAccess.Proofs.RecordStatements

/-!
# Membership in three-valued logic

SQL reads the term of a list as a `MemberList.Reading`: that the column is among parameters or is
not, or that two numbers are equal, which stand for an empty list. Since a comparison with NULL is
neither true nor false, a list with NULL in it can leave a row outside of both terms.
-/

namespace TableAccess

open Formula

/-- A truth value of SQL. -/
inductive Truth where
  | fails
  | unknown
  | holds
  deriving DecidableEq, Repr

namespace Truth

def rank : Truth → Nat
  | fails => 0
  | unknown => 1
  | holds => 2

/-- The unknown lies between the others, so AND is the least of its operands and OR the
greatest. -/
instance : LinearOrder Truth :=
  LinearOrder.lift' rank (by rintro (_ | _ | _) (_ | _ | _) h <;> first | rfl | cases h)

instance : BoundedOrder Truth where
  top := holds
  le_top := by rintro (_ | _ | _) <;> decide
  bot := fails
  bot_le := by rintro (_ | _ | _) <;> decide

def not : Truth → Truth
  | fails => holds
  | unknown => unknown
  | holds => fails

def ofBool (b : Bool) : Truth :=
  if b then holds else fails

/-- Equality of two values; nothing is equal or unequal to NULL. -/
def equal (same : Value → Value → Bool) (v w : Value) : Truth :=
  if v.isNull || w.isNull then unknown else ofBool (same v w)

variable {x y : Truth} {xs : List Truth} {same : Value → Value → Bool} {v w : Value}

@[simp] lemma not_eq_holds_iff : x.not = holds ↔ x = fails := by
  cases x <;> decide

lemma sup_eq_holds_iff : x ⊔ y = holds ↔ x = holds ∨ y = holds := by
  cases x <;> cases y <;> decide

lemma anyOf_eq_holds_iff : anyOf xs = holds ↔ holds ∈ xs := by
  induction xs with
  | nil => exact iff_of_false (by decide) (by simp)
  | cons x xs ih =>
    change x ⊔ anyOf xs = holds ↔ _
    rw [sup_eq_holds_iff, ih, List.mem_cons, eq_comm]

lemma anyOf_eq_fails_iff : anyOf xs = fails ↔ ∀ x ∈ xs, x = fails := by
  induction xs with
  | nil => exact iff_of_true rfl (by simp)
  | cons x xs ih =>
    change x ⊔ anyOf xs = ⊥ ↔ _
    rw [sup_eq_bot_iff, List.forall_mem_cons]
    exact and_congr Iff.rfl ih

lemma equal_eq_holds_iff (hv : v.isNull = false) :
    equal same v w = holds ↔ w.isNull = false ∧ same v w = true := by
  rw [equal, hv]
  cases w.isNull <;> cases same v w <;> decide

lemma equal_eq_fails_iff (hv : v.isNull = false) :
    equal same v w = fails ↔ w.isNull = false ∧ same v w = false := by
  rw [equal, hv]
  cases w.isNull <;> cases same v w <;> decide

end Truth

/-- A numeral ends at the first character that is no digit. -/
lemma decimal_append_inj {m n : Nat} {c d : Char} {cs ds : List Char} (hc : c.isDigit = false)
    (hd : d.isDigit = false) (h : Text.decimal m ++ c :: cs = Text.decimal n ++ d :: ds) :
    m = n ∧ c :: cs = d :: ds := by
  have hdigits (k : Nat) : ∀ e ∈ Text.decimal k, e.isDigit = true :=
    fun _ => Text.isDigit_of_mem_decimal
  have hnumeral := congrArg (List.takeWhile Char.isDigit) h
  have hrest := congrArg (List.dropWhile Char.isDigit) h
  simp only [List.takeWhile_append_of_pos (hdigits _), List.takeWhile_cons, hc, hd,
    Bool.false_eq_true, if_false, List.append_nil] at hnumeral
  simp only [List.dropWhile_append_of_pos (hdigits _), List.dropWhile_cons, hc, hd,
    Bool.false_eq_true, if_false] at hrest
  exact ⟨by rw [← Text.value_decimal m, hnumeral, Text.value_decimal], hrest⟩

namespace MemberList

/-- The term of a list as SQL reads it. -/
inductive Reading where
  /-- Two numbers are equal. -/
  | numbers (m n : Nat)
  /-- The column is among parameters, or is not. A list has at least one of them. -/
  | among (negated : Bool) (first : Nat) (others : List Nat)
  deriving DecidableEq, Repr

namespace Reading

def listText (ks : List Nat) : String :=
  ", ".intercalate (ks.map fun k => "$" ++ toString k) ++ ")"

/-- What a reading is read from, where the column is one operand. -/
def text (column : Fragment) : Reading → String
  | numbers m n => toString m ++ "=" ++ toString n
  | among negated first others =>
    column.text ++ (if negated then " NOT IN (" else " IN (") ++ listText (first :: others)

/-- The parameter of a placeholder. The first one has the number one. -/
def parameter? (params : List Value) (k : Nat) : Option Value :=
  if k = 0 then none else params[k - 1]?

/-- The truth for a row with `v` in the column; none if a parameter is missing. -/
def value? (same : Value → Value → Bool) (params : List Value) (v : Value) :
    Reading → Option Truth
  | numbers m n => some (.ofBool (m == n))
  | among negated first others =>
    ((first :: others).mapM (parameter? params)).map fun listed =>
      let found := anyOf (listed.map (Truth.equal same v))
      if negated then found.not else found

lemma toList_listText (k : Nat) (ks : List Nat) :
    (listText (k :: ks)).toList = '$' :: (Text.decimal k ++
      if ks = [] then [')'] else ',' :: ' ' :: (listText ks).toList) := by
  cases ks with
  | nil => simp [listText, Text.decimal]
  | cons next rest => simp [listText, String.intercalate_cons_cons, Text.decimal]

lemma listText_injective : Function.Injective listText := by
  intro ks
  induction ks with
  | nil =>
    intro ls h
    cases ls with
    | nil => rfl
    | cons l ls => simpa [listText] using congrArg String.toList h
  | cons k ks ih =>
    intro ls h
    cases ls with
    | nil => simpa [listText] using congrArg String.toList h
    | cons l ls =>
      have hlist := congrArg String.toList h
      rw [toList_listText, toList_listText, List.cons.injEq] at hlist
      obtain ⟨-, hlist⟩ := hlist
      -- behind the first number both lists end, or both go on
      split_ifs at hlist with hks hls hls
      · rw [(decimal_append_inj (by decide) (by decide) hlist).1, hks, hls]
      · simpa using (decimal_append_inj (by decide) (by decide) hlist).2
      · simpa using (decimal_append_inj (by decide) (by decide) hlist).2
      · obtain ⟨rfl, hrest⟩ := decimal_append_inj (by decide) (by decide) hlist
        simp only [List.cons.injEq, true_and] at hrest
        rw [ih (String.toList_inj.mp hrest)]

lemma text_numbers_inj {column : Fragment} {k l m n : Nat}
    (h : (numbers k l).text column = (numbers m n).text column) : k = m ∧ l = n := by
  have hlist := congrArg (fun s => s.toList ++ [' ']) h
  simp only [text, String.toList_append, Text.toList_toString, List.append_assoc] at hlist
  obtain ⟨hleft, hrest⟩ := decimal_append_inj (by decide) (by decide) hlist
  rw [List.cons.injEq] at hrest
  exact ⟨hleft, (decimal_append_inj (by decide) (by decide) hrest.2).1⟩

lemma text_numbers_ne_among (column : Fragment) (m n : Nat) (negated : Bool) (first : Nat)
    (others : List Nat) : (numbers m n).text column ≠ (among negated first others).text column := by
  intro h
  have hblank : ' ' ∈ ((among negated first others).text column).toList := by
    cases negated <;> simp [text]
  have hdigits (k : Nat) : ' ' ∉ Text.decimal k :=
    fun hmem => absurd (Text.isDigit_of_mem_decimal hmem) (by decide)
  rw [← h, text, String.toList_append, String.toList_append, Text.toList_toString,
    Text.toList_toString] at hblank
  simp [hdigits] at hblank

lemma text_among_inj {column : Fragment} {negated refused : Bool} {first next : Nat}
    {others rest : List Nat}
    (h : (among negated first others).text column = (among refused next rest).text column) :
    among negated first others = among refused next rest := by
  have hlist := congrArg String.toList h
  simp only [text, String.toList_append, List.append_assoc, List.append_cancel_left_eq] at hlist
  cases negated <;> cases refused <;> simp at hlist
  all_goals
    have hks := listText_injective (String.toList_inj.mp hlist)
    rw [List.cons.injEq] at hks
    rw [hks.1, hks.2]

/-- What is read from a text is determined. -/
theorem text_injective (column : Fragment) : Function.Injective (text column) := by
  intro r s h
  cases r with
  | numbers k l =>
    cases s with
    | numbers m n =>
      obtain ⟨rfl, rfl⟩ := text_numbers_inj h
      rfl
    | among => exact (text_numbers_ne_among column _ _ _ _ _ h).elim
  | among negated first others =>
    cases s with
    | numbers => exact (text_numbers_ne_among column _ _ _ _ _ h.symm).elim
    | among refused next rest => exact text_among_inj h

lemma mapM_parameter? (front vs back : List Value) :
    (List.range' (front.length + 1) vs.length).mapM (parameter? (front ++ vs ++ back)) =
      some vs := by
  induction vs generalizing front with
  | nil => rfl
  | cons v vs ih =>
    have hfirst : parameter? (front ++ v :: vs ++ back) (front.length + 1) = some v := by
      simp [parameter?]
    have hrest := ih (front ++ [v])
    rw [List.length_append, List.length_singleton, List.append_assoc front [v] vs,
      List.singleton_append] at hrest
    rw [List.length_cons, List.range'_succ, List.mapM_cons, hfirst, hrest]
    rfl

end Reading

/-- Wherever a term stands in a statement, SQL can read it, and what it reads has the truth `x` for
a row with `v` in the column. -/
def Means (column : Fragment) (same : Value → Value → Bool) (v : Value) (t : Template)
    (x : Truth) : Prop :=
  ∀ front back : Template, ∀ y,
    (∃ r : Reading, r.text column = t.sqlFrom front.params.length ∧
      r.value? same (front ++ t ++ back).statement.params v = some y) ↔ y = x

/-- Whether a value equals any of a list, and whether it does not. -/
def truth (negated : Bool) (m : MemberList) (same : Value → Value → Bool) (v : Value) : Truth :=
  let found := anyOf (m.values.map (Truth.equal same v))
  if negated then found.not else found

variable {m : MemberList} {column : Fragment} {same : Value → Value → Bool} {v : Value}

lemma means_of_reading {t : Template} {x : Truth}
    (h : ∀ front back : Template, ∃ r : Reading, r.text column = t.sqlFrom front.params.length ∧
      r.value? same (front ++ t ++ back).statement.params v = some x) :
    Means column same v t x := by
  intro front back y
  obtain ⟨r, hr, hvalue⟩ := h front back
  constructor
  · rintro ⟨s, hs, hother⟩
    rw [Reading.text_injective column (hs.trans hr.symm), hvalue, Option.some.injEq] at hother
    exact hother.symm
  · rintro rfl
    exact ⟨r, hr, hvalue⟩

theorem template_means (negated : Bool) (m : MemberList) (column : Fragment)
    (same : Value → Value → Bool) (v : Value) :
    Means column same v (m.template negated column) (m.truth negated same v) := by
  obtain ⟨name, values⟩ := m
  apply means_of_reading
  intro front back
  cases values with
  | nil =>
    refine ⟨.numbers 1 (if negated then 1 else 0), ?_, ?_⟩
    · cases negated <;> simp [template, Reading.text] <;> rfl
    · cases negated <;> rfl
  | cons w ws =>
    have hparams : (template negated ⟨name, w :: ws⟩ column).params = w :: ws := by
      simp [template, params_slots]
    have hnumbers : List.range' (front.params.length + 1) (w :: ws).length =
        (front.params.length + 1) :: List.range' (front.params.length + 2) ws.length :=
      List.range'_succ ..
    have hlisted := Reading.mapM_parameter? front.params (w :: ws) back.params
    have hslots : (Template.slots (w :: ws)).sqlFrom front.params.length ++ ")" =
        Reading.listText (List.range' (front.params.length + 1) (w :: ws).length) := by
      rw [Template.slots, Template.sqlFrom_joined, Template.texts_slots]
      rfl
    rw [hnumbers] at hlisted hslots
    refine ⟨.among negated (front.params.length + 1)
      (List.range' (front.params.length + 2) ws.length), ?_, ?_⟩
    · rw [Reading.text, ← hslots]
      simp [template, operator, Template.fragment, String.append_assoc]
    · rw [Template.params_statement, Template.params_append, Template.params_append, hparams,
        Reading.value?, hlisted]
      rfl

/-- The column equals a value of the list. -/
def Has (m : MemberList) (same : Value → Value → Bool) (v : Value) : Prop :=
  ∃ w ∈ m.values, w.isNull = false ∧ same v w = true

def NullFree (m : MemberList) : Prop :=
  ∀ w ∈ m.values, w.isNull = false

lemma truth_eq_holds_iff (hv : v.isNull = false) :
    m.truth false same v = .holds ↔ m.Has same v := by
  simp only [truth, Truth.anyOf_eq_holds_iff, List.mem_map, Truth.equal_eq_holds_iff hv, Has,
    Bool.false_eq_true, if_false]

lemma truth_negated_eq_holds_iff (hv : v.isNull = false) :
    m.truth true same v = .holds ↔ ¬m.Has same v ∧ m.NullFree := by
  simp only [truth, if_true, Truth.not_eq_holds_iff, Truth.anyOf_eq_fails_iff,
    List.forall_mem_map, Truth.equal_eq_fails_iff hv]
  constructor
  · intro h
    refine ⟨?_, fun w hw => (h w hw).1⟩
    rintro ⟨w, hw, -, hsame⟩
    rw [(h w hw).2] at hsame
    cases hsame
  · rintro ⟨hnone, hnull⟩ w hw
    refine ⟨hnull w hw, ?_⟩
    by_contra hsame
    exact hnone ⟨w, hw, hnull w hw, by simpa using hsame⟩

/-- For a row whose column is not NULL the term of a list holds if and only if the column equals
one of the values, and the negated term if and only if it equals none of them and none is NULL.
Hence exactly one of the two terms holds unless a value is NULL and no other equals the column.
Nothing is in an empty list, whatever the row has in the column. -/
theorem terms_complement_iff {m : MemberList} {column : Fragment}
    (hcolumn : Fragment.parse m.column = .ok column) (same : Value → Value → Bool) (v : Value) :
    ∃ t u x y, m.term false = .ok t ∧ m.term true = .ok u ∧ Means column same v t x ∧
      Means column same v u y ∧
      (v.isNull = false → (x = .holds ↔ m.Has same v) ∧
        (y = .holds ↔ ¬m.Has same v ∧ m.NullFree) ∧
        (Xor (x = .holds) (y = .holds) ↔ m.Has same v ∨ m.NullFree)) ∧
      (m.values = [] → x = .fails ∧ y = .holds) := by
  refine ⟨_, _, m.truth false same v, m.truth true same v,
    term_eq_ok_iff.mpr ⟨column, hcolumn, rfl⟩, term_eq_ok_iff.mpr ⟨column, hcolumn, rfl⟩,
    template_means false m column same v, template_means true m column same v, ?_, ?_⟩
  · intro hv
    rw [truth_eq_holds_iff hv, truth_negated_eq_holds_iff hv]
    refine ⟨Iff.rfl, Iff.rfl, ?_⟩
    rw [Xor]
    tauto
  · intro hempty
    rw [truth, truth, hempty]
    exact ⟨rfl, rfl⟩

theorem terms_complement_iff_without_null :
    let m : MemberList := ⟨"age", [.int 1, .int 3]⟩
    Fragment.parse m.column = .ok ⟨"age"⟩ ∧
      ∃ t u x, m.term false = .ok t ∧ m.term true = .ok u ∧
        Means ⟨"age"⟩ Value.same (.int 2) t x ∧ x ≠ .holds ∧
        Means ⟨"age"⟩ Value.same (.int 2) u .holds := by
  intro m
  have hcolumn : Fragment.parse m.column = .ok ⟨"age"⟩ := by decide +kernel
  obtain ⟨t, u, x, y, ht, hu, hx, hy, hrow, -⟩ :=
    terms_complement_iff hcolumn Value.same (.int 2)
  obtain ⟨hin, hnotIn, -⟩ := hrow rfl
  have hnone : ¬m.Has Value.same (.int 2) := by
    rintro ⟨w, hw, -, hsame⟩
    simp only [m, List.mem_cons, List.not_mem_nil, or_false] at hw
    rcases hw with rfl | rfl <;> exact absurd hsame (by decide)
  have hnull : m.NullFree := by simp [m, NullFree, Value.isNull]
  rw [hnotIn.mpr ⟨hnone, hnull⟩] at hy
  exact ⟨hcolumn, t, u, x, ht, hu, hx, fun h => hnone (hin.mp h), hy⟩

/-- With NULL in its list neither term holds for a value that is not there. -/
theorem terms_with_null_unknown :
    let m : MemberList := ⟨"age", [.int 1, .null]⟩
    ∃ t u, m.term false = .ok t ∧ m.term true = .ok u ∧
      t.sql = "age IN ($1, $2)" ∧ u.sql = "age NOT IN ($1, $2)" ∧
      Means ⟨"age"⟩ Value.same (.int 2) t .unknown ∧
      Means ⟨"age"⟩ Value.same (.int 2) u .unknown ∧ ¬m.Has Value.same (.int 2) := by
  intro m
  have hcolumn : Fragment.parse m.column = .ok ⟨"age"⟩ := by decide +kernel
  refine ⟨_, _, term_eq_ok_iff.mpr ⟨_, hcolumn, rfl⟩, term_eq_ok_iff.mpr ⟨_, hcolumn, rfl⟩,
    by decide +kernel, by decide +kernel, template_means false m ⟨"age"⟩ Value.same (.int 2),
    template_means true m ⟨"age"⟩ Value.same (.int 2), ?_⟩
  rintro ⟨w, hw, hnull, hsame⟩
  simp only [m, List.mem_cons, List.not_mem_nil, or_false] at hw
  rcases hw with rfl | rfl
  · exact absurd hsame (by decide)
  · cases hnull

end MemberList
end TableAccess
