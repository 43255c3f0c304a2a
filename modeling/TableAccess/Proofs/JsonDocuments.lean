import TableAccess.Proofs.KeyedEntries
import TableAccess.Value.Basic

/-!
# Documents of JSON values

The document that is made of a value stands for this value again, as long as no object in it
repeats a key. `Value.isPlain` tells which scalars JSON has a form of its own for; these are read
back from their documents. `Document.same` compares documents, which says what a given text is.
-/

namespace TableAccess
namespace Json

mutual

/-- No object in the value has two members under one key. -/
def hasDistinctKeys : Json → Bool
  | array items => itemsHaveDistinctKeys items
  | object members => decide (Entries.keys members).Nodup && membersHaveDistinctKeys members
  | _ => true

def itemsHaveDistinctKeys : List Json → Bool
  | [] => true
  | j :: js => hasDistinctKeys j && itemsHaveDistinctKeys js

def membersHaveDistinctKeys : List (String × Json) → Bool
  | [] => true
  | (_, j) :: js => hasDistinctKeys j && membersHaveDistinctKeys js

end

lemma membersHaveDistinctKeys_set {members : List (String × Json)} {j : Json}
    (hmembers : membersHaveDistinctKeys members = true) (hj : j.hasDistinctKeys = true)
    (key : String) : membersHaveDistinctKeys (Entries.set key j members) = true := by
  induction members with
  | nil => simp [Entries.set, membersHaveDistinctKeys, hj]
  | cons member rest ih =>
    obtain ⟨k, i⟩ := member
    rw [membersHaveDistinctKeys, Bool.and_eq_true] at hmembers
    rw [Entries.set]
    split
    · simp [membersHaveDistinctKeys, hj, hmembers.2]
    · simp [membersHaveDistinctKeys, hmembers.1, ih hmembers.2]

lemma membersHaveDistinctKeys_setAll {members pairs : List (String × Json)}
    (hmembers : membersHaveDistinctKeys members = true)
    (hpairs : membersHaveDistinctKeys pairs = true) :
    membersHaveDistinctKeys (Entries.setAll members pairs) = true := by
  induction pairs generalizing members with
  | nil => exact hmembers
  | cons pair rest ih =>
    obtain ⟨key, j⟩ := pair
    rw [membersHaveDistinctKeys, Bool.and_eq_true] at hpairs
    exact ih (membersHaveDistinctKeys_set hmembers hpairs.1 key) hpairs.2

end Json

namespace Document

mutual

theorem toJson?_ofJson (j : Json) (h : j.hasDistinctKeys = true) :
    (ofJson j).toJson? = some j := by
  cases j with
  | array items =>
    rw [Json.hasDistinctKeys] at h
    simp [ofJson, toJson?, itemsToJson?_ofItems items h]
  | object members =>
    rw [Json.hasDistinctKeys, Bool.and_eq_true, decide_eq_true_iff] at h
    simp [ofJson, toJson?, membersToJson?_ofMembers members h.2, Entries.ofList_of_nodup h.1]
  | _ => rfl

lemma itemsToJson?_ofItems (items : List Json) (h : Json.itemsHaveDistinctKeys items = true) :
    itemsToJson? (ofItems items) = some items := by
  cases items with
  | nil => rfl
  | cons j js =>
    rw [Json.itemsHaveDistinctKeys, Bool.and_eq_true] at h
    simp [ofItems, itemsToJson?, toJson?_ofJson j h.1, itemsToJson?_ofItems js h.2]

lemma membersToJson?_ofMembers (members : List (String × Json))
    (h : Json.membersHaveDistinctKeys members = true) :
    membersToJson? (ofMembers members) = some members := by
  cases members with
  | nil => rfl
  | cons member js =>
    obtain ⟨key, j⟩ := member
    rw [Json.membersHaveDistinctKeys, Bool.and_eq_true] at h
    simp [ofMembers, membersToJson?, toJson?_ofJson j h.1, membersToJson?_ofMembers js h.2]

end

mutual

/-- In the value of a document no object repeats a key, even where the document does. -/
theorem hasDistinctKeys_of_toJson? (d : Document) {j : Json} (h : d.toJson? = some j) :
    j.hasDistinctKeys = true := by
  cases d with
  | array items closed =>
    cases closed with
    | false => simp [toJson?] at h
    | true =>
      simp only [toJson?, if_true, Option.map_eq_some_iff] at h
      obtain ⟨values, hvalues, rfl⟩ := h
      exact itemsHaveDistinctKeys_of_toJson? items hvalues
  | object members closed =>
    cases closed with
    | false => simp [toJson?] at h
    | true =>
      simp only [toJson?, if_true, Option.map_eq_some_iff] at h
      obtain ⟨pairs, hpairs, rfl⟩ := h
      have hmembers := membersHaveDistinctKeys_of_toJson? members hpairs
      rw [Json.hasDistinctKeys, Bool.and_eq_true, decide_eq_true_iff]
      exact ⟨Entries.keys_ofList_nodup, Json.membersHaveDistinctKeys_setAll rfl hmembers⟩
  | refused | broken => simp [toJson?] at h
  | _ =>
    cases h
    rfl

lemma itemsHaveDistinctKeys_of_toJson? (items : List Document) {values : List Json}
    (h : itemsToJson? items = some values) : Json.itemsHaveDistinctKeys values = true := by
  cases items with
  | nil =>
    cases h
    rfl
  | cons d ds =>
    simp only [itemsToJson?, Option.bind_eq_bind, Option.bind_eq_some_iff, Option.pure_def,
      Option.some.injEq] at h
    obtain ⟨j, hj, js, hjs, rfl⟩ := h
    rw [Json.itemsHaveDistinctKeys, hasDistinctKeys_of_toJson? d hj,
      itemsHaveDistinctKeys_of_toJson? ds hjs, Bool.and_self]

lemma membersHaveDistinctKeys_of_toJson? (members : List (Option String × Document))
    {pairs : List (String × Json)} (h : membersToJson? members = some pairs) :
    Json.membersHaveDistinctKeys pairs = true := by
  cases members with
  | nil =>
    cases h
    rfl
  | cons member ds =>
    obtain ⟨key?, d⟩ := member
    simp only [membersToJson?, Option.bind_eq_bind, Option.bind_eq_some_iff, Option.pure_def,
      Option.some.injEq] at h
    obtain ⟨key, -, j, hj, js, hjs, rfl⟩ := h
    rw [Json.membersHaveDistinctKeys, hasDistinctKeys_of_toJson? d hj,
      membersHaveDistinctKeys_of_toJson? ds hjs, Bool.and_self]

end

/-! ### Documents that are the same -/

mutual

/-- The documents have the same form and the same parts. -/
def same : Document → Document → Bool
  | null, null | refused, refused | broken, broken => true
  | bool a, bool b => a == b
  | int m, int n => m == n
  | float x, float y => x == y
  | string s, string t => s == t
  | array xs c, array ys d => sameItems xs ys && c == d
  | object xs c, object ys d => sameMembers xs ys && c == d
  | _, _ => false

def sameItems : List Document → List Document → Bool
  | [], [] => true
  | x :: xs, y :: ys => same x y && sameItems xs ys
  | _, _ => false

def sameMembers : List (Option String × Document) → List (Option String × Document) → Bool
  | [], [] => true
  | (k, x) :: xs, (l, y) :: ys => k == l && same x y && sameMembers xs ys
  | _, _ => false

end

mutual

lemma eq_of_same {d e : Document} (h : d.same e = true) : d = e := by
  cases d <;> cases e <;> simp [same] at h ⊢
  case bool | int | float | string => exact h
  case array => exact ⟨eq_of_sameItems h.1, h.2⟩
  case object => exact ⟨eq_of_sameMembers h.1, h.2⟩

lemma eq_of_sameItems : ∀ {ds es : List Document}, sameItems ds es = true → ds = es
  | [], [], _ => rfl
  | d :: ds, e :: es, h => by
    simp only [sameItems, Bool.and_eq_true] at h
    rw [eq_of_same h.1, eq_of_sameItems h.2]

lemma eq_of_sameMembers : ∀ {ds es : List (Option String × Document)},
    sameMembers ds es = true → ds = es
  | [], [], _ => rfl
  | (k, d) :: ds, (l, e) :: es, h => by
    simp only [sameMembers, Bool.and_eq_true, beq_iff_eq] at h
    rw [h.1.1, eq_of_same h.1.2, eq_of_sameMembers h.2]

end

lemma parse_eq_of_same {cs : List Char} {d : Document} (h : (parse cs).1.same d = true)
    (hall : (parse cs).2 = true) : parse cs = (d, true) :=
  Prod.ext (eq_of_same h) hall

end Document

namespace Value

/-- JSON has a form of its own for the value, which is no number or text if it is kept as JSON. -/
def isPlain : Value → Bool
  | null | bool _ | int _ | text _ => true
  | float x => x.isFinite
  | json (.array items) => (Json.array items).hasDistinctKeys
  | json (.object members) => (Json.object members).hasDistinctKeys
  | _ => false

/-- A plain value is read back from its JSON form. -/
theorem ofDocument_toJson {v : Value} (h : v.isPlain = true) :
    ofDocument (.ofJson v.toJson) = .ok v := by
  cases v with
  | int n =>
    have hbound : n.toInt < 9223372036854775808 := n.toInt_lt
    simp [toJson, Document.ofJson, ofDocument, hbound]
  | json j =>
    cases j with
    | array | object =>
      have hvalue := Document.toJson?_ofJson _ h
      simp only [Document.ofJson] at hvalue
      simp only [toJson, Document.ofJson, ofDocument, hvalue]
    | _ => simp [isPlain] at h
  | null | bool | float | text => rfl
  | _ => simp [isPlain] at h

end Value
end TableAccess
