import Provisioning.Text.Base64
import Provisioning.Text.Utf8
import Std.Data.ExtTreeMap
set_option autoImplicit false

/-!
# Attribute values

A value is a text or a sequence of bytes.  Resources deliver the same value sometimes as the one and sometimes
as the other, so values are compared through their bytes: `Value.Alike`.  Multi-valued attributes carry no order
either, so their value lists are compared as multisets of bytes: `sameValues`.
-/

namespace Provisioning

open Text

/-- One value of an attribute. -/
inductive Value where
  | text (content : String)
  | octets (content : List UInt8)
  deriving DecidableEq, Repr, Inhabited

namespace Value

/-- The bytes of a value, by which values are compared. -/
def toBytes : Value → List UInt8
  | text s => utf8 s
  | octets b => b

/-- The value as text, if its bytes are text. -/
def asText? : Value → Option String
  | text s => some s
  | octets b => ofUtf8? b

/-- How a value is displayed: text as it is, bytes as base64. -/
def display : Value → String
  | text s => s
  | octets b => Base64.encode b

/-- The value as text; only bytes that are no text come out as base64. -/
def toText (v : Value) : String := v.asText?.getD v.display

/-- Two values are alike when they consist of the same bytes. -/
def Alike (v w : Value) : Prop := v.toBytes = w.toBytes

instance (v w : Value) : Decidable (v.Alike w) := inferInstanceAs (Decidable (_ = _))

/-- Whether two values are alike. -/
def alike (v w : Value) : Bool := decide (v.Alike w)

@[simp] theorem alike_iff {v w : Value} : v.alike w = true ↔ v.Alike w := by simp [alike]

theorem Alike.refl (v : Value) : v.Alike v := rfl

theorem Alike.symm {v w : Value} (h : v.Alike w) : w.Alike v := Eq.symm h

theorem Alike.trans {u v w : Value} (h : u.Alike v) (h' : v.Alike w) : u.Alike w := Eq.trans h h'

theorem asText?_eq_ofUtf8? (v : Value) : v.asText? = ofUtf8? v.toBytes := by
  cases v <;> simp [asText?, toBytes]

theorem toText_eq (v : Value) : v.toText = (ofUtf8? v.toBytes).getD (Base64.encode v.toBytes) := by
  rw [toText, asText?_eq_ofUtf8?]
  cases v <;> simp [toBytes, display]

@[simp] theorem toText_text (s : String) : (text s).toText = s := rfl

/-- Text depends on the bytes alone. -/
theorem Alike.toText_eq {v w : Value} (h : v.Alike w) : v.toText = w.toText := by
  rw [Value.toText_eq, Value.toText_eq, show v.toBytes = w.toBytes from h]

end Value

/-- How often every item of a list occurs in it. -/
def occurrences (items : List (List UInt8)) : Std.ExtTreeMap (List UInt8) Nat :=
  items.foldl (fun counts item => counts.alter item fun n => some (n.getD 0 + 1)) ∅

/-- Whether two value lists hold the same bytes equally often, in whatever order. -/
def sameValues (left right : List Value) : Bool :=
  left.length == right.length && occurrences (left.map Value.toBytes) == occurrences (right.map Value.toBytes)

section Occurrences

variable {items items' : List (List UInt8)}

theorem getElem?_foldl_alter (items : List (List UInt8)) (counts : Std.ExtTreeMap (List UInt8) Nat)
    (item : List UInt8) :
    (items.foldl (fun counts item => counts.alter item fun n => some (n.getD 0 + 1)) counts)[item]? =
      if item ∈ items then some (counts[item]?.getD 0 + items.count item) else counts[item]? := by
  induction items generalizing counts with
  | nil => simp
  | cons first rest ih =>
    rw [List.foldl_cons, ih, Std.ExtTreeMap.getElem?_alter]
    by_cases hfirst : first = item
    · subst hfirst
      by_cases hrest : first ∈ rest
      · simp only [Std.compare_self, if_true, if_pos hrest, List.mem_cons, true_or, Option.getD_some,
          List.count_cons_self]
        congr 1
        omega
      · simp [hrest, List.count_eq_zero_of_not_mem]
    · by_cases hrest : item ∈ rest <;> simp [hrest, hfirst, Ne.symm hfirst]

theorem getElem?_occurrences (items : List (List UInt8)) (item : List UInt8) :
    (occurrences items)[item]? = if item ∈ items then some (items.count item) else none := by
  rw [occurrences, getElem?_foldl_alter]
  simp

/-- Items occur equally often in lists that are reorderings of each other, and in no others. -/
theorem occurrences_eq_iff_perm : occurrences items = occurrences items' ↔ items.Perm items' := by
  constructor
  · intro h
    have hcount : ∀ items item, ((occurrences items)[item]?).getD 0 = items.count item := by
      intro items item
      rw [getElem?_occurrences]
      split
      · rfl
      · rename_i habsent
        exact (List.count_eq_zero_of_not_mem habsent).symm
    refine List.perm_iff_count.mpr fun item => ?_
    rw [← hcount items, h, hcount items']
  · intro h
    refine Std.ExtTreeMap.ext_getElem? fun item => ?_
    simp only [getElem?_occurrences, h.count_eq, h.mem_iff]

end Occurrences

/-- Value lists are the same if the bytes of the one are a reordering of the bytes of the other. -/
theorem sameValues_iff_perm {left right : List Value} :
    sameValues left right = true ↔ (left.map Value.toBytes).Perm (right.map Value.toBytes) := by
  rw [sameValues, Bool.and_eq_true, beq_iff_eq, beq_iff_eq, occurrences_eq_iff_perm, and_iff_right_iff_imp]
  intro h
  simpa using h.length_eq

theorem sameValues_refl (values : List Value) : sameValues values values = true :=
  sameValues_iff_perm.mpr (List.Perm.refl _)

/-- The text of the first value. -/
def firstText? (values : List Value) : Option String := values.head?.map Value.toText

end Provisioning
