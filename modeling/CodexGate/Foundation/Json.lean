import CodexGate.Foundation.Machine
import CodexGate.Foundation.SortedMaps
import Mathlib.Data.String.Basic

namespace CodexGate.Foundation

/-- JSON values. A number keeps the text it was written with. -/
inductive Json
  | null
  | bool (value : Bool)
  | number (text : String)
  | string (text : String)
  | array (items : List Json)
  | object (members : List (String × Json))

def parseDigits (digits : List Char) : Option Nat :=
  if digits ≠ [] ∧ digits.all Char.isDigit then some (Nat.ofDigitChars 10 digits 0) else none

def unsignedDigits : List Char → Option Nat
  | '+' :: digits => parseDigits digits
  | digits => parseDigits digits

def signedDigits : List Char → Option Int
  | '-' :: digits => (parseDigits digits).map fun n => -Int.ofNat n
  | digits => (unsignedDigits digits).map Int.ofNat

def parseU64 (text : String) : Option Nat :=
  (unsignedDigits text.toList).filter fun n => n ≤ u64Max

def parseI64 (text : String) : Option Int :=
  (signedDigits text.toList).filter fun n => i64Min ≤ n ∧ n ≤ i64Max

namespace Json

def ofInt (n : Int) : Json := .number (toString n)

def ofNat (n : Nat) : Json := .ofInt n

def ofOption : Option Json → Json
  | some value => value
  | none => .null

def ofOptionString (text : Option String) : Json :=
  .ofOption (text.map .string)

def isNull : Json → Bool
  | .null => true
  | _ => false

def asStr : Json → Option String
  | .string text => some text
  | _ => none

def asI64 : Json → Option Int
  | .number text => parseI64 text
  | _ => none

def asU64 : Json → Option Nat
  | .number text => parseU64 text
  | _ => none

def asArray : Json → Option (List Json)
  | .array items => some items
  | _ => none

def asObject : Json → Option (List (String × Json))
  | .object members => some members
  | _ => none

def get (value : Json) (key : String) : Option Json :=
  match value with
  | .object members => members.lookup key
  | _ => none

def parseIndex (token : String) : Option Nat :=
  match token.toList with
  | ['0'] => some 0
  | '0' :: _ => none
  | digits => parseDigits digits

def pointer (value : Json) : List String → Option Json
  | [] => some value
  | token :: rest =>
    let child := match value with
      | .object members => members.lookup token
      | .array items => (parseIndex token).bind fun index => items[index]?
      | _ => none
    match child with
    | some child => child.pointer rest
    | none => none

def insertMember (key : String) (value : Json) : List (String × Json) → List (String × Json)
  | [] => [(key, value)]
  | (k, v) :: rest => if k = key then (key, value) :: rest else (k, v) :: insertMember key value rest

def insert (value : Json) (key : String) (member : Json) : Json :=
  match value with
  | .object members => .object (insertMember key member members)
  | other => other

def remove (value : Json) (key : String) : Json :=
  match value with
  | .object members => .object (members.filter fun member => member.1 ≠ key)
  | other => other

theorem lookup_insertMember_self (key : String) (value : Json) (members : List (String × Json)) :
    (insertMember key value members).lookup key = some value := by
  induction members with
  | nil => simp [insertMember]
  | cons head rest ih =>
    obtain ⟨k, v⟩ := head
    by_cases same : k = key
    · simp [insertMember, same]
    · have other : (key == k) = false := by simpa using fun equal => same equal.symm
      simp [insertMember, same, List.lookup_cons, other, ih]

theorem lookup_insertMember_of_ne {key other : String} (value : Json)
    (members : List (String × Json)) (different : other ≠ key) :
    (insertMember key value members).lookup other = members.lookup other := by
  have missed : (other == key) = false := by simpa using different
  induction members with
  | nil => simp [insertMember, List.lookup_cons, missed]
  | cons head rest ih =>
    obtain ⟨k, v⟩ := head
    by_cases same : k = key
    · subst same
      simp [insertMember, List.lookup_cons, missed]
    · simp [insertMember, same, List.lookup_cons, ih]

theorem get_insert_self (members : List (String × Json)) (key : String) (member : Json) :
    ((Json.object members).insert key member).get key = some member :=
  lookup_insertMember_self key member members

theorem get_insert_of_ne (value : Json) {key other : String} (member : Json)
    (different : other ≠ key) : (value.insert key member).get other = value.get other := by
  cases value with
  | object members => exact lookup_insertMember_of_ne member members different
  | _ => rfl

theorem lookup_filter_ne (key : String) (members : List (String × Json)) :
    (members.filter fun member => member.1 ≠ key).lookup key = none := by
  rw [List.lookup_eq_none_iff]
  intro member there
  have apart : member.1 ≠ key := by simpa using List.of_mem_filter there
  simpa using fun same => apart same.symm

theorem lookup_filter_of_ne {key other : String} (members : List (String × Json))
    (different : other ≠ key) :
    (members.filter fun member => member.1 ≠ key).lookup other = members.lookup other := by
  induction members with
  | nil => rfl
  | cons head rest ih =>
    obtain ⟨k, v⟩ := head
    by_cases same : k = key
    · have missed : (other == key) = false := by simpa using different
      simp [same, List.lookup_cons, missed, ← ih]
    · simp [same, List.lookup_cons, ← ih]

theorem get_remove_self (value : Json) (key : String) : (value.remove key).get key = none := by
  cases value with
  | object members => exact lookup_filter_ne key members
  | _ => rfl

theorem get_remove_of_ne (value : Json) {key other : String} (different : other ≠ key) :
    (value.remove key).get other = value.get other := by
  cases value with
  | object members => exact lookup_filter_of_ne members different
  | _ => rfl

theorem pointer_cons {value child : Json} {token : String} (found : value.get token = some child)
    (rest : List String) : value.pointer (token :: rest) = child.pointer rest := by
  cases value with
  | object members =>
    have member : members.lookup token = some child := found
    simp only [pointer, member]
  | _ => simp [get] at found

theorem pointer_singleton (value : Json) {token : String} (notIndex : parseIndex token = none) :
    value.pointer [token] = value.get token := by
  cases value with
  | object members =>
    simp only [pointer, get]
    cases members.lookup token <;> rfl
  | array items => simp [pointer, get, notIndex]
  | _ => rfl

@[simp]
theorem asStr_string (text : String) : (Json.string text).asStr = some text := rfl

theorem parseDigits_toDigits (n : Nat) : parseDigits (Nat.toDigits 10 n) = some n := by
  have digits : (Nat.toDigits 10 n).all Char.isDigit := by
    rw [List.all_eq_true]
    intro c member
    exact Nat.isDigit_of_mem_toDigits (by decide) (by decide) member
  have written : Nat.toDigits 10 n ≠ [] := Nat.toDigits_ne_nil
  rw [parseDigits, if_pos ⟨written, digits⟩, Nat.ofDigitChars_ten_toDigits]

theorem toDigits_head_ne {n : Nat} {c : Char} {rest : List Char} (sign : c.isDigit = false) :
    Nat.toDigits 10 n ≠ c :: rest := by
  intro written
  have digit := @Nat.isDigit_of_mem_toDigits 10 n c (by decide) (by decide) (by simp [written])
  simp [sign] at digit

theorem unsignedDigits_toDigits (n : Nat) : unsignedDigits (Nat.toDigits 10 n) = some n := by
  unfold unsignedDigits
  split
  · next written => exact absurd written (toDigits_head_ne (by decide))
  · exact parseDigits_toDigits n

theorem signedDigits_toDigits (n : Nat) : signedDigits (Nat.toDigits 10 n) = some (n : Int) := by
  unfold signedDigits
  split
  · next written => exact absurd written (toDigits_head_ne (by decide))
  · rw [unsignedDigits_toDigits, Option.map_some, Int.ofNat_eq_natCast]

theorem signedDigits_toString (n : Int) : signedDigits (toString n).toList = some n := by
  cases n with
  | ofNat n =>
    have text : (toString (Int.ofNat n)).toList = Nat.toDigits 10 n := by
      change (Nat.repr n).toList = _
      simp [Nat.repr]
    rw [text, signedDigits_toDigits]
    rfl
  | negSucc n =>
    have text : (toString (Int.negSucc n)).toList = '-' :: Nat.toDigits 10 (n + 1) := by
      change ("-" ++ Nat.repr (n + 1)).toList = _
      simp [Nat.repr]
    rw [text, signedDigits, parseDigits_toDigits]
    rfl

theorem asI64_ofInt {n : Int} (low : i64Min ≤ n) (high : n ≤ i64Max) :
    (Json.ofInt n).asI64 = some n := by
  rw [ofInt, asI64, parseI64, signedDigits_toString]
  simp only [Option.filter_some, low, high, and_self, decide_true, if_true]

theorem asI64_fits {value : Json} {n : Int} (read : value.asI64 = some n) :
    i64Min ≤ n ∧ n ≤ i64Max := by
  cases value with
  | number text =>
    simp only [asI64, parseI64, Option.filter_eq_some_iff, decide_eq_true_eq] at read
    exact read.2
  | _ => simp [asI64] at read

end Json

end CodexGate.Foundation

namespace CodexGate.Foundation.Json

open SortedMaps

/-- The objects hold every key once, in order, as the maps of `serde_json` do. -/
inductive Ordered : Json → Prop
  | null : Ordered .null
  | bool (value : Bool) : Ordered (.bool value)
  | number (text : String) : Ordered (.number text)
  | string (text : String) : Ordered (.string text)
  | array {items : List Json} (each : ∀ item ∈ items, Ordered item) : Ordered (.array items)
  | object {members : List (String × Json)} (increasing : Increasing members)
    (each : ∀ member ∈ members, Ordered member.2) : Ordered (.object members)

def entries : Option Json → List (String × Json)
  | some (.object members) => members
  | _ => []

theorem Ordered.items {items : List Json} (ordered : Ordered (.array items)) {item : Json}
    (member : item ∈ items) : Ordered item := by
  cases ordered with
  | array each => exact each item member

theorem Ordered.increasing {members : List (String × Json)} (ordered : Ordered (.object members)) :
    Increasing members := by
  cases ordered with
  | object increasing _ => exact increasing

theorem Ordered.get {value found : Json} {key : String} (ordered : Ordered value)
    (read : value.get key = some found) : Ordered found := by
  cases ordered with
  | object _ each => exact each _ (mem_of_lookup read)
  | _ => cases read

mutual

def same : Json → Json → Bool
  | .null, .null => true
  | .bool a, .bool b => a == b
  | .number a, .number b | .string a, .string b => a == b
  | .array items, .array others => sameItems items others
  | .object members, .object others => sameMembers members others
  | _, _ => false

def sameItems : List Json → List Json → Bool
  | [], [] => true
  | item :: items, other :: others => same item other && sameItems items others
  | _, _ => false

def sameMembers : List (String × Json) → List (String × Json) → Bool
  | [], [] => true
  | (key, value) :: members, (key', other) :: others =>
    key == key' && same value other && sameMembers members others
  | _, _ => false

end

mutual

theorem same_iff : (value other : Json) → same value other = true ↔ value = other
  | .null, other => by cases other <;> simp [same]
  | .bool _, other | .number _, other | .string _, other => by cases other <;> simp [same]
  | .array items, other => by
    cases other with
    | array others => simp [same, sameItems_iff items others]
    | _ => simp [same]
  | .object members, other => by
    cases other with
    | object others => simp [same, sameMembers_iff members others]
    | _ => simp [same]

theorem sameItems_iff : (items others : List Json) → sameItems items others = true ↔ items = others
  | [], others => by cases others <;> simp [sameItems]
  | item :: items, others => by
    cases others with
    | nil => simp [sameItems]
    | cons other others => simp [sameItems, same_iff item other, sameItems_iff items others]

theorem sameMembers_iff :
    (members others : List (String × Json)) → sameMembers members others = true ↔ members = others
  | [], others => by cases others <;> simp [sameMembers]
  | (key, value) :: members, others => by
    cases others with
    | nil => simp [sameMembers]
    | cons other others =>
      obtain ⟨key', other⟩ := other
      simp [sameMembers, same_iff value other, sameMembers_iff members others]

end

instance : DecidableEq Json := fun value other => decidable_of_iff _ (same_iff value other)

end CodexGate.Foundation.Json

namespace CodexGate.Foundation

abbrev JsonValue := { json : Json // json.Ordered }

end CodexGate.Foundation
