import Mathlib.Algebra.GroupWithZero.Nat
import Mathlib.Data.List.Basic
import Mathlib.Data.List.DropRight

namespace CodexGate.Foundation

def replacementChar : Char := Char.ofNat 0xFFFD

def isContinuation (b : UInt8) : Bool := 0x80 ≤ b.toNat ∧ b.toNat ≤ 0xBF

def secondOfThree (first second : UInt8) : Bool :=
  let b := second.toNat
  match first.toNat with
  | 0xE0 => 0xA0 ≤ b ∧ b ≤ 0xBF
  | 0xED => 0x80 ≤ b ∧ b ≤ 0x9F
  | _ => isContinuation second

def secondOfFour (first second : UInt8) : Bool :=
  let b := second.toNat
  match first.toNat with
  | 0xF0 => 0x90 ≤ b ∧ b ≤ 0xBF
  | 0xF4 => 0x80 ≤ b ∧ b ≤ 0x8F
  | _ => isContinuation second

def lowBits (b : UInt8) (bits : Nat) : Nat := b.toNat % 2 ^ bits

/-- The character that starts with `first`, and how many of the bytes after it belong to it. Of
an ill-formed sequence the longest prefix that a character could start with is one replacement
character. -/
def decodeChar (first : UInt8) (rest : List UInt8) : Char × Nat :=
  let n := first.toNat
  if n < 0x80 then (Char.ofNat n, 0)
  else if 0xC2 ≤ n ∧ n ≤ 0xDF then
    match rest with
    | second :: _ =>
      if isContinuation second then (Char.ofNat (lowBits first 5 * 2 ^ 6 + lowBits second 6), 1)
      else (replacementChar, 0)
    | [] => (replacementChar, 0)
  else if 0xE0 ≤ n ∧ n ≤ 0xEF then
    match rest with
    | second :: third :: _ =>
      if secondOfThree first second then
        if isContinuation third then
          (Char.ofNat (lowBits first 4 * 2 ^ 12 + lowBits second 6 * 2 ^ 6 + lowBits third 6), 2)
        else (replacementChar, 1)
      else (replacementChar, 0)
    | [second] => (replacementChar, if secondOfThree first second then 1 else 0)
    | [] => (replacementChar, 0)
  else if 0xF0 ≤ n ∧ n ≤ 0xF4 then
    match rest with
    | second :: third :: fourth :: _ =>
      if secondOfFour first second then
        if isContinuation third then
          if isContinuation fourth then
            (Char.ofNat (lowBits first 3 * 2 ^ 18 + lowBits second 6 * 2 ^ 12 +
              lowBits third 6 * 2 ^ 6 + lowBits fourth 6), 3)
          else (replacementChar, 2)
        else (replacementChar, 1)
      else (replacementChar, 0)
    | [second, third] =>
      (replacementChar,
        if secondOfFour first second then if isContinuation third then 2 else 1 else 0)
    | [second] => (replacementChar, if secondOfFour first second then 1 else 0)
    | [] => (replacementChar, 0)
  else (replacementChar, 0)

/-- Decodes at most `fuel` characters; a character takes at least one byte. -/
def decodeLossy : Nat → List UInt8 → List Char
  | 0, _ => []
  | _, [] => []
  | fuel + 1, first :: rest =>
    (decodeChar first rest).1 :: decodeLossy fuel (rest.drop (decodeChar first rest).2)

def fromUtf8Lossy (bytes : List UInt8) : String :=
  String.ofList (decodeLossy bytes.length bytes)

def utf8Bytes (text : String) : List UInt8 := text.toUTF8.data.toList

/-! `str::trim`, which strips the characters with the Unicode property `White_Space`. -/

def isWhitespace (c : Char) : Bool :=
  let n := c.toNat
  (0x9 ≤ n ∧ n ≤ 0xD) ∨ n = 0x20 ∨ n = 0x85 ∨ n = 0xA0 ∨ n = 0x1680 ∨
    (0x2000 ≤ n ∧ n ≤ 0x200A) ∨ n = 0x2028 ∨ n = 0x2029 ∨ n = 0x202F ∨ n = 0x205F ∨ n = 0x3000

def trim (text : String) : String :=
  String.ofList ((text.toList.dropWhile isWhitespace).reverse.dropWhile isWhitespace).reverse

def startsWith (text start : String) : Bool := start.toList.isPrefixOf text.toList

def endsWith (text ending : String) : Bool := ending.toList.isSuffixOf text.toList

def contains (text part : String) : Bool := text.toList.tails.any part.toList.isPrefixOf

def toAsciiLowercase (text : String) : String := String.ofList (text.toList.map Char.toLower)

/-! Lengths and slices of a `String` count the bytes of its UTF-8 encoding. -/

def charsLength (chars : List Char) : Nat := (chars.map Char.utf8Size).sum

def byteLength (text : String) : Nat := charsLength text.toList

def dropBytes : Nat → List Char → List Char
  | 0, chars => chars
  | _, [] => []
  | n + 1, c :: chars => dropBytes (n + 1 - c.utf8Size) chars

def sliceFrom (text : String) (n : Nat) : String := String.ofList (dropBytes n text.toList)

/-- The characters in the first `n` bytes, if a character ends there. -/
def takeBytes : Nat → List Char → Option (List Char)
  | 0, _ => some []
  | _ + 1, [] => none
  | n + 1, c :: chars =>
    if c.utf8Size ≤ n + 1 then (takeBytes (n + 1 - c.utf8Size) chars).map (c :: ·) else none

def isCharBoundary (text : String) (n : Nat) : Bool := (takeBytes n text.toList).isSome

/-- `String::truncate`, which panics inside a character. -/
def truncate (text : String) (n : Nat) : Option String :=
  if n ≤ byteLength text then (takeBytes n text.toList).map String.ofList else some text

theorem trim_toList (text : String) :
    (trim text).toList = (text.toList.dropWhile isWhitespace).rdropWhile isWhitespace := by
  rw [trim, String.toList_ofList]
  rfl

theorem trim_trim (text : String) : trim (trim text) = trim text := by
  have start : (trim text).toList.dropWhile isWhitespace = (trim text).toList := by
    rw [List.dropWhile_eq_self_iff]
    intro written
    have inside : (trim text).toList <+: text.toList.dropWhile isWhitespace := by
      rw [trim_toList]
      exact List.rdropWhile_prefix isWhitespace _
    rw [inside.getElem]
    exact List.dropWhile_eq_self_iff.mp (List.dropWhile_idempotent isWhitespace _) _
  apply String.toList_injective
  rw [trim_toList, start, trim_toList, List.rdropWhile_idempotent]

theorem charsLength_append (chars more : List Char) :
    charsLength (chars ++ more) = charsLength chars + charsLength more := by
  simp [charsLength]

theorem dropBytes_charsLength (chars more : List Char) :
    dropBytes (charsLength chars) (chars ++ more) = more := by
  induction chars with
  | nil => simp [charsLength, dropBytes]
  | cons c chars ih =>
    have positive := Char.utf8Size_pos c
    have length : charsLength (c :: chars) = charsLength chars + c.utf8Size := by
      simp [charsLength, Nat.add_comm]
    obtain ⟨n, whole⟩ : ∃ n, charsLength (c :: chars) = n + 1 :=
      ⟨charsLength (c :: chars) - 1, by omega⟩
    have left : n + 1 - c.utf8Size = charsLength chars := by omega
    rw [whole, List.cons_append, dropBytes, left, ih]

theorem sliceFrom_append (text more : String) : sliceFrom (text ++ more) (byteLength text) = more := by
  rw [sliceFrom, byteLength, String.toList_append, dropBytes_charsLength, String.ofList_toList]

theorem byteLength_append (text more : String) :
    byteLength (text ++ more) = byteLength text + byteLength more := by
  rw [byteLength, String.toList_append, charsLength_append, byteLength, byteLength]

theorem charsLength_eq_zero {chars : List Char} : charsLength chars = 0 ↔ chars = [] := by
  cases chars with
  | nil => simp [charsLength]
  | cons c chars =>
    have positive := Char.utf8Size_pos c
    simp only [charsLength, List.map_cons, List.sum_cons, reduceCtorEq, iff_false]
    omega

theorem byteLength_eq_zero {text : String} : byteLength text = 0 ↔ text = "" := by
  rw [byteLength, charsLength_eq_zero, String.toList_eq_nil_iff]

theorem takeBytes_prefix {n : Nat} {chars taken : List Char} (ended : takeBytes n chars = some taken) :
    taken <+: chars ∧ charsLength taken = n := by
  induction chars generalizing n taken with
  | nil =>
    cases n with
    | zero =>
      cases ended
      exact ⟨List.nil_prefix, rfl⟩
    | succ n => cases ended
  | cons c chars ih =>
    cases n with
    | zero =>
      cases ended
      exact ⟨List.nil_prefix, rfl⟩
    | succ n =>
      rw [takeBytes] at ended
      split at ended
      · next fits =>
        obtain ⟨rest, shorter, same⟩ := Option.map_eq_some_iff.mp ended
        subst same
        obtain ⟨starts, length⟩ := ih shorter
        refine ⟨List.cons_prefix_cons.mpr ⟨rfl, starts⟩, ?_⟩
        have whole : charsLength (c :: rest) = c.utf8Size + charsLength rest := by
          simp [charsLength]
        omega
      · cases ended

theorem append_ne_empty {text : String} (more : String) (written : text ≠ "") : text ++ more ≠ "" := by
  intro empty
  have length := byteLength_append text more
  rw [empty] at length
  have nothing : byteLength text = 0 := by
    have zero : byteLength "" = 0 := rfl
    omega
  exact written (byteLength_eq_zero.mp nothing)

example : fromUtf8Lossy [0x68, 0xC3, 0xA9, 0xE2, 0x82, 0x21, 0xFF] = "hé\uFFFD!\uFFFD" := by decide

/-- A header name in lower case, as the `http` crate keeps it. -/
abbrev HeaderName := String

abbrev HeaderValue := List UInt8

abbrev HeaderMap := List (HeaderName × HeaderValue)

/-- Only visible ASCII characters, spaces and tabs are read as text. -/
def HeaderValue.toStr (value : HeaderValue) : Option String :=
  if value.all fun byte => 32 ≤ byte && byte < 127 || byte = 9 then
    some (String.ofList (value.map fun byte => Char.ofNat byte.toNat))
  else none

namespace HeaderMap

def get (headers : HeaderMap) (name : HeaderName) : Option HeaderValue := headers.lookup name

def text (headers : HeaderMap) (name : HeaderName) : Option String :=
  (headers.get name).bind HeaderValue.toStr

def values (headers : HeaderMap) (name : HeaderName) : List HeaderValue :=
  (headers.filter fun header => header.1 = name).map Prod.snd

def remove (headers : HeaderMap) (name : HeaderName) : HeaderMap :=
  headers.filter fun header => header.1 ≠ name

def insert (headers : HeaderMap) (name : HeaderName) (value : HeaderValue) : HeaderMap :=
  headers.remove name ++ [(name, value)]

theorem values_remove_of_ne (headers : HeaderMap) {name other : HeaderName} (apart : other ≠ name) :
    (headers.remove name).values other = headers.values other := by
  unfold values remove
  rw [List.filter_filter]
  congr 1
  refine List.filter_congr fun header _ => ?_
  by_cases same : header.1 = other
  · simp [same, apart]
  · simp [same]

theorem values_insert_of_ne (headers : HeaderMap) {name other : HeaderName} (value : HeaderValue)
    (apart : other ≠ name) : (headers.insert name value).values other = headers.values other := by
  have missed : [(name, value)].filter (fun header => header.1 = other) = [] := by
    simpa using apart.symm
  rw [← values_remove_of_ne headers apart]
  unfold insert values
  rw [List.filter_append, missed, List.append_nil]

end HeaderMap

end CodexGate.Foundation
