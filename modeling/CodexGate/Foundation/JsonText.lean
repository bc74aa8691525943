import CodexGate.Foundation.Json
import Mathlib.Data.List.TakeWhile

namespace CodexGate.Foundation.JsonText

abbrev Bytes := List UInt8

abbrev quote : UInt8 := 34
abbrev comma : UInt8 := 44
abbrev colon : UInt8 := 58
abbrev openBracket : UInt8 := 91
abbrev backslash : UInt8 := 92
abbrev closeBracket : UInt8 := 93
abbrev openBrace : UInt8 := 123
abbrev closeBrace : UInt8 := 125

def isBlank (byte : UInt8) : Bool := byte ∈ [9, 10, 13, 32]

/-- A byte of `null`, `true`, `false` or a number: one that neither separates nor quotes. -/
def isWordByte (byte : UInt8) : Bool :=
  32 < byte && byte ∉ [quote, comma, colon, openBracket, closeBracket, openBrace, closeBrace]

def closes : Bool → Bytes → Bool
  | escape, [] => !escape
  | true, _ :: rest => closes false rest
  | false, byte :: rest =>
    if byte = backslash then closes true rest
    else if byte = quote then false
    else closes false rest

structure Gap where
  bytes : Bytes
  blank : ∀ byte ∈ bytes, isBlank byte = true

structure Word where
  bytes : Bytes
  written : bytes ≠ []
  word : ∀ byte ∈ bytes, isWordByte byte = true

structure Spelling where
  bytes : Bytes
  closed : closes false bytes = true

structure Label where
  before : Gap
  key : Spelling
  afterKey : Gap
  beforeValue : Gap

mutual

inductive Doc
  | word (word : Word)
  | text (spelling : Spelling)
  | emptyArray (gap : Gap)
  | array (elements : Elements)
  | emptyObject (gap : Gap)
  | object (members : Members)

inductive Elements
  | last (before : Gap) (value : Doc) (after : Gap)
  | more (before : Gap) (value : Doc) (after : Gap) (rest : Elements)

inductive Members
  | last (label : Label) (value : Doc) (after : Gap)
  | more (label : Label) (value : Doc) (after : Gap) (rest : Members)

end

structure Text where
  before : Gap
  value : Doc
  after : Gap

def Spelling.onto (spelling : Spelling) (rest : Bytes) : Bytes :=
  quote :: (spelling.bytes ++ quote :: rest)

def Label.onto (label : Label) (rest : Bytes) : Bytes :=
  label.before.bytes ++ label.key.onto (label.afterKey.bytes ++
    colon :: (label.beforeValue.bytes ++ rest))

mutual

def Doc.onto : Doc → Bytes → Bytes
  | .word word, rest => word.bytes ++ rest
  | .text spelling, rest => spelling.onto rest
  | .emptyArray gap, rest => openBracket :: (gap.bytes ++ closeBracket :: rest)
  | .array elements, rest => openBracket :: elements.onto (closeBracket :: rest)
  | .emptyObject gap, rest => openBrace :: (gap.bytes ++ closeBrace :: rest)
  | .object members, rest => openBrace :: members.onto (closeBrace :: rest)

def Elements.onto : Elements → Bytes → Bytes
  | .last before value after, rest => before.bytes ++ value.onto (after.bytes ++ rest)
  | .more before value after more, rest =>
    before.bytes ++ value.onto (after.bytes ++ comma :: more.onto rest)

def Members.onto : Members → Bytes → Bytes
  | .last label value after, rest => label.onto (value.onto (after.bytes ++ rest))
  | .more label value after more, rest =>
    label.onto (value.onto (after.bytes ++ comma :: more.onto rest))

end

def Text.bytes (text : Text) : Bytes :=
  text.before.bytes ++ text.value.onto text.after.bytes

theorem Spelling.onto_append (spelling : Spelling) (rest more : Bytes) :
    spelling.onto (rest ++ more) = spelling.onto rest ++ more := by
  simp [Spelling.onto]

theorem Label.onto_append (label : Label) (rest more : Bytes) :
    label.onto (rest ++ more) = label.onto rest ++ more := by
  simp [Label.onto, Spelling.onto]

mutual

theorem Doc.onto_append (doc : Doc) (rest more : Bytes) :
    doc.onto (rest ++ more) = doc.onto rest ++ more := by
  cases doc with
  | word word => exact (List.append_assoc _ _ _).symm
  | text spelling => exact spelling.onto_append rest more
  | emptyArray gap => simp [Doc.onto]
  | array elements =>
    have inner := elements.onto_append (closeBracket :: rest) more
    exact congrArg (openBracket :: ·) inner
  | emptyObject gap => simp [Doc.onto]
  | object members =>
    have inner := members.onto_append (closeBrace :: rest) more
    exact congrArg (openBrace :: ·) inner

theorem Elements.onto_append (elements : Elements) (rest more : Bytes) :
    elements.onto (rest ++ more) = elements.onto rest ++ more := by
  cases elements with
  | last before value after =>
    rw [Elements.onto, Elements.onto, ← List.append_assoc, value.onto_append, List.append_assoc]
  | more before value after others =>
    have inner := others.onto_append rest more
    rw [Elements.onto, Elements.onto, inner, ← List.cons_append, ← List.append_assoc,
      value.onto_append, List.append_assoc]

theorem Members.onto_append (members : Members) (rest more : Bytes) :
    members.onto (rest ++ more) = members.onto rest ++ more := by
  cases members with
  | last label value after =>
    rw [Members.onto, Members.onto, ← List.append_assoc, value.onto_append, label.onto_append]
  | more label value after others =>
    have inner := others.onto_append rest more
    rw [Members.onto, Members.onto, inner, ← List.cons_append, ← List.append_assoc,
      value.onto_append, label.onto_append]

end

def Doc.bytes (doc : Doc) : Bytes := doc.onto []

def Members.bytes (members : Members) : Bytes := members.onto []

theorem Doc.onto_eq (doc : Doc) (rest : Bytes) : doc.onto rest = doc.bytes ++ rest :=
  doc.onto_append [] rest

theorem Members.onto_eq (members : Members) (rest : Bytes) :
    members.onto rest = members.bytes ++ rest :=
  members.onto_append [] rest

def takeGap (input : Bytes) : Gap where
  bytes := input.takeWhile isBlank
  blank _ member := List.mem_takeWhile_imp member

def afterGap (input : Bytes) : Bytes := input.dropWhile isBlank

def untilQuote : Bool → Bytes → Option (Bytes × Bytes)
  | _, [] => none
  | true, byte :: rest => (untilQuote false rest).map fun found => (byte :: found.1, found.2)
  | false, byte :: rest =>
    if byte = quote then some ([], rest)
    else (untilQuote (byte = backslash) rest).map fun found => (byte :: found.1, found.2)

def takeSpelling (input : Bytes) : Option (Spelling × Bytes) :=
  match untilQuote false input with
  | some found =>
    if closed : closes false found.1 = true then some (⟨found.1, closed⟩, found.2) else none
  | none => none

def takeWord (input : Bytes) : Option (Word × Bytes) :=
  if written : input.takeWhile isWordByte ≠ [] then
    some (⟨input.takeWhile isWordByte, written, fun _ member => List.mem_takeWhile_imp member⟩,
      input.dropWhile isWordByte)
  else none

def expect (byte : UInt8) : Bytes → Option Bytes
  | [] => none
  | found :: rest => if found = byte then some rest else none

def takeLabel (input : Bytes) : Option (Label × Bytes) := do
  let rest ← expect quote (afterGap input)
  let (key, rest) ← takeSpelling rest
  let value ← expect colon (afterGap rest)
  return (⟨takeGap input, key, takeGap rest, takeGap value⟩, afterGap value)

mutual

def parseDoc : Nat → Bytes → Option (Doc × Bytes)
  | 0, _ => none
  | _, [] => none
  | fuel + 1, byte :: rest =>
    if byte = quote then (takeSpelling rest).map fun found => (.text found.1, found.2)
    else if byte = openBracket then
      match expect closeBracket (afterGap rest) with
      | some after => some (.emptyArray (takeGap rest), after)
      | none => (parseElements fuel rest).map fun found => (.array found.1, found.2)
    else if byte = openBrace then
      match expect closeBrace (afterGap rest) with
      | some after => some (.emptyObject (takeGap rest), after)
      | none => (parseMembers fuel rest).map fun found => (.object found.1, found.2)
    else (takeWord (byte :: rest)).map fun found => (.word found.1, found.2)

def parseElements : Nat → Bytes → Option (Elements × Bytes)
  | 0, _ => none
  | fuel + 1, input => do
    let (value, rest) ← parseDoc fuel (afterGap input)
    match expect comma (afterGap rest) with
    | some more =>
      let (elements, rest') ← parseElements fuel more
      return (.more (takeGap input) value (takeGap rest) elements, rest')
    | none =>
      let after ← expect closeBracket (afterGap rest)
      return (.last (takeGap input) value (takeGap rest), after)

def parseMembers : Nat → Bytes → Option (Members × Bytes)
  | 0, _ => none
  | fuel + 1, input => do
    let (label, rest) ← takeLabel input
    let (value, rest) ← parseDoc fuel rest
    match expect comma (afterGap rest) with
    | some more =>
      let (members, rest') ← parseMembers fuel more
      return (.more label value (takeGap rest) members, rest')
    | none =>
      let after ← expect closeBrace (afterGap rest)
      return (.last label value (takeGap rest), after)

end

def parse (input : Bytes) : Option Text :=
  match parseDoc (2 * input.length + 1) (afterGap input) with
  | some (value, rest) =>
    if afterGap rest = [] then some ⟨takeGap input, value, takeGap rest⟩ else none
  | none => none

def Solid (rest : Bytes) : Prop := ∀ byte tail, rest = byte :: tail → 32 < byte

def Apart (rest : Bytes) : Prop := ∀ byte tail, rest = byte :: tail → isWordByte byte = false

theorem not_blank {byte : UInt8} (visible : 32 < byte) : isBlank byte = false := by
  rw [isBlank, decide_eq_false_iff_not]
  intro member
  simp only [List.mem_cons, List.not_mem_nil, or_false] at member
  rcases member with same | same | same | same <;> (rw [same] at visible; revert visible; decide)

theorem visible_of_word {byte : UInt8} (word : isWordByte byte = true) : 32 < byte := by
  rw [isWordByte, Bool.and_eq_true, decide_eq_true_iff] at word
  exact word.1

theorem Solid.cons {byte : UInt8} (solid : 32 < byte) (rest : Bytes) :
    Solid (byte :: rest) := by
  rintro _ _ ⟨⟩
  exact solid

theorem takeGap_append_afterGap (input : Bytes) :
    (takeGap input).bytes ++ afterGap input = input :=
  List.takeWhile_append_dropWhile

theorem afterGap_onto (gap : Gap) {rest : Bytes} (solid : Solid rest) :
    afterGap (gap.bytes ++ rest) = rest := by
  rw [afterGap, List.dropWhile_append_of_pos gap.blank]
  cases rest with
  | nil => rfl
  | cons byte tail => exact List.dropWhile_cons_of_neg (by simp [not_blank (solid byte tail rfl)])

theorem takeGap_onto (gap : Gap) {rest : Bytes} (solid : Solid rest) :
    takeGap (gap.bytes ++ rest) = gap := by
  have taken : (gap.bytes ++ rest).takeWhile isBlank = gap.bytes := by
    rw [List.takeWhile_append_of_pos gap.blank]
    cases rest with
    | nil => exact List.append_nil _
    | cons byte tail =>
      rw [List.takeWhile_cons_of_neg (by simp [not_blank (solid byte tail rfl)]), List.append_nil]
  unfold takeGap
  congr

theorem expect_eq_some {byte : UInt8} {input rest : Bytes} :
    expect byte input = some rest ↔ input = byte :: rest := by
  cases input with
  | nil => simp [expect]
  | cons found tail =>
    by_cases same : found = byte
    · simp [expect, same]
    · simp [expect, same]

theorem untilQuote_onto {escape : Bool} {raw : Bytes} (closed : closes escape raw = true)
    (rest : Bytes) : untilQuote escape (raw ++ quote :: rest) = some (raw, rest) := by
  induction raw generalizing escape with
  | nil =>
    cases escape with
    | true => cases closed
    | false => rfl
  | cons byte tail ih =>
    cases escape with
    | true =>
      rw [List.cons_append, untilQuote, ih (by exact closed)]
      rfl
    | false =>
      rw [closes] at closed
      by_cases escaped : byte = backslash
      · rw [if_pos escaped] at closed
        have apart : byte ≠ quote := by
          rw [escaped]
          decide
        rw [List.cons_append, untilQuote, if_neg apart, decide_eq_true escaped, ih closed]
        rfl
      · rw [if_neg escaped] at closed
        by_cases quoted : byte = quote
        · rw [if_pos quoted] at closed
          cases closed
        · rw [if_neg quoted] at closed
          rw [List.cons_append, untilQuote, if_neg quoted, decide_eq_false escaped, ih closed]
          rfl

theorem untilQuote_eq_some {escape : Bool} {input raw rest : Bytes}
    (found : untilQuote escape input = some (raw, rest)) :
    input = raw ++ quote :: rest ∧ closes escape raw = true := by
  induction input generalizing escape raw with
  | nil => cases escape <;> cases found
  | cons byte tail ih =>
    cases escape with
    | true =>
      rw [untilQuote] at found
      obtain ⟨⟨later, left⟩, read, same⟩ := Option.map_eq_some_iff.mp found
      cases same
      obtain ⟨shape, closed⟩ := ih read
      exact ⟨congrArg (byte :: ·) shape, closed⟩
    | false =>
      rw [untilQuote] at found
      by_cases quoted : byte = quote
      · rw [if_pos quoted] at found
        cases found
        exact ⟨congrArg (· :: rest) quoted, rfl⟩
      · rw [if_neg quoted] at found
        obtain ⟨⟨later, left⟩, read, same⟩ := Option.map_eq_some_iff.mp found
        cases same
        obtain ⟨shape, closed⟩ := ih read
        refine ⟨congrArg (byte :: ·) shape, ?_⟩
        by_cases escaped : byte = backslash
        · rw [decide_eq_true escaped] at closed
          rw [closes, if_pos escaped]
          exact closed
        · rw [decide_eq_false escaped] at closed
          rw [closes, if_neg escaped, if_neg quoted]
          exact closed

theorem takeSpelling_onto (spelling : Spelling) (rest : Bytes) :
    takeSpelling (spelling.bytes ++ quote :: rest) = some (spelling, rest) := by
  simp only [takeSpelling, untilQuote_onto spelling.closed, spelling.closed, dif_pos]

theorem takeSpelling_eq_some {input rest : Bytes} {spelling : Spelling}
    (found : takeSpelling input = some (spelling, rest)) :
    input = spelling.bytes ++ quote :: rest := by
  unfold takeSpelling at found
  split at found
  · next read taken =>
    split at found
    · cases found
      exact (untilQuote_eq_some taken).1
    · cases found
  · cases found

theorem takeWord_onto (word : Word) {rest : Bytes} (apart : Apart rest) :
    takeWord (word.bytes ++ rest) = some (word, rest) := by
  have taken : (word.bytes ++ rest).takeWhile isWordByte = word.bytes := by
    rw [List.takeWhile_append_of_pos word.word]
    cases rest with
    | nil => exact List.append_nil _
    | cons byte tail =>
      rw [List.takeWhile_cons_of_neg (by simp [apart byte tail rfl]), List.append_nil]
  have left : (word.bytes ++ rest).dropWhile isWordByte = rest := by
    rw [List.dropWhile_append_of_pos word.word]
    cases rest with
    | nil => rfl
    | cons byte tail => exact List.dropWhile_cons_of_neg (by simp [apart byte tail rfl])
  have written := word.written
  unfold takeWord
  rw [← taken] at written
  rw [dif_pos written]
  congr

theorem takeWord_eq_some {input rest : Bytes} {word : Word}
    (found : takeWord input = some (word, rest)) : input = word.bytes ++ rest := by
  unfold takeWord at found
  split at found
  · cases found
    exact List.takeWhile_append_dropWhile.symm
  · cases found

theorem takeLabel_onto (label : Label) {rest : Bytes} (solid : Solid rest) :
    takeLabel (label.onto rest) = some (label, rest) := by
  have quoted : Solid (label.key.onto (label.afterKey.bytes ++
      colon :: (label.beforeValue.bytes ++ rest))) := Solid.cons (by decide) _
  have separated : Solid (colon :: (label.beforeValue.bytes ++ rest)) := Solid.cons (by decide) _
  unfold takeLabel Label.onto
  rw [afterGap_onto label.before quoted, takeGap_onto label.before quoted]
  simp only [Spelling.onto, expect, if_true, takeSpelling_onto, afterGap_onto label.afterKey separated,
    takeGap_onto label.afterKey separated, afterGap_onto label.beforeValue solid,
    takeGap_onto label.beforeValue solid, Option.bind_eq_bind, Option.bind_some, Option.pure_def]

theorem takeLabel_eq_some {input rest : Bytes} {label : Label}
    (found : takeLabel input = some (label, rest)) : input = label.onto rest := by
  unfold takeLabel at found
  simp only [Option.bind_eq_bind, Option.bind_eq_some_iff, Option.pure_def, Option.some.injEq,
    Prod.exists, Prod.mk.injEq] at found
  obtain ⟨quoted, opening, key, behind, spelled, value, separated, same, left⟩ := found
  subst same left
  rw [expect_eq_some] at opening separated
  have named := takeSpelling_eq_some spelled
  rw [Label.onto, Spelling.onto, takeGap_append_afterGap, ← separated, takeGap_append_afterGap,
    ← named, ← opening, takeGap_append_afterGap]

theorem Doc.onto_head (doc : Doc) (rest : Bytes) :
    ∃ byte tail, doc.onto rest = byte :: tail ∧ 32 < byte ∧ byte ≠ closeBracket := by
  cases doc with
  | word word =>
    obtain ⟨byte, tail, shape⟩ := List.exists_cons_of_ne_nil word.written
    have first := word.word byte (by simp [shape])
    refine ⟨byte, tail ++ rest, by simp [Doc.onto, shape], visible_of_word first, ?_⟩
    intro same
    rw [same] at first
    revert first
    decide
  | text spelling => exact ⟨quote, _, rfl, by decide, by decide⟩
  | emptyArray gap => exact ⟨openBracket, _, rfl, by decide, by decide⟩
  | array elements => exact ⟨openBracket, _, rfl, by decide, by decide⟩
  | emptyObject gap => exact ⟨openBrace, _, rfl, by decide, by decide⟩
  | object members => exact ⟨openBrace, _, rfl, by decide, by decide⟩

theorem Doc.onto_solid (doc : Doc) (rest : Bytes) : Solid (doc.onto rest) := by
  obtain ⟨byte, tail, shape, solid, -⟩ := doc.onto_head rest
  rw [shape]
  exact Solid.cons solid tail

theorem expect_self (byte : UInt8) (rest : Bytes) : expect byte (byte :: rest) = some rest :=
  if_pos rfl

theorem expect_ne {byte found : UInt8} (different : found ≠ byte) (rest : Bytes) :
    expect byte (found :: rest) = none :=
  if_neg different

theorem Elements.onto_open (elements : Elements) (rest : Bytes) :
    expect closeBracket (afterGap (elements.onto rest)) = none := by
  have opened : ∀ (before : Gap) (value : Doc) (rest : Bytes),
      expect closeBracket (afterGap (before.bytes ++ value.onto rest)) = none := by
    intro before value rest
    obtain ⟨byte, tail, shape, -, open'⟩ := value.onto_head rest
    rw [afterGap_onto before (value.onto_solid rest), shape, expect_ne open']
  cases elements with
  | last before value after => exact opened before value _
  | more before value after more => exact opened before value _

theorem Members.onto_open (members : Members) (rest : Bytes) :
    expect closeBrace (afterGap (members.onto rest)) = none := by
  have opened : ∀ (label : Label) (rest : Bytes),
      expect closeBrace (afterGap (label.onto rest)) = none := by
    intro label rest
    have quoted : ∀ rest, Solid (label.key.onto rest) := fun _ => Solid.cons (by decide) _
    rw [Label.onto, afterGap_onto label.before (quoted _)]
    exact expect_ne (by decide) _
  cases members with
  | last label value after => exact opened label _
  | more label value after more => exact opened label _

theorem Gap.apart (gap : Gap) {rest : Bytes} (apart : Apart rest) : Apart (gap.bytes ++ rest) := by
  intro byte tail shape
  cases blanks : gap.bytes with
  | nil =>
    rw [blanks] at shape
    exact apart byte tail shape
  | cons blank more =>
    have isBlank := gap.blank blank (by simp [blanks])
    rw [blanks] at shape
    cases shape
    by_contra word
    rw [not_blank (visible_of_word (by simpa using word))] at isBlank
    cases isBlank

theorem apart_cons {byte : UInt8} (ends : isWordByte byte = false) (rest : Bytes) :
    Apart (byte :: rest) := by
  rintro _ _ ⟨⟩
  exact ends

theorem Label.length_lt (label : Label) (rest : Bytes) :
    rest.length < (label.onto rest).length := by
  simp only [Label.onto, Spelling.onto, List.length_append, List.length_cons]
  omega

theorem Doc.length_le (doc : Doc) (rest : Bytes) : rest.length ≤ (doc.onto rest).length := by
  rw [doc.onto_eq, List.length_append]
  exact Nat.le_add_left _ _

mutual

theorem parseDoc_onto (doc : Doc) {fuel : Nat} {rest : Bytes} (apart : Apart rest)
    (enough : 2 * (doc.onto rest).length < fuel) : parseDoc fuel (doc.onto rest) = some (doc, rest) := by
  obtain ⟨fuel, rfl⟩ := Nat.exists_eq_add_one_of_ne_zero (Nat.ne_zero_of_lt enough)
  cases doc with
  | word word =>
    obtain ⟨byte, tail, shape⟩ := List.exists_cons_of_ne_nil word.written
    have taken := takeWord_onto word apart
    have first := word.word byte (by simp [shape])
    have other : ∀ sign, isWordByte sign = false → byte ≠ sign := by
      intro sign ends same
      rw [same, ends] at first
      cases first
    rw [shape, List.cons_append] at taken
    rw [Doc.onto, shape, List.cons_append, parseDoc, if_neg (other _ (by decide)),
      if_neg (other _ (by decide)), if_neg (other _ (by decide)), taken]
    rfl
  | text spelling =>
    rw [Doc.onto, Spelling.onto, parseDoc, if_pos rfl, takeSpelling_onto]
    rfl
  | emptyArray gap =>
    have solid : Solid (closeBracket :: rest) := Solid.cons (by decide) _
    rw [Doc.onto, parseDoc, if_neg (by decide), if_pos rfl, afterGap_onto gap solid,
      takeGap_onto gap solid]
    simp only [expect, if_true]
  | array elements =>
    rw [Doc.onto, List.length_cons] at enough
    have read := @parseElements_onto elements fuel rest (by omega)
    rw [Doc.onto, parseDoc, if_neg (by decide), if_pos rfl, elements.onto_open, read]
    rfl
  | emptyObject gap =>
    have solid : Solid (closeBrace :: rest) := Solid.cons (by decide) _
    rw [Doc.onto, parseDoc, if_neg (by decide), if_neg (by decide), if_pos rfl,
      afterGap_onto gap solid, takeGap_onto gap solid]
    simp only [expect, if_true]
  | object members =>
    rw [Doc.onto, List.length_cons] at enough
    have read := @parseMembers_onto members fuel rest (by omega)
    rw [Doc.onto, parseDoc, if_neg (by decide), if_neg (by decide), if_pos rfl, members.onto_open,
      read]
    rfl

theorem parseElements_onto (elements : Elements) {fuel : Nat} {rest : Bytes}
    (enough : 2 * (elements.onto (closeBracket :: rest)).length + 1 < fuel) :
    parseElements fuel (elements.onto (closeBracket :: rest)) = some (elements, rest) := by
  obtain ⟨fuel, rfl⟩ := Nat.exists_eq_add_one_of_ne_zero (Nat.ne_zero_of_lt enough)
  cases elements with
  | last before value after =>
    have solid : Solid (closeBracket :: rest) := Solid.cons (by decide) _
    have apart : Apart (after.bytes ++ closeBracket :: rest) :=
      after.apart (apart_cons (by decide) _)
    rw [Elements.onto, List.length_append] at enough
    have read := @parseDoc_onto value fuel (after.bytes ++ closeBracket :: rest) apart (by omega)
    rw [Elements.onto, parseElements, afterGap_onto before (value.onto_solid _),
      takeGap_onto before (value.onto_solid _), read]
    simp only [Option.bind_eq_bind, Option.bind_some, afterGap_onto after solid,
      takeGap_onto after solid, expect_ne (show closeBracket ≠ comma by decide), expect_self,
      Option.pure_def]
  | more before value after more =>
    have solid : Solid (comma :: more.onto (closeBracket :: rest)) := Solid.cons (by decide) _
    have apart : Apart (after.bytes ++ comma :: more.onto (closeBracket :: rest)) :=
      after.apart (apart_cons (by decide) _)
    have shorter := value.length_le (after.bytes ++ comma :: more.onto (closeBracket :: rest))
    rw [Elements.onto, List.length_append] at enough
    rw [List.length_append, List.length_cons] at shorter
    have read := @parseDoc_onto value fuel (after.bytes ++ comma :: more.onto (closeBracket :: rest))
      apart (by omega)
    have later := @parseElements_onto more fuel rest (by omega)
    rw [Elements.onto, parseElements, afterGap_onto before (value.onto_solid _),
      takeGap_onto before (value.onto_solid _), read]
    simp only [Option.bind_eq_bind, Option.bind_some, afterGap_onto after solid,
      takeGap_onto after solid, expect_self, later, Option.pure_def]

theorem parseMembers_onto (members : Members) {fuel : Nat} {rest : Bytes}
    (enough : 2 * (members.onto (closeBrace :: rest)).length < fuel) :
    parseMembers fuel (members.onto (closeBrace :: rest)) = some (members, rest) := by
  obtain ⟨fuel, rfl⟩ := Nat.exists_eq_add_one_of_ne_zero (Nat.ne_zero_of_lt enough)
  cases members with
  | last label value after =>
    have solid : Solid (closeBrace :: rest) := Solid.cons (by decide) _
    have apart : Apart (after.bytes ++ closeBrace :: rest) :=
      after.apart (apart_cons (by decide) _)
    have shorter := label.length_lt (value.onto (after.bytes ++ closeBrace :: rest))
    rw [Members.onto] at enough
    have read := @parseDoc_onto value fuel (after.bytes ++ closeBrace :: rest) apart (by omega)
    rw [Members.onto, parseMembers, takeLabel_onto label (value.onto_solid _)]
    simp only [Option.bind_eq_bind, Option.bind_some, read, afterGap_onto after solid,
      takeGap_onto after solid, expect_ne (show closeBrace ≠ comma by decide), expect_self,
      Option.pure_def]
  | more label value after more =>
    have solid : Solid (comma :: more.onto (closeBrace :: rest)) := Solid.cons (by decide) _
    have apart : Apart (after.bytes ++ comma :: more.onto (closeBrace :: rest)) :=
      after.apart (apart_cons (by decide) _)
    have shorter := label.length_lt
      (value.onto (after.bytes ++ comma :: more.onto (closeBrace :: rest)))
    have left := value.length_le (after.bytes ++ comma :: more.onto (closeBrace :: rest))
    rw [Members.onto] at enough
    rw [List.length_append, List.length_cons] at left
    have read := @parseDoc_onto value fuel (after.bytes ++ comma :: more.onto (closeBrace :: rest))
      apart (by omega)
    have later := @parseMembers_onto more fuel rest (by omega)
    rw [Members.onto, parseMembers, takeLabel_onto label (value.onto_solid _)]
    simp only [Option.bind_eq_bind, Option.bind_some, read, afterGap_onto after solid,
      takeGap_onto after solid, expect_self, later, Option.pure_def]

end

theorem parse_bytes (text : Text) : parse text.bytes = some text := by
  have ended : Apart text.after.bytes := by
    have blank := text.after.apart (show Apart [] by rintro _ _ ⟨⟩)
    rwa [List.append_nil] at blank
  have nothing : afterGap text.after.bytes = [] ∧ takeGap text.after.bytes = text.after := by
    have solid : Solid [] := by rintro _ _ ⟨⟩
    have left := afterGap_onto text.after solid
    have taken := takeGap_onto text.after solid
    rw [List.append_nil] at left taken
    exact ⟨left, taken⟩
  have shorter : (text.value.onto text.after.bytes).length ≤ text.bytes.length := by
    rw [Text.bytes, List.length_append]
    exact Nat.le_add_left _ _
  have read := @parseDoc_onto text.value (2 * text.bytes.length + 1) _ ended (by omega)
  have solid := text.value.onto_solid text.after.bytes
  unfold parse
  rw [show afterGap text.bytes = _ from afterGap_onto text.before solid, read]
  simp only [nothing.1, if_true, nothing.2]
  rw [show takeGap text.bytes = _ from takeGap_onto text.before solid]

mutual

theorem parseDoc_eq_some {fuel : Nat} {input rest : Bytes} {doc : Doc}
    (read : parseDoc fuel input = some (doc, rest)) : input = doc.onto rest := by
  cases fuel with
  | zero => cases read
  | succ fuel =>
    cases input with
    | nil => cases read
    | cons byte tail =>
      rw [parseDoc] at read
      by_cases quoted : byte = quote
      · rw [if_pos quoted] at read
        obtain ⟨⟨spelling, left⟩, found, same⟩ := Option.map_eq_some_iff.mp read
        cases same
        rw [quoted, takeSpelling_eq_some found]
        rfl
      rw [if_neg quoted] at read
      by_cases bracket : byte = openBracket
      · rw [if_pos bracket] at read
        split at read
        · next after closed =>
          cases read
          rw [expect_eq_some] at closed
          rw [Doc.onto, ← closed, takeGap_append_afterGap, bracket]
        · obtain ⟨⟨elements, left⟩, found, same⟩ := Option.map_eq_some_iff.mp read
          cases same
          rw [bracket, parseElements_eq_some found]
          rfl
      rw [if_neg bracket] at read
      by_cases brace : byte = openBrace
      · rw [if_pos brace] at read
        split at read
        · next after closed =>
          cases read
          rw [expect_eq_some] at closed
          rw [Doc.onto, ← closed, takeGap_append_afterGap, brace]
        · obtain ⟨⟨members, left⟩, found, same⟩ := Option.map_eq_some_iff.mp read
          cases same
          rw [brace, parseMembers_eq_some found]
          rfl
      rw [if_neg brace] at read
      obtain ⟨⟨word, left⟩, found, same⟩ := Option.map_eq_some_iff.mp read
      cases same
      exact takeWord_eq_some found

theorem parseElements_eq_some {fuel : Nat} {input rest : Bytes} {elements : Elements}
    (read : parseElements fuel input = some (elements, rest)) :
    input = elements.onto (closeBracket :: rest) := by
  cases fuel with
  | zero => cases read
  | succ fuel =>
    rw [parseElements] at read
    obtain ⟨⟨value, behind⟩, found, read⟩ := Option.bind_eq_some_iff.mp read
    have shape := parseDoc_eq_some found
    dsimp only at read
    split at read
    · next more separated =>
      obtain ⟨⟨others, left⟩, later, same⟩ := Option.bind_eq_some_iff.mp read
      cases same
      rw [expect_eq_some] at separated
      rw [Elements.onto, ← parseElements_eq_some later, ← separated, takeGap_append_afterGap,
        ← shape, takeGap_append_afterGap]
    · obtain ⟨after, closed, same⟩ := Option.bind_eq_some_iff.mp read
      cases same
      rw [expect_eq_some] at closed
      rw [Elements.onto, ← closed, takeGap_append_afterGap, ← shape, takeGap_append_afterGap]

theorem parseMembers_eq_some {fuel : Nat} {input rest : Bytes} {members : Members}
    (read : parseMembers fuel input = some (members, rest)) :
    input = members.onto (closeBrace :: rest) := by
  cases fuel with
  | zero => cases read
  | succ fuel =>
    rw [parseMembers] at read
    obtain ⟨⟨label, opened⟩, named, read⟩ := Option.bind_eq_some_iff.mp read
    obtain ⟨⟨value, behind⟩, found, read⟩ := Option.bind_eq_some_iff.mp read
    have shape := parseDoc_eq_some found
    have head := takeLabel_eq_some named
    dsimp only at read shape
    split at read
    · next more separated =>
      obtain ⟨⟨others, left⟩, later, same⟩ := Option.bind_eq_some_iff.mp read
      cases same
      rw [expect_eq_some] at separated
      rw [Members.onto, ← parseMembers_eq_some later, ← separated, takeGap_append_afterGap,
        ← shape, ← head]
    · obtain ⟨after, closed, same⟩ := Option.bind_eq_some_iff.mp read
      cases same
      rw [expect_eq_some] at closed
      rw [Members.onto, ← closed, takeGap_append_afterGap, ← shape, ← head]

end

theorem bytes_of_parse {input : Bytes} {text : Text} (read : parse input = some text) :
    text.bytes = input := by
  unfold parse at read
  split at read
  · next value rest found =>
    split at read
    · next nothing =>
      cases read
      have left : (takeGap rest).bytes = rest := by
        have whole := takeGap_append_afterGap rest
        rwa [nothing, List.append_nil] at whole
      rw [Text.bytes, left, ← parseDoc_eq_some found, takeGap_append_afterGap]
    · cases read
  · cases read

end CodexGate.Foundation.JsonText
