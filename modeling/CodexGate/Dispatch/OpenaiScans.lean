import CodexGate.Dispatch.Openai

namespace CodexGate.Dispatch.Openai

open Foundation Foundation.JsonText

theorem whitespace_of_blank {byte : UInt8} (blank : isBlank byte = true) :
    isAsciiWhitespace byte = true := by
  rw [isBlank, decide_eq_true_iff] at blank
  rw [isAsciiWhitespace, decide_eq_true_iff]
  simp only [List.mem_cons, List.not_mem_nil, or_false] at blank ⊢
  rcases blank with same | same | same | same <;> simp [same]

theorem not_whitespace {byte : UInt8} (visible : 32 < byte) : isAsciiWhitespace byte = false := by
  rw [isAsciiWhitespace, decide_eq_false_iff_not]
  intro member
  simp only [List.mem_cons, List.not_mem_nil, or_false] at member
  rcases member with same | same | same | same | same <;>
    (rw [same] at visible; revert visible; decide)

theorem skipWhitespace_solid {rest : Bytes} (solid : Solid rest) : skipWhitespace rest = rest := by
  cases rest with
  | nil => rfl
  | cons byte tail =>
    exact List.dropWhile_cons_of_neg (by simp [not_whitespace (solid byte tail rfl)])

theorem skipWhitespace_gap (gap : Gap) {rest : Bytes} (solid : Solid rest) :
    skipWhitespace (gap.bytes ++ rest) = rest := by
  have blank : ∀ byte ∈ gap.bytes, isAsciiWhitespace byte = true :=
    fun byte member => whitespace_of_blank (gap.blank byte member)
  have left := skipWhitespace_solid solid
  rw [skipWhitespace] at left ⊢
  rw [List.dropWhile_append_of_pos blank, left]

theorem trimEnd_gap (before : Bytes) {last : UInt8} (visible : 32 < last) (gap : Gap) :
    trimEnd (before ++ last :: gap.bytes) = last :: before.reverse := by
  have blank : ∀ byte ∈ gap.bytes.reverse, isAsciiWhitespace byte = true := fun byte member =>
    whitespace_of_blank (gap.blank byte (List.mem_reverse.mp member))
  have stop : ¬isAsciiWhitespace last = true := by simp [not_whitespace visible]
  rw [trimEnd, List.reverse_append, List.reverse_cons, List.append_assoc, List.singleton_append,
    List.dropWhile_append_of_pos blank, List.dropWhile_cons_of_neg stop]

theorem next_of_closes {escape : Bool} {byte : UInt8} {tail : Bytes}
    (closed : closes escape (byte :: tail) = true) :
    ∃ escape', StringScan.next ⟨true, escape⟩ byte = ⟨true, escape'⟩ ∧
      closes escape' tail = true := by
  cases escape with
  | true => exact ⟨false, rfl, closed⟩
  | false =>
    rw [closes] at closed
    by_cases escaped : byte = backslash
    · rw [if_pos escaped] at closed
      subst escaped
      exact ⟨true, rfl, closed⟩
    · rw [if_neg escaped] at closed
      by_cases quoted : byte = quote
      · rw [if_pos quoted] at closed
        cases closed
      · rw [if_neg quoted] at closed
        refine ⟨false, ?_, closed⟩
        have unescaped : ¬byte = '\\'.toUInt8 := escaped
        have unquoted : ¬byte = '"'.toUInt8 := quoted
        rw [StringScan.next, if_neg (by decide), if_neg unescaped, if_neg unquoted]

def bracketWeight (byte : UInt8) : Int :=
  if byte = openBrace ∨ byte = openBracket then 1
  else if byte = closeBrace ∨ byte = closeBracket then -1
  else 0

theorem bracketWeight_eq_zero {byte : UInt8}
    (apart : byte ∉ [openBrace, openBracket, closeBrace, closeBracket]) :
    bracketWeight byte = 0 := by
  simp only [List.mem_cons, List.not_mem_nil, or_false, not_or] at apart
  rw [bracketWeight, if_neg (by simp [apart]), if_neg (by simp [apart])]

theorem not_bracket_of_word {byte : UInt8} (word : isWordByte byte = true) :
    byte ∉ [quote, comma, colon, openBracket, closeBracket, openBrace, closeBrace] := by
  rw [isWordByte, Bool.and_eq_true, decide_eq_true_iff] at word
  simpa using word.2

theorem not_bracket_of_blank {byte : UInt8} (blank : isBlank byte = true) :
    byte ∉ [quote, comma, colon, openBracket, closeBracket, openBrace, closeBrace] := by
  rw [isBlank, decide_eq_true_iff] at blank
  simp only [List.mem_cons, List.not_mem_nil, or_false] at blank
  rcases blank with same | same | same | same <;> (rw [same]; decide)

section Search

variable (key : Bytes)

abbrev search (depth : Int) (rest : Bytes) : Option Bytes :=
  findKey key depth ⟨false, false⟩ none rest

theorem search_byte (depth : Int) {byte : UInt8} (rest : Bytes) (apart : byte ≠ quote) :
    search key depth (byte :: rest) = search key (depth + bracketWeight byte) rest := by
  rw [search, findKey, if_neg (by decide), if_neg apart, bracketWeight]
  split
  · rfl
  · split
    · rfl
    · rw [Int.add_zero]

theorem search_quiet {depth : Int} {bytes : Bytes}
    (quiet : ∀ byte ∈ bytes, byte ∉ [quote, openBrace, openBracket, closeBrace, closeBracket])
    (rest : Bytes) : search key depth (bytes ++ rest) = search key depth rest := by
  induction bytes with
  | nil => rfl
  | cons byte tail ih =>
    have first := not_or.mp (List.mem_cons.not.mp (quiet byte List.mem_cons_self))
    rw [List.cons_append, search_byte key depth _ first.1, bracketWeight_eq_zero first.2,
      Int.add_zero]
    exact ih fun other member => quiet other (List.mem_cons_of_mem _ member)

theorem search_gap {depth : Int} (gap : Gap) (rest : Bytes) :
    search key depth (gap.bytes ++ rest) = search key depth rest := by
  apply search_quiet
  intro byte member
  have apart := not_bracket_of_blank (gap.blank byte member)
  simp_all

theorem findKey_string {depth : Int} {escape : Bool} {raw : Bytes}
    (closed : closes escape raw = true) (rest : Bytes) :
    findKey key depth ⟨true, escape⟩ none (raw ++ quote :: rest) = search key depth rest := by
  induction raw generalizing escape with
  | nil =>
    cases escape with
    | true => cases closed
    | false => rfl
  | cons byte tail ih =>
    obtain ⟨escape', next, closed⟩ := next_of_closes closed
    rw [List.cons_append, findKey, if_pos rfl]
    simp only [next]
    exact ih closed

/-- What the search does at the end of a string that may be the key. -/
def foundOr (spelled rest : Bytes) : Option Bytes :=
  if spelled = key then
    match valueStart rest with
    | some value => some value
    | none => search key 1 rest
  else search key 1 rest

theorem findKey_candidate {escape : Bool} {start read raw : Bytes} (rest : Bytes)
    (closed : closes escape raw = true) (shape : start = read ++ (raw ++ quote :: rest)) :
    findKey key 1 ⟨true, escape⟩ (some start) (raw ++ quote :: rest) =
      foundOr key (read ++ raw) rest := by
  induction raw generalizing escape read with
  | nil =>
    cases escape with
    | true => cases closed
    | false =>
      have taken : start.take (start.length - (rest.length + 1)) = read := by
        have length : start.length - (rest.length + 1) = read.length := by
          rw [shape]
          simp
        rw [length, shape]
        exact List.take_left
      rw [List.nil_append, findKey, if_pos rfl, List.append_nil, foundOr]
      have next : StringScan.next ⟨true, false⟩ quote = ⟨false, false⟩ := rfl
      simp only [next, taken, Bool.false_eq_true, if_false] <;> rfl
  | cons byte tail ih =>
    have later : start = (read ++ [byte]) ++ (tail ++ quote :: rest) := by
      rw [shape]
      simp
    have whole : read ++ byte :: tail = (read ++ [byte]) ++ tail := by simp
    obtain ⟨escape', next, closed⟩ := next_of_closes closed
    rw [List.cons_append, findKey, if_pos rfl, whole]
    simp only [next, if_true]
    exact ih closed later

theorem search_deep {depth : Int} (deep : 1 < depth) (spelling : Spelling) (rest : Bytes) :
    search key depth (spelling.onto rest) = search key depth rest := by
  have below : depth ≠ 1 := by omega
  rw [search, Spelling.onto, findKey, if_neg (by decide), if_pos rfl, if_neg below]
  exact findKey_string key spelling.closed rest

theorem search_candidate (spelling : Spelling) (rest : Bytes) :
    search key 1 (spelling.onto rest) = foundOr key spelling.bytes rest := by
  rw [search, Spelling.onto, findKey, if_neg (by decide), if_pos rfl, if_pos rfl]
  exact @findKey_candidate key _ _ [] _ rest spelling.closed rfl

theorem search_skims : Skims (search key) bracketWeight 1 where
  text _ spelling rest deep := search_deep key deep spelling rest
  byte depth _ rest apart _ := search_byte key depth rest apart
  blank byte blank := by
    have apart := not_bracket_of_blank blank
    exact bracketWeight_eq_zero (by simp_all)
  word byte word := by
    have apart := not_bracket_of_word word
    exact bracketWeight_eq_zero (by simp_all)
  comma := rfl
  colon := rfl
  brackets := by decide
  braces := by decide

def Uncoloned (rest : Bytes) : Prop := valueStart rest = none

theorem search_container {opening closing : UInt8} {inner : Bytes → Bytes}
    (opens : bracketWeight opening = 1) (closes : bracketWeight closing = -1)
    (apart : opening ≠ quote ∧ closing ≠ quote)
    (passes : ∀ rest, search key 2 (inner rest) = search key 2 rest) (rest : Bytes) :
    search key 1 (opening :: inner (closing :: rest)) = search key 1 rest := by
  have opened := search_byte key 1 (inner (closing :: rest)) apart.1
  have closed := search_byte key 2 rest apart.2
  rw [opens] at opened
  rw [closes] at closed
  exact opened.trans ((passes _).trans closed)

theorem search_value (doc : Doc) {rest : Bytes} (uncoloned : Uncoloned rest) :
    search key 1 (doc.onto rest) = search key 1 rest := by
  have skims := search_skims key
  have deeper : (1 : Int) < 2 := by decide
  cases doc with
  | word word =>
    apply search_quiet
    intro byte member
    have apart := not_bracket_of_word (word.word byte member)
    simp_all
  | text spelling =>
    rw [Doc.onto, search_candidate, foundOr, uncoloned]
    split <;> rfl
  | emptyArray gap =>
    exact search_container key rfl rfl (by decide) (skims.gap deeper gap) rest
  | array elements =>
    exact search_container key rfl rfl (by decide) (skims.elements elements deeper) rest
  | emptyObject gap =>
    exact search_container key rfl rfl (by decide) (skims.gap deeper gap) rest
  | object members =>
    exact search_container key rfl rfl (by decide) (skims.members members deeper) rest

theorem valueStart_gap (gap : Gap) {rest : Bytes} (solid : Solid rest) :
    valueStart (gap.bytes ++ rest) = valueStart rest := by
  rw [valueStart, valueStart, skipWhitespace_gap gap solid, skipWhitespace_solid solid]

theorem uncoloned_gap (gap : Gap) {byte : UInt8} (visible : 32 < byte) (other : byte ≠ colon)
    (rest : Bytes) : Uncoloned (gap.bytes ++ byte :: rest) := by
  have solid : Solid (byte :: rest) := Solid.cons visible rest
  rw [Uncoloned, valueStart_gap gap solid, valueStart, skipWhitespace_solid solid]
  exact if_neg other

theorem search_label (label : Label) {rest : Bytes} (solid : Solid rest) :
    search key 1 (label.onto rest) =
      if label.key.bytes = key then some rest else search key 1 rest := by
  have colons : Solid (colon :: (label.beforeValue.bytes ++ rest)) := Solid.cons (by decide) _
  have value : valueStart (label.afterKey.bytes ++ colon :: (label.beforeValue.bytes ++ rest)) =
      some rest := by
    rw [valueStart_gap label.afterKey colons, valueStart, skipWhitespace_solid colons]
    dsimp only
    rw [if_pos rfl, skipWhitespace_gap label.beforeValue solid]
  rw [Label.onto, search_gap, search_candidate, foundOr, value]
  split
  · rfl
  · rw [search_gap, search_byte key 1 _ (by decide), bracketWeight_eq_zero (by decide),
      Int.add_zero, search_gap]

theorem search_separator (after : Gap) (rest : Bytes) :
    search key 1 (after.bytes ++ comma :: rest) = search key 1 rest := by
  rw [search_gap, search_byte key 1 _ (by decide), bracketWeight_eq_zero (by decide), Int.add_zero]

theorem search_members (members : Members) {byte : UInt8} (visible : 32 < byte)
    (other : byte ≠ colon) (rest : Bytes) :
    search key 1 (members.onto (byte :: rest)) =
      match members.spelled key with
      | some value => some (value.onto (members.behind key (byte :: rest)))
      | none => search key 1 (byte :: rest) := by
  fun_induction Members.spelled key members with
  | case1 label value after same =>
    rw [Members.onto, search_label key label (value.onto_solid _), if_pos same]
    rfl
  | case2 label value after different =>
    rw [Members.onto, search_label key label (value.onto_solid _), if_neg different,
      search_value key value (uncoloned_gap after visible other rest), search_gap]
  | case3 label value after others same =>
    rw [Members.onto, search_label key label (value.onto_solid _), if_pos same, Members.behind,
      if_pos same]
  | case4 label value after others different ih =>
    rw [Members.onto, search_label key label (value.onto_solid _), if_neg different,
      search_value key value (uncoloned_gap after (by decide) (by decide) _), search_separator, ih,
      Members.behind, if_neg different]

end Search

def kindWeight (opening closing byte : UInt8) : Int :=
  if byte = opening then 1 else if byte = closing then -1 else 0

theorem kindWeight_eq_zero {opening closing byte : UInt8} (first : byte ≠ opening)
    (second : byte ≠ closing) : kindWeight opening closing byte = 0 := by
  rw [kindWeight, if_neg first, if_neg second]

section End

variable {opening closing : UInt8}

theorem containerEnd_string {depth : Int} {escape : Bool} {raw : Bytes}
    (closed : closes escape raw = true) (rest : Bytes) :
    containerEnd opening closing depth ⟨true, escape⟩ (raw ++ quote :: rest) =
      containerEnd opening closing depth ⟨false, false⟩ rest := by
  induction raw generalizing escape with
  | nil =>
    cases escape with
    | true => cases closed
    | false => rfl
  | cons byte tail ih =>
    obtain ⟨escape', next, closed⟩ := next_of_closes closed
    rw [List.cons_append, containerEnd, if_pos rfl, next]
    exact ih closed

theorem stringEnd_onto {escape : Bool} {raw : Bytes} (closed : closes escape raw = true)
    (rest : Bytes) : stringEnd escape (raw ++ quote :: rest) = some rest := by
  induction raw generalizing escape with
  | nil =>
    cases escape with
    | true => cases closed
    | false => rfl
  | cons byte tail ih =>
    rw [List.cons_append, stringEnd]
    cases escape with
    | true => exact ih closed
    | false =>
      rw [closes] at closed
      rw [if_neg (by decide)]
      by_cases escaped : byte = backslash
      · rw [if_pos escaped] at closed ⊢
        exact ih closed
      · rw [if_neg escaped] at closed ⊢
        by_cases quoted : byte = quote
        · rw [if_pos quoted] at closed
          cases closed
        · rw [if_neg quoted] at closed ⊢
          exact ih closed

def Kind (opening closing : UInt8) : Prop :=
  opening = openBrace ∧ closing = closeBrace ∨ opening = openBracket ∧ closing = closeBracket

theorem containerEnd_byte (kind : Kind opening closing) {depth : Int} {byte : UInt8} (rest : Bytes)
    (apart : byte ≠ quote) (above : 0 < depth + kindWeight opening closing byte) :
    containerEnd opening closing depth ⟨false, false⟩ (byte :: rest) =
      containerEnd opening closing (depth + kindWeight opening closing byte) ⟨false, false⟩
        rest := by
  rw [containerEnd, if_neg (by decide), if_neg apart]
  rw [kindWeight] at above ⊢
  by_cases opens : byte = opening
  · rw [if_pos opens, if_pos opens]
  · rw [if_neg opens] at above
    rw [if_neg opens, if_neg opens]
    by_cases closes : byte = closing
    · rw [if_pos closes] at above
      rw [if_pos closes, if_pos closes, if_neg (by omega)]
      rfl
    · rw [if_neg closes, if_neg closes, Int.add_zero]

theorem containerEnd_skims (kind : Kind opening closing) :
    Skims (fun depth rest => containerEnd opening closing depth ⟨false, false⟩ rest)
      (kindWeight opening closing) 0 := by
  have quiet : ∀ byte,
      byte ∉ [quote, comma, colon, openBracket, closeBracket, openBrace, closeBrace] →
        kindWeight opening closing byte = 0 := by
    intro byte apart
    simp only [List.mem_cons, List.not_mem_nil, or_false, not_or] at apart
    rcases kind with ⟨rfl, rfl⟩ | ⟨rfl, rfl⟩
    · exact kindWeight_eq_zero apart.2.2.2.2.2.1 apart.2.2.2.2.2.2
    · exact kindWeight_eq_zero apart.2.2.2.1 apart.2.2.2.2.1
  refine ⟨?_, ?_, fun byte blank => quiet byte (not_bracket_of_blank blank),
    fun byte word => quiet byte (not_bracket_of_word word), ?_, ?_, ?_, ?_⟩
  · intro depth spelling rest _
    rw [Spelling.onto, containerEnd, if_neg (by decide), if_pos rfl]
    exact containerEnd_string spelling.closed rest
  · intro depth byte rest apart above
    exact containerEnd_byte kind rest apart above
  all_goals rcases kind with ⟨rfl, rfl⟩ | ⟨rfl, rfl⟩ <;> decide

theorem containerEnd_onto (kind : Kind opening closing) {inner : Bytes → Bytes}
    (passes : ∀ rest, containerEnd opening closing 1 ⟨false, false⟩ (inner rest) =
      containerEnd opening closing 1 ⟨false, false⟩ rest) (rest : Bytes) :
    containerEnd opening closing 0 ⟨false, false⟩ (opening :: inner (closing :: rest)) =
      some rest := by
  have apart : opening ≠ quote ∧ closing ≠ quote ∧ closing ≠ opening := by
    rcases kind with ⟨rfl, rfl⟩ | ⟨rfl, rfl⟩ <;> decide
  rw [containerEnd, if_neg (by decide), if_neg apart.1, if_pos rfl]
  exact (passes _).trans (by
    rw [containerEnd, if_neg (by decide), if_neg apart.2.1, if_neg apart.2.2, if_pos rfl,
      if_pos (by decide)])

end End

def Ending (rest : Bytes) : Prop :=
  ∀ byte tail, rest = byte :: tail → endsPrimitive byte = true

theorem not_endsPrimitive_of_word {byte : UInt8} (word : isWordByte byte = true) :
    endsPrimitive byte = false := by
  have apart := not_bracket_of_word word
  have visible := not_whitespace (visible_of_word word)
  simp only [List.mem_cons, List.not_mem_nil, or_false, not_or] at apart
  have notComma : ¬byte = ','.toUInt8 := apart.2.1
  have notBracket : ¬byte = ']'.toUInt8 := apart.2.2.2.2.1
  have notBrace : ¬byte = '\x7d'.toUInt8 := apart.2.2.2.2.2.2
  rw [endsPrimitive, visible, decide_eq_false notComma, decide_eq_false notBracket,
    decide_eq_false notBrace]
  rfl

theorem scanJsonValueEnd_onto (doc : Doc) {rest : Bytes} (ending : Ending rest) :
    scanJsonValueEnd (doc.onto rest) = some rest := by
  have braces : Kind openBrace closeBrace := .inl ⟨rfl, rfl⟩
  have brackets : Kind openBracket closeBracket := .inr ⟨rfl, rfl⟩
  have above : (0 : Int) < 1 := by decide
  cases doc with
  | word word =>
    obtain ⟨byte, tail, shape⟩ := List.exists_cons_of_ne_nil word.written
    have first := not_bracket_of_word (word.word byte (by simp [shape]))
    simp only [List.mem_cons, List.not_mem_nil, or_false, not_or] at first
    have inside : ∀ byte ∈ word.bytes, (!endsPrimitive byte) = true := by
      intro byte member
      rw [not_endsPrimitive_of_word (word.word byte member)]
      rfl
    have left : (word.bytes ++ rest).dropWhile (fun byte => !endsPrimitive byte) = rest := by
      rw [List.dropWhile_append_of_pos inside]
      cases rest with
      | nil => rfl
      | cons byte tail => exact List.dropWhile_cons_of_neg (by simp [ending byte tail rfl])
    rw [shape, List.cons_append] at left
    rw [Doc.onto, shape, List.cons_append, scanJsonValueEnd, if_neg first.2.2.2.2.2.1,
      if_neg first.2.2.2.1, if_neg first.1, left]
  | text spelling =>
    rw [Doc.onto, Spelling.onto, scanJsonValueEnd, if_neg (by decide), if_neg (by decide),
      if_pos rfl, stringEnd_onto spelling.closed]
  | emptyArray gap =>
    rw [Doc.onto, scanJsonValueEnd, if_neg (by decide), if_pos rfl]
    exact containerEnd_onto brackets ((containerEnd_skims brackets).gap above gap) rest
  | array elements =>
    rw [Doc.onto, scanJsonValueEnd, if_neg (by decide), if_pos rfl]
    exact containerEnd_onto brackets ((containerEnd_skims brackets).elements elements above) rest
  | emptyObject gap =>
    rw [Doc.onto, scanJsonValueEnd, if_pos rfl]
    exact containerEnd_onto braces ((containerEnd_skims braces).gap above gap) rest
  | object members =>
    rw [Doc.onto, scanJsonValueEnd, if_pos rfl]
    exact containerEnd_onto braces ((containerEnd_skims braces).members members above) rest

theorem ending_gap (gap : Gap) {byte : UInt8} (ends : endsPrimitive byte = true) (rest : Bytes) :
    Ending (gap.bytes ++ byte :: rest) := by
  intro first tail shape
  cases blanks : gap.bytes with
  | nil =>
    rw [blanks] at shape
    cases shape
    exact ends
  | cons blank more =>
    have white := whitespace_of_blank (gap.blank blank (by simp [blanks]))
    rw [blanks] at shape
    cases shape
    rw [endsPrimitive, white, Bool.or_true]

theorem behind_ending {key : Bytes} {members : Members} {value : Doc}
    (found : members.spelled key = some value) (rest : Bytes) :
    Ending (members.behind key (closeBrace :: rest)) := by
  fun_induction Members.spelled key members with
  | case1 label value' after same => exact ending_gap after (by decide) rest
  | case2 label value' after different => cases found
  | case3 label value' after others same =>
    rw [Members.behind, if_pos same]
    exact ending_gap after (by decide) _
  | case4 label value' after others different ih =>
    rw [Members.behind, if_neg different]
    exact ih found

theorem search_nothing (key : Bytes) (gap : Gap) :
    search key 1 (closeBrace :: gap.bytes) = none := by
  have outside := @search_gap key 0 gap []
  rw [List.append_nil] at outside
  exact (search_byte key 1 gap.bytes (by decide)).trans outside

theorem skipWhitespace_text (text : Text) :
    skipWhitespace text.bytes = text.value.onto text.after.bytes :=
  skipWhitespace_gap text.before (text.value.onto_solid _)

theorem search_object (key : Bytes) (rest : Bytes) :
    search key 0 (openBrace :: rest) = search key 1 rest :=
  search_byte key 0 rest (by decide)

theorem keyValueSpan_other {text : Text} (other : ∀ gap, text.value ≠ .emptyObject gap)
    (noObject : ∀ members, text.value ≠ .object members) (key : Bytes) :
    keyValueSpan text.bytes key = none := by
  have head : (text.value.onto text.after.bytes).head? ≠ some openBrace := by
    cases shape : text.value with
    | word word =>
      obtain ⟨byte, tail, written⟩ := List.exists_cons_of_ne_nil word.written
      have apart := not_bracket_of_word (word.word byte (by simp [written]))
      rw [Doc.onto, written]
      intro same
      cases same
      exact apart (by decide)
    | text spelling => exact fun same => by cases same
    | emptyArray gap => exact fun same => by cases same
    | array elements => exact fun same => by cases same
    | emptyObject gap => exact absurd shape (other gap)
    | object members => exact absurd shape (noObject members)
  unfold keyValueSpan
  rw [skipWhitespace_text]
  exact if_neg head

theorem keyValueSpan_none {text : Text} {key : Bytes}
    (opens : (text.value.onto text.after.bytes).head? = some openBrace)
    (nothing : findKey key 0 ⟨false, false⟩ none (text.value.onto text.after.bytes) = none) :
    keyValueSpan text.bytes key = none := by
  unfold keyValueSpan
  rw [skipWhitespace_text]
  dsimp only
  rw [if_pos opens, nothing]
  rfl

theorem keyValueSpan_empty {text : Text} {gap : Gap} (shape : text.value = .emptyObject gap)
    (key : Bytes) : keyValueSpan text.bytes key = none := by
  apply keyValueSpan_none
  · rw [shape]
    rfl
  · rw [shape, Doc.onto]
    exact (search_object key _).trans
      ((search_gap key gap _).trans (search_nothing key text.after))

def front (text : Text) (members : Members) (key : Bytes) : Bytes :=
  text.before.bytes ++ openBrace :: members.ahead key

def back (text : Text) (members : Members) (key : Bytes) : Bytes :=
  members.behind key (closeBrace :: text.after.bytes)

theorem keyValueSpan_missing {text : Text} {members : Members}
    (shape : text.value = .object members) {key : Bytes} (missing : members.spelled key = none) :
    keyValueSpan text.bytes key = none := by
  apply keyValueSpan_none
  · rw [shape]
    rfl
  · rw [shape, Doc.onto]
    have searched := @search_members key members closeBrace (by decide) (by decide)
      text.after.bytes
    rw [missing] at searched
    exact (search_object key _).trans (searched.trans (search_nothing key text.after))

theorem bytes_spelled {text : Text} {members : Members} (shape : text.value = .object members)
    {key : Bytes} {value : Doc} (found : members.spelled key = some value) :
    text.bytes = front text members key ++ (value.bytes ++ back text members key) := by
  rw [Text.bytes, shape, Doc.onto, members.onto_spelled found, value.onto_eq, front,
    List.append_assoc]
  rfl

theorem keyValueSpan_found {text : Text} {members : Members} (shape : text.value = .object members)
    {key : Bytes} {value : Doc} (found : members.spelled key = some value) :
    keyValueSpan text.bytes key = some ((front text members key).length,
      (front text members key).length + value.bytes.length) := by
  have searched : findKey key 0 ⟨false, false⟩ none (text.value.onto text.after.bytes) =
      some (value.onto (back text members key)) := by
    have met := @search_members key members closeBrace (by decide) (by decide)
      text.after.bytes
    rw [found] at met
    rw [shape, Doc.onto]
    exact (search_object key _).trans met
  have opens : (text.value.onto text.after.bytes).head? = some openBrace := by
    rw [shape]
    rfl
  have ended : scanJsonValueEnd (value.onto (back text members key)) =
      some (back text members key) :=
    scanJsonValueEnd_onto value (behind_ending found _)
  have first : text.bytes.length - (value.onto (back text members key)).length =
      (front text members key).length := by
    rw [bytes_spelled shape found, ← value.onto_eq, List.length_append]
    omega
  have last : text.bytes.length - (back text members key).length =
      (front text members key).length + value.bytes.length := by
    rw [bytes_spelled shape found, List.length_append, List.length_append]
    omega
  unfold keyValueSpan
  rw [skipWhitespace_text]
  dsimp only
  rw [if_pos opens, searched]
  simp only [Option.bind_eq_bind, Option.bind_some, ended, first, last, Option.pure_def]

end CodexGate.Dispatch.Openai
