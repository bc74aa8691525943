import CodexGate.Dispatch.OpenaiScans

namespace CodexGate.Dispatch.Openai

open Foundation Foundation.JsonText

def streamOptionsKey : Spelling := ⟨utf8Bytes "stream_options", by decide⟩

def includeUsageKey : Spelling := ⟨utf8Bytes "include_usage", by decide⟩

def trueDoc : Doc := .word ⟨trueBytes, by decide, List.all_eq_true.mp (by decide)⟩

def bare (key : Spelling) : Label := ⟨Gap.none, key, Gap.none, Gap.none⟩

def newOptions : Doc := .object (.last (bare includeUsageKey) trueDoc Gap.none)

/-- An object with `include_usage` set, where no other spelling of the key counts. -/
def setIncludeUsage : Doc → Doc
  | .emptyObject gap => .object (.last (bare includeUsageKey) trueDoc gap)
  | .object members =>
    if (members.spelled includeUsageKey.bytes).isSome then
      .object (members.replace includeUsageKey.bytes trueDoc)
    else .object (.more (bare includeUsageKey) trueDoc Gap.none members)
  | other => other

theorem take_left (front rest : Bytes) : (front ++ rest).take front.length = front :=
  List.take_left

theorem drop_left (front rest : Bytes) : (front ++ rest).drop front.length = rest :=
  List.drop_left

theorem slice_middle (front middle rest : Bytes) :
    slice (front ++ (middle ++ rest)) front.length (front.length + middle.length) = middle := by
  rw [slice, ← List.append_assoc, ← List.length_append, take_left, drop_left]

theorem drop_middle (front middle rest : Bytes) :
    (front ++ (middle ++ rest)).drop (front.length + middle.length) = rest := by
  rw [← List.append_assoc, ← List.length_append, drop_left]

theorem splice (outer inner old new after rest : Bytes) :
    (outer ++ ((inner ++ (old ++ after)) ++ rest)).take (outer.length + inner.length) ++ new ++
        (outer ++ ((inner ++ (old ++ after)) ++ rest)).drop
          (outer.length + (inner.length + old.length)) =
      outer ++ ((inner ++ (new ++ after)) ++ rest) := by
  have whole : outer ++ ((inner ++ (old ++ after)) ++ rest) =
      (outer ++ inner) ++ (old ++ (after ++ rest)) := by
    simp
  rw [whole, ← Nat.add_assoc, ← List.length_append, take_left, drop_middle]
  simp

theorem doc_bytes_end (doc : Doc) :
    ∃ start last, doc.bytes = start ++ [last] ∧ 32 < last ∧ last ≠ openBrace := by
  cases doc with
  | word word =>
    have whole := List.dropLast_append_getLast word.written
    have last := word.word _ (List.getLast_mem word.written)
    refine ⟨word.bytes.dropLast, word.bytes.getLast word.written, ?_, visible_of_word last, ?_⟩
    · rw [whole, Doc.bytes, Doc.onto, List.append_nil]
    · intro same
      rw [same] at last
      revert last
      decide
  | text spelling => exact ⟨quote :: spelling.bytes, quote, rfl, by decide, by decide⟩
  | emptyArray gap =>
    exact ⟨openBracket :: gap.bytes, closeBracket, rfl, by decide, by decide⟩
  | array elements =>
    refine ⟨openBracket :: elements.onto [], closeBracket, ?_, by decide, by decide⟩
    exact congrArg (openBracket :: ·) (elements.onto_append [] [closeBracket])
  | emptyObject gap => exact ⟨openBrace :: gap.bytes, closeBrace, rfl, by decide, by decide⟩
  | object members =>
    refine ⟨openBrace :: members.bytes, closeBrace, ?_, by decide, by decide⟩
    exact congrArg (openBrace :: ·) (members.onto_eq [closeBrace])

theorem members_bytes_end (members : Members) :
    ∃ start last, ∃ gap : Gap, members.bytes = start ++ last :: gap.bytes ∧ 32 < last ∧
      last ≠ openBrace := by
  fun_induction Members.entries members with
  | case1 label value after =>
    obtain ⟨start, last, shape, visible, other⟩ := doc_bytes_end value
    refine ⟨label.onto start, last, after, ?_, visible, other⟩
    rw [Members.bytes, Members.onto, value.onto_eq, shape, ← label.onto_append]
    simp
  | case2 label value after others ih =>
    obtain ⟨start, last, gap, shape, visible, other⟩ := ih
    refine ⟨label.onto (value.onto (after.bytes ++ comma :: start)), last, gap, ?_, visible, other⟩
    rw [Members.bytes] at shape ⊢
    rw [Members.onto, shape, ← label.onto_append, ← value.onto_append]
    simp

theorem findRootObjectEnd_object {text : Text} {members : Members}
    (shape : text.value = .object members) :
    findRootObjectEnd text.bytes =
      some (text.before.bytes ++ openBrace :: members.bytes).length := by
  have bytes : text.bytes = (text.before.bytes ++ openBrace :: members.bytes) ++
      closeBrace :: text.after.bytes := by
    rw [Text.bytes, shape, Doc.onto, members.onto_eq]
    simp
  rw [findRootObjectEnd, bytes, trimEnd_gap _ (by decide) text.after]
  dsimp only
  rw [if_pos rfl, List.length_reverse]

theorem needsComma_object (text : Text) (members : Members) :
    needsComma (text.before.bytes ++ openBrace :: members.bytes) = true := by
  obtain ⟨start, last, gap, shape, visible, other⟩ := members_bytes_end members
  have whole : text.before.bytes ++ openBrace :: members.bytes =
      (text.before.bytes ++ openBrace :: start) ++ last :: gap.bytes := by
    rw [shape]
    simp
  rw [needsComma, whole, trimEnd_gap _ visible gap]
  simp [other]

theorem newOptions_bytes :
    utf8Bytes "\"stream_options\":\x7b\"include_usage\":true\x7d" =
      (bare streamOptionsKey).onto newOptions.bytes := by
  decide

theorem injected_bytes (rest : Bytes) :
    utf8Bytes "\"include_usage\":true" ++ rest =
      (bare includeUsageKey).onto (trueDoc.onto rest) := by
  have written : utf8Bytes "\"include_usage\":true" =
      (bare includeUsageKey).onto (trueDoc.onto []) := by
    decide
  rw [written, ← Label.onto_append, ← Doc.onto_append, List.nil_append]

theorem injected_bytes_comma (rest : Bytes) :
    utf8Bytes "\"include_usage\":true," ++ rest =
      (bare includeUsageKey).onto (trueDoc.onto (comma :: rest)) := by
  have written : utf8Bytes "\"include_usage\":true," =
      (bare includeUsageKey).onto (trueDoc.onto [comma]) := by
    decide
  rw [written, ← Label.onto_append, ← Doc.onto_append, List.cons_append, List.nil_append]

theorem skipWhitespace_doc (doc : Doc) : skipWhitespace doc.bytes = doc.bytes :=
  skipWhitespace_solid (doc.onto_solid [])

theorem inject_object (inner : Bytes) :
    injectIncludeUsageIntoObject (openBrace :: (inner ++ [closeBrace])) =
      .ok (openBrace :: ((if inner.all isAsciiWhitespace then utf8Bytes "\"include_usage\":true"
        else utf8Bytes "\"include_usage\":true,") ++ (inner ++ [closeBrace]))) := by
  have solid : Solid (openBrace :: (inner ++ [closeBrace])) := Solid.cons (by decide) _
  have trimmed : trimEnd (openBrace :: (inner ++ [closeBrace])) =
      closeBrace :: (openBrace :: inner).reverse :=
    trimEnd_gap (openBrace :: inner) (by decide) Gap.none
  have between : slice (openBrace :: (inner ++ [closeBrace])) 1 (openBrace :: inner).reverse.length
      = inner := by
    rw [slice, List.length_reverse, List.length_cons, List.take_succ_cons, take_left]
    rfl
  rw [injectIncludeUsageIntoObject, trimmed, skipWhitespace_solid solid]
  dsimp only
  rw [if_pos rfl, if_pos rfl, Nat.sub_self, Nat.zero_add, between]
  rfl

theorem inject_emptyObject (gap : Gap) :
    injectIncludeUsageIntoObject (Doc.emptyObject gap).bytes =
      .ok (setIncludeUsage (.emptyObject gap)).bytes := by
  have white : gap.bytes.all isAsciiWhitespace = true := by
    rw [List.all_eq_true]
    exact fun byte member => whitespace_of_blank (gap.blank byte member)
  have injected := inject_object gap.bytes
  rw [if_pos white, injected_bytes] at injected
  exact injected

theorem inject_members {members : Members} (unspelled : members.spelled includeUsageKey.bytes = none) :
    injectIncludeUsageIntoObject (Doc.object members).bytes =
      .ok (setIncludeUsage (.object members)).bytes := by
  have visible : ¬members.bytes.all isAsciiWhitespace = true := by
    obtain ⟨start, last, gap, shape, visible, -⟩ := members_bytes_end members
    intro white
    rw [List.all_eq_true] at white
    have blank := white last (by simp [shape])
    rw [not_whitespace visible] at blank
    cases blank
  have injected := inject_object members.bytes
  rw [if_neg visible, injected_bytes_comma] at injected
  rw [setIncludeUsage, unspelled, Option.isSome_none, if_neg (by decide), Doc.bytes, Doc.bytes,
    Doc.onto, Doc.onto, Members.onto, members.onto_eq, injected]
  rfl

theorem inject_other {options : Doc} (other : ∀ gap, options ≠ .emptyObject gap)
    (noObject : ∀ members, options ≠ .object members) :
    injectIncludeUsageIntoObject options.bytes =
      .error "stream_options is not an object" := by
  obtain ⟨byte, tail, shape, -, -⟩ := options.onto_head []
  have head : byte ≠ openBrace := by
    intro same
    subst same
    cases options with
    | word word =>
      obtain ⟨first, more, written⟩ := List.exists_cons_of_ne_nil word.written
      have apart := not_bracket_of_word (word.word first (by simp [written]))
      rw [Doc.onto, written] at shape
      cases shape
      exact apart (by decide)
    | text spelling => cases shape
    | emptyArray gap => cases shape
    | array elements => cases shape
    | emptyObject gap => exact other gap rfl
    | object members => exact noObject members rfl
  rw [injectIncludeUsageIntoObject, skipWhitespace_doc, Doc.bytes, shape]
  exact if_neg head

def alone (value : Doc) : Text := ⟨Gap.none, value, Gap.none⟩

section Edits

variable (serde : SerdeJson) {text : Text} {members : Members}
  (shape : text.value = .object members)
  (streams : (parseRequestInfo serde text.bytes).stream = true)
  (unset : (parseRequestInfo serde text.bytes).includeUsage ≠ some true)
include shape streams unset

theorem ensure_missing (missing : members.spelled streamOptionsKey.bytes = none) :
    ensureIncludeUsage serde text.bytes = .ok (Text.bytes { text with
      value := .object (members.snoc (bare streamOptionsKey) newOptions) }) := by
  have bytes : text.bytes = (text.before.bytes ++ openBrace :: members.bytes) ++
      closeBrace :: text.after.bytes := by
    rw [Text.bytes, shape, Doc.onto, members.onto_eq]
    simp
  have span : findRootKeyValueSpan text.bytes (utf8Bytes "stream_options") = none :=
    keyValueSpan_missing shape missing
  have comma := needsComma_object text members
  have head : text.bytes.take (text.before.bytes ++ openBrace :: members.bytes).length =
      text.before.bytes ++ openBrace :: members.bytes := by
    rw [bytes, take_left]
  have tail : text.bytes.drop (text.before.bytes ++ openBrace :: members.bytes).length =
      closeBrace :: text.after.bytes := by
    rw [bytes, drop_left]
  have ended := findRootObjectEnd_object shape
  unfold ensureIncludeUsage
  simp only [streams, unset, ended, span, head, tail, comma, newOptions_bytes, Bool.not_true,
    Bool.false_eq_true, if_false, if_true]
  rw [Text.bytes, Doc.onto, members.onto_snoc, members.onto_eq]
  simp only [List.append_assoc, List.cons_append, List.nil_append]
  rw [← Label.onto_append, ← newOptions.onto_eq]

variable {options : Doc} (found : members.spelled streamOptionsKey.bytes = some options)
include found

theorem ensure_spelled :
    ensureIncludeUsage serde text.bytes =
      match findObjectKeyValueSpan options.bytes (utf8Bytes "include_usage") with
      | none => do
        let injected ← injectIncludeUsageIntoObject options.bytes
        return front text members streamOptionsKey.bytes ++ injected ++
          back text members streamOptionsKey.bytes
      | some (start, stop) =>
        .ok (text.bytes.take ((front text members streamOptionsKey.bytes).length + start) ++
          utf8Bytes "true" ++
            text.bytes.drop ((front text members streamOptionsKey.bytes).length + stop)) := by
  have ended := findRootObjectEnd_object shape
  have span : findRootKeyValueSpan text.bytes (utf8Bytes "stream_options") =
      some ((front text members streamOptionsKey.bytes).length,
        (front text members streamOptionsKey.bytes).length + options.bytes.length) :=
    keyValueSpan_found shape found
  have middle : slice text.bytes (front text members streamOptionsKey.bytes).length
      ((front text members streamOptionsKey.bytes).length + options.bytes.length) =
        options.bytes := by
    rw [bytes_spelled shape found, slice_middle]
  have head : text.bytes.take (front text members streamOptionsKey.bytes).length =
      front text members streamOptionsKey.bytes := by
    rw [bytes_spelled shape found, take_left]
  have tail : text.bytes.drop ((front text members streamOptionsKey.bytes).length +
      options.bytes.length) = back text members streamOptionsKey.bytes := by
    rw [bytes_spelled shape found, drop_middle]
  unfold ensureIncludeUsage
  simp only [streams, unset, ended, Bool.not_true, Bool.false_eq_true, if_false]
  rw [span]
  dsimp only
  rw [middle, head, tail] <;> rfl

omit streams unset in
theorem bytes_replaced (value : Doc) :
    Text.bytes { text with value := .object (members.replace streamOptionsKey.bytes value) } =
      front text members streamOptionsKey.bytes ++
        (value.bytes ++ back text members streamOptionsKey.bytes) := by
  rw [Text.bytes, Doc.onto, members.onto_replace found, value.onto_eq, front, List.append_assoc]
  rfl

theorem ensure_refused (other : ∀ gap, options ≠ .emptyObject gap)
    (noObject : ∀ members, options ≠ .object members) :
    ensureIncludeUsage serde text.bytes = .error "stream_options is not an object" := by
  have inner : findObjectKeyValueSpan options.bytes (utf8Bytes "include_usage") = none :=
    @keyValueSpan_other (alone options) other noObject _
  rw [ensure_spelled serde shape streams unset found, inner]
  dsimp only
  rw [inject_other other noObject]
  rfl

theorem ensure_found
    (object : (∃ gap, options = .emptyObject gap) ∨ ∃ inner, options = .object inner) :
    ensureIncludeUsage serde text.bytes = .ok (Text.bytes { text with
      value := .object (members.replace streamOptionsKey.bytes (setIncludeUsage options)) }) := by
  rw [ensure_spelled serde shape streams unset found, bytes_replaced shape found]
  rcases object with ⟨gap, rfl⟩ | ⟨inner, rfl⟩
  · have nothing : findObjectKeyValueSpan (Doc.emptyObject gap).bytes (utf8Bytes "include_usage") =
        none :=
      @keyValueSpan_empty (alone (.emptyObject gap)) _ rfl _
    rw [nothing]
    dsimp only
    rw [inject_emptyObject]
    exact congrArg Except.ok (List.append_assoc _ _ _)
  · cases spelled : inner.spelled includeUsageKey.bytes with
    | none =>
      have nothing : findObjectKeyValueSpan (Doc.object inner).bytes (utf8Bytes "include_usage") =
          none :=
        @keyValueSpan_missing (alone (.object inner)) _ rfl _ spelled
      rw [nothing]
      dsimp only
      rw [inject_members spelled]
      exact congrArg Except.ok (List.append_assoc _ _ _)
    | some old =>
      have span : findObjectKeyValueSpan (Doc.object inner).bytes (utf8Bytes "include_usage") =
          some ((front (alone (.object inner)) inner includeUsageKey.bytes).length,
            (front (alone (.object inner)) inner includeUsageKey.bytes).length +
              old.bytes.length) :=
        @keyValueSpan_found (alone (.object inner)) _ rfl _ _ spelled
      have whole : (Doc.object inner).bytes = _ :=
        @bytes_spelled (alone (.object inner)) _ rfl _ _ spelled
      have set : (setIncludeUsage (.object inner)).bytes =
          front (alone (.object inner)) inner includeUsageKey.bytes ++
            (trueDoc.bytes ++ back (alone (.object inner)) inner includeUsageKey.bytes) := by
        rw [setIncludeUsage, spelled, Option.isSome_some, if_pos rfl, Doc.bytes, Doc.onto,
          inner.onto_replace spelled, trueDoc.onto_eq]
        rfl
      rw [span]
      dsimp only
      rw [set, bytes_spelled shape found, whole]
      exact congrArg Except.ok (splice _ _ _ _ _ _)

end Edits

end CodexGate.Dispatch.Openai
