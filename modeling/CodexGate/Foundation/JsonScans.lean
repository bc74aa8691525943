import CodexGate.Foundation.JsonMembers

namespace CodexGate.Foundation.JsonText

/-- A scan that counts brackets. Above `floor` it passes over strings, and every other byte only
moves its depth. -/
structure Skims {α : Type} (scan : Int → Bytes → α) (weight : UInt8 → Int) (floor : Int) :
    Prop where
  text : ∀ depth (spelling : Spelling) rest, floor < depth →
    scan depth (spelling.onto rest) = scan depth rest
  byte : ∀ depth byte rest, byte ≠ quote → floor < depth + weight byte →
    scan depth (byte :: rest) = scan (depth + weight byte) rest
  blank : ∀ byte, isBlank byte = true → weight byte = 0
  word : ∀ byte, isWordByte byte = true → weight byte = 0
  comma : weight comma = 0
  colon : weight colon = 0
  brackets : 0 ≤ weight openBracket ∧ weight openBracket + weight closeBracket = 0
  braces : 0 ≤ weight openBrace ∧ weight openBrace + weight closeBrace = 0

namespace Skims

variable {α : Type} {scan : Int → Bytes → α} {weight : UInt8 → Int} {floor depth : Int}
  (skims : Skims scan weight floor)
include skims

theorem level (above : floor < depth) {byte : UInt8} (apart : byte ≠ quote)
    (level : weight byte = 0) (rest : Bytes) : scan depth (byte :: rest) = scan depth rest := by
  have moved := skims.byte depth byte rest apart (by omega)
  rwa [level, Int.add_zero] at moved

theorem run (above : floor < depth) {bytes : Bytes}
    (quiet : ∀ byte ∈ bytes, byte ≠ quote ∧ weight byte = 0) (rest : Bytes) :
    scan depth (bytes ++ rest) = scan depth rest := by
  induction bytes with
  | nil => rfl
  | cons byte tail ih =>
    have first := quiet byte List.mem_cons_self
    rw [List.cons_append, skims.level above first.1 first.2]
    exact ih fun other member => quiet other (List.mem_cons_of_mem _ member)

theorem gap (above : floor < depth) (gap : Gap) (rest : Bytes) :
    scan depth (gap.bytes ++ rest) = scan depth rest := by
  apply skims.run above
  intro byte member
  have blank := gap.blank byte member
  refine ⟨?_, skims.blank byte blank⟩
  intro same
  rw [same] at blank
  cases blank

theorem label (above : floor < depth) (label : Label) (rest : Bytes) :
    scan depth (label.onto rest) = scan depth rest := by
  rw [Label.onto, skims.gap above, skims.text _ _ _ above, skims.gap above,
    skims.level above (by decide) skims.colon, skims.gap above]

theorem separator (above : floor < depth) (after : Gap) (rest : Bytes) :
    scan depth (after.bytes ++ JsonText.comma :: rest) = scan depth rest := by
  rw [skims.gap above, skims.level above (by decide) skims.comma]

theorem enclosed (above : floor < depth) {opening closing : UInt8}
    (apart : opening ≠ quote ∧ closing ≠ quote)
    (balanced : 0 ≤ weight opening ∧ weight opening + weight closing = 0)
    {inner : Bytes → Bytes}
    (passes : floor < depth + weight opening → ∀ rest,
      scan (depth + weight opening) (inner rest) = scan (depth + weight opening) rest)
    (rest : Bytes) :
    scan depth (opening :: inner (closing :: rest)) = scan depth rest := by
  have deeper : floor < depth + weight opening := by omega
  have back : depth + weight opening + weight closing = depth := by omega
  have closed := skims.byte (depth + weight opening) closing rest apart.2 (by omega)
  rw [skims.byte depth opening _ apart.1 deeper, passes deeper, closed, back]

end Skims

mutual

theorem Skims.doc {α : Type} {scan : Int → Bytes → α} {weight : UInt8 → Int} {floor : Int}
    (skims : Skims scan weight floor) (doc : Doc) {depth : Int} (above : floor < depth)
    (rest : Bytes) : scan depth (doc.onto rest) = scan depth rest := by
  cases doc with
  | word word =>
    apply skims.run above
    intro byte member
    have written := word.word byte member
    refine ⟨?_, skims.word byte written⟩
    intro same
    rw [same] at written
    cases written
  | text spelling => exact skims.text depth spelling rest above
  | emptyArray gap =>
    exact skims.enclosed above (by decide) skims.brackets (fun deeper => skims.gap deeper gap) rest
  | array elements =>
    exact skims.enclosed above (by decide) skims.brackets
      (fun deeper => skims.elements elements deeper) rest
  | emptyObject gap =>
    exact skims.enclosed above (by decide) skims.braces (fun deeper => skims.gap deeper gap) rest
  | object members =>
    exact skims.enclosed above (by decide) skims.braces
      (fun deeper => skims.members members deeper) rest

theorem Skims.elements {α : Type} {scan : Int → Bytes → α} {weight : UInt8 → Int} {floor : Int}
    (skims : Skims scan weight floor) (elements : Elements) {depth : Int} (above : floor < depth)
    (rest : Bytes) : scan depth (elements.onto rest) = scan depth rest := by
  cases elements with
  | last before value after =>
    rw [Elements.onto, skims.gap above, skims.doc value above, skims.gap above]
  | more before value after others =>
    rw [Elements.onto, skims.gap above, skims.doc value above, skims.separator above,
      skims.elements others above]

theorem Skims.members {α : Type} {scan : Int → Bytes → α} {weight : UInt8 → Int} {floor : Int}
    (skims : Skims scan weight floor) (members : Members) {depth : Int} (above : floor < depth)
    (rest : Bytes) : scan depth (members.onto rest) = scan depth rest := by
  cases members with
  | last label value after =>
    rw [Members.onto, skims.label above, skims.doc value above, skims.gap above]
  | more label value after others =>
    rw [Members.onto, skims.label above, skims.doc value above, skims.separator above,
      skims.members others above]

end

end CodexGate.Foundation.JsonText
