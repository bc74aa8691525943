import CodexGate.Overrides.Model

namespace CodexGate.Overrides

open Foundation Foundation.SortedMaps

variable {crates : Crates} {context : RequestOverrideContext}

section Validated

def BodyRuleOk (crates : Crates) (rule : RequestBodyOverride) : Prop :=
  ∃ first rest, bodyPathSegments crates rule.path = .ok (first :: rest) ∧
    isReservedBodyRoot first = false

def HeaderRuleOk (crates : Crates) (rule : RequestHeaderOverride) : Prop :=
  ∀ name, crates.headerName (trim rule.name) = .ok name → isReservedHeader name = false

theorem bodyPathSegments_ne_nil {path : String} {segments : List String}
    (read : bodyPathSegments crates path = .ok segments) : segments ≠ [] := by
  unfold bodyPathSegments at read
  obtain ⟨-, read⟩ := refused_eq_ok.mp read
  obtain ⟨-, read⟩ := refused_eq_ok.mp read
  obtain ⟨-, read⟩ := refused_eq_ok.mp read
  obtain ⟨-, read⟩ := refused_eq_ok.mp read
  rw [← Except.ok.inj read]
  simp

theorem checkBodyRule_ok {rule : RequestBodyOverride} {segments : List String}
    (checked : checkBodyRule crates rule = .ok segments) : BodyRuleOk crates rule := by
  unfold checkBodyRule at checked
  dsimp only at checked
  split at checked
  · cases checked
  · rename_i found read
    split at checked
    · cases checked
    · rename_i free
      cases found with
      | nil => exact absurd rfl (bodyPathSegments_ne_nil read)
      | cons first rest => exact ⟨first, rest, read, by simpa using free⟩

theorem checkBody_ok {rules : List RequestBodyOverride} {seen : List (RequestOverrideScope × String)}
    (checked : checkBody crates seen rules = .ok ()) : ∀ rule ∈ rules, BodyRuleOk crates rule := by
  induction rules generalizing seen with
  | nil => exact fun rule member => by cases member
  | cons first rest ih =>
    unfold checkBody at checked
    split at checked
    · cases checked
    · rename_i segments one
      dsimp only at checked
      split at checked
      · cases checked
      · intro rule member
        rcases List.mem_cons.mp member with rfl | member
        · exact checkBodyRule_ok one
        · exact ih checked rule member

theorem checkHeader_ok {rule : RequestHeaderOverride} {name : HeaderName}
    (checked : checkHeader crates rule = .ok name) : HeaderRuleOk crates rule := by
  intro parsed read
  unfold checkHeader at checked
  dsimp only at checked
  rw [read] at checked
  dsimp only at checked
  split at checked
  · cases checked
  · rename_i free
    simpa using free

theorem checkHeaders_ok {rules : List RequestHeaderOverride}
    {seen : List (RequestOverrideScope × String)}
    (checked : checkHeaders crates seen rules = .ok ()) :
    ∀ rule ∈ rules, HeaderRuleOk crates rule := by
  induction rules generalizing seen with
  | nil => exact fun rule member => by cases member
  | cons first rest ih =>
    unfold checkHeaders at checked
    split at checked
    · cases checked
    · rename_i parsed one
      dsimp only at checked
      split at checked
      · cases checked
      · intro rule member
        rcases List.mem_cons.mp member with rfl | member
        · exact checkHeader_ok one
        · exact ih checked rule member

theorem validate_ok {overrides : RequestOverrides}
    (valid : validateRequestOverrides crates overrides = .ok ()) :
    (∀ rule ∈ overrides.headers, HeaderRuleOk crates rule) ∧
      ∀ rule ∈ overrides.body, BodyRuleOk crates rule := by
  unfold validateRequestOverrides at valid
  split at valid
  · cases valid
  split at valid
  · cases valid
  split at valid
  · cases valid
  split at valid
  · cases valid
  split at valid
  · cases valid
  · rename_i headers
    exact ⟨checkHeaders_ok headers, checkBody_ok valid⟩

theorem mem_bodyRules {overrides : RequestOverrides} (target : RequestOverrideTarget)
    {rule : RequestBodyOverride} (member : rule ∈ bodyRules overrides target) :
    rule ∈ overrides.body := by
  obtain ⟨scope, -, inside⟩ := List.mem_flatMap.mp member
  exact (List.mem_filter.mp inside).1

theorem mem_headerRules {overrides : RequestOverrides} (target : RequestOverrideTarget)
    {rule : RequestHeaderOverride} (member : rule ∈ headerRules overrides target) :
    rule ∈ overrides.headers := by
  obtain ⟨scope, -, inside⟩ := List.mem_flatMap.mp member
  exact (List.mem_filter.mp inside).1

end Validated

section Body

variable {first field : String} {rest : List String} {members : List (String × Json)}

theorem lookup_setPath (apart : field ≠ first) (replacement : Json) :
    (setPath replacement (first :: rest) members).lookup field = members.lookup field := by
  cases rest with
  | nil => exact lookup_insert_of_ne replacement members apart
  | cons next rest => exact lookup_insert_of_ne _ members apart

theorem lookup_removePath (apart : field ≠ first) :
    (removePath (first :: rest) members).lookup field = members.lookup field := by
  cases rest with
  | nil => exact lookup_remove_of_ne members apart
  | cons next rest =>
    unfold removePath
    split
    · exact lookup_insert_of_ne _ members apart
    · rfl

theorem applyBodyRule_object {rule : RequestBodyOverride} (ok : BodyRuleOk crates rule)
    (context : RequestOverrideContext) (members : List (String × Json)) :
    ∃ after, applyBodyRule crates context rule (.object members) = (.ok (), .object after) ∧
      ∀ field, isReservedBodyRoot field = true → after.lookup field = members.lookup field := by
  obtain ⟨first, rest, read, free⟩ := ok
  have apart : ∀ field, isReservedBodyRoot field = true → field ≠ first := by
    intro field reserved same
    rw [same, free] at reserved
    cases reserved
  unfold applyBodyRule
  rw [read]
  dsimp only
  cases rule.operation with
  | set =>
    refine ⟨setPath (expandValueTemplates context rule.value.val) (first :: rest) members, ?_,
      fun field reserved => lookup_setPath (apart field reserved) _⟩
    rw [setBodyPath, if_neg (List.cons_ne_nil first rest)]
  | remove => exact ⟨_, rfl, fun field reserved => lookup_removePath (apart field reserved)⟩

theorem applyBodyRules_object {rules : List RequestBodyOverride}
    (ok : ∀ rule ∈ rules, BodyRuleOk crates rule) (context : RequestOverrideContext)
    (members : List (String × Json)) :
    ∃ after, applyBodyRules crates context rules (.object members) = (.ok (), .object after) ∧
      ∀ field, isReservedBodyRoot field = true → after.lookup field = members.lookup field := by
  induction rules generalizing members with
  | nil => exact ⟨members, rfl, fun _ _ => rfl⟩
  | cons rule rest ih =>
    obtain ⟨middle, applied, kept⟩ :=
      applyBodyRule_object (ok rule List.mem_cons_self) context members
    obtain ⟨after, all, still⟩ := ih (fun rule member => ok rule (List.mem_cons_of_mem _ member)) middle
    refine ⟨after, ?_, fun field reserved => (still field reserved).trans (kept field reserved)⟩
    rw [applyBodyRules, applied]
    exact all

theorem applyBodyRule_other (rule : RequestBodyOverride) {value : Json}
    (other : ∀ members, value ≠ .object members) :
    (applyBodyRule crates context rule value).2 = value := by
  unfold applyBodyRule
  split
  · rfl
  · split
    · unfold setBodyPath
      split
      · rfl
      · split
        · exact absurd rfl (other _)
        · rfl
    · unfold removeBodyPath
      split
      · exact absurd rfl (other _)
      · rfl

theorem applyBodyRules_other (rules : List RequestBodyOverride) {value : Json}
    (other : ∀ members, value ≠ .object members) :
    (applyBodyRules crates context rules value).2 = value := by
  induction rules with
  | nil => rfl
  | cons rule rest ih =>
    have same := @applyBodyRule_other crates context rule value other
    unfold applyBodyRules
    split
    · rename_i middle applied
      rw [applied] at same
      rw [show middle = value from same]
      exact ih
    · rename_i error middle applied
      rw [applied] at same
      exact same

end Body

section Headers

variable {headers : HeaderMap} {name : HeaderName}

theorem applyHeaderRule_values {rule : RequestHeaderOverride} (ok : HeaderRuleOk crates rule)
    (context : RequestOverrideContext) (headers : HeaderMap)
    (reserved : isReservedHeader name = true) :
    (applyHeaderRule crates context rule headers).2.values name = headers.values name := by
  unfold applyHeaderRule
  split
  · rfl
  · rename_i parsed read
    have apart : name ≠ parsed := by
      intro same
      rw [same, ok parsed read] at reserved
      cases reserved
    split
    · split
      · rfl
      · exact headers.values_insert_of_ne _ apart
    · exact headers.values_remove_of_ne apart

theorem applyHeaderRules_values {rules : List RequestHeaderOverride}
    (ok : ∀ rule ∈ rules, HeaderRuleOk crates rule) (context : RequestOverrideContext)
    (headers : HeaderMap) (reserved : isReservedHeader name = true) :
    (applyHeaderRules crates context rules headers).2.values name = headers.values name := by
  induction rules generalizing headers with
  | nil => rfl
  | cons rule rest ih =>
    have first := applyHeaderRule_values (ok rule List.mem_cons_self) context headers reserved
    have later := fun headers => ih (fun rule member => ok rule (List.mem_cons_of_mem _ member)) headers
    unfold applyHeaderRules
    split
    · rename_i middle applied
      rw [applied] at first
      exact (later middle).trans first
    · rename_i error middle applied
      rw [applied] at first
      exact first

end Headers

/-- Overrides that have been validated leave alone what the gateway manages. -/
theorem overrides_frame {overrides : RequestOverrides}
    (valid : validateRequestOverrides crates overrides = .ok ()) (target : RequestOverrideTarget)
    (context : RequestOverrideContext) :
    (∀ value, ∀ field ∈ ["model", "stream", "type"],
        (applyBodyOverridesToValue crates context overrides target value).2.get field =
          value.get field) ∧
      (∀ members, ∃ after, applyBodyOverridesToValue crates context overrides target
        (.object members) = (.ok (), .object after)) ∧
      (∀ value, (∀ members, value ≠ .object members) →
        (applyBodyOverridesToValue crates context overrides target value).2 = value) ∧
      ∀ headers name, isReservedHeader name = true →
        (applyHeaderOverrides crates context overrides target headers).2.values name =
          headers.values name := by
  obtain ⟨headersOk, bodyOk⟩ := validate_ok valid
  have bodies := fun members => applyBodyRules_object
    (fun rule member => bodyOk rule (mem_bodyRules target member)) context members
  refine ⟨?_, ?_, fun value other => applyBodyRules_other _ other, ?_⟩
  · intro value field reserved
    have managed : isReservedBodyRoot field = true := by
      rcases List.mem_cons.mp reserved with rfl | reserved
      · decide
      rcases List.mem_cons.mp reserved with rfl | reserved
      · decide
      · rw [List.mem_singleton.mp reserved]
        decide
    cases value with
    | object members =>
      obtain ⟨after, applied, kept⟩ := bodies members
      rw [applyBodyOverridesToValue, applied]
      exact kept field managed
    | _ => rw [applyBodyOverridesToValue, applyBodyRules_other _ (fun members is => by cases is)]
  · intro members
    obtain ⟨after, applied, -⟩ := bodies members
    exact ⟨after, applied⟩
  · intro headers name reserved
    exact applyHeaderRules_values
      (fun rule member => headersOk rule (mem_headerRules target member)) context headers
      reserved

def plainCrates : Crates where
  headerName name := .ok (toAsciiLowercase name)
  headerValue value := .ok (value.toList.map fun c => UInt8.ofNat c.toNat)
  encodeOverrides _ := .ok []
  encodeValue _ := .ok []
  debug text := text

def codexOverrides : RequestOverrides where
  headers := [⟨.all, .set, "x-codex-window-id", requestIdTemplate⟩]
  body := [⟨.responses, .set, "client_metadata.x-codex-window-id",
    ⟨.string requestIdTemplate, .string _⟩⟩]

theorem codexOverrides_valid : validateRequestOverrides plainCrates codexOverrides = .ok () := rfl

theorem overrides_frame_codex :
    (applyBodyOverridesToValue plainCrates ⟨"request-123"⟩ codexOverrides .responses
        (.object [("model", .string "gpt")])).2.get "model" = some (.string "gpt") ∧
      (applyHeaderOverrides plainCrates ⟨"request-123"⟩ codexOverrides .responses
        [("host", [49])]).2.values "host" = [[49]] := by
  have frame := overrides_frame codexOverrides_valid .responses ⟨"request-123"⟩
  exact ⟨frame.1 (.object [("model", .string "gpt")]) "model" List.mem_cons_self,
    frame.2.2.2 [("host", [49])] "host" (by decide)⟩

end CodexGate.Overrides
