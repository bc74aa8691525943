import CodexGate.Foundation.JsonEdits
import CodexGate.Overrides.Frame

namespace CodexGate.Overrides

open Foundation Foundation.Json Foundation.SortedMaps

section Templates

variable {context : RequestOverrideContext}

theorem expandItems_eq_map (values : List Json) :
    expandItems context values = values.map (expandValueTemplates context) := by
  induction values with
  | nil => rfl
  | cons value rest ih => rw [expandItems, ih, List.map_cons]

theorem expandMembers_eq_map (members : List (String × Json)) :
    expandMembers context members =
      members.map fun member => (member.1, expandValueTemplates context member.2) := by
  induction members with
  | nil => rfl
  | cons member rest ih => rw [expandMembers, ih, List.map_cons]

theorem expandValueTemplates_ordered {value : Json} (ordered : value.Ordered) :
    (expandValueTemplates context value).Ordered := by
  induction ordered with
  | null => exact .null
  | bool value => exact .bool value
  | number text => exact .number text
  | string text => exact .string _
  | array each ih =>
    rw [expandValueTemplates, expandItems_eq_map]
    refine .array fun item member => ?_
    obtain ⟨source, inside, rfl⟩ := List.mem_map.mp member
    exact ih source inside
  | object increasing each ih =>
    rw [expandValueTemplates, expandMembers_eq_map]
    refine .object (List.pairwise_map.mpr increasing) fun member inside => ?_
    obtain ⟨source, there, rfl⟩ := List.mem_map.mp inside
    exact ih source there

end Templates

section Paths

variable {members : List (String × Json)} {segments : List String}

theorem editAt_some (value : Json) {path : List String} (inner : path ≠ []) (old : Option Json) :
    editAt path (some value) old = editAt path (some value) (some (.object (entries old))) := by
  cases path with
  | nil => exact absurd rfl inner
  | cons key rest => rfl

theorem setPath_eq (replacement : Json) (inner : segments ≠ []) (members : List (String × Json)) :
    some (.object (setPath replacement segments members)) =
      editAt segments (some replacement) (some (.object members)) := by
  induction segments generalizing members with
  | nil => exact absurd rfl inner
  | cons first rest ih =>
    cases rest with
    | nil => rfl
    | cons next rest =>
      show some (Json.object (put first (some (.object (setPath replacement (next :: rest)
        (entries (members.lookup first))))) members)) = _
      rw [ih (List.cons_ne_nil next rest), ← editAt_some replacement (List.cons_ne_nil next rest)]
      rfl

theorem removePath_eq (inner : segments ≠ []) (ordered : (Json.object members).Ordered) :
    some (.object (removePath segments members)) =
      editAt segments none (some (.object members)) := by
  induction segments generalizing members with
  | nil => exact absurd rfl inner
  | cons first rest ih =>
    cases rest with
    | nil => rfl
    | cons next rest =>
      show _ = some (Json.object (put first (editAt (next :: rest) none (members.lookup first))
        members))
      unfold removePath
      split
      · rename_i inside found
        rw [found, ← ih (List.cons_ne_nil next rest) (ordered.get found)]
        rfl
      · rename_i other
        have left : editAt (next :: rest) none (members.lookup first) = members.lookup first := by
          rw [editAt_cons, if_pos]
          cases found : members.lookup first with
          | none => rfl
          | some held =>
            cases held with
            | object inside => exact absurd found (other inside)
            | _ => rfl
        rw [left, put_lookup ordered.increasing]

end Paths

section Rules

variable {crates : Crates} {context : RequestOverrideContext}

def segmentsOf (crates : Crates) (rule : RequestBodyOverride) : List String :=
  match bodyPathSegments crates rule.path with
  | .ok segments => segments
  | .error _ => []

def editOf (crates : Crates) (context : RequestOverrideContext) (rule : RequestBodyOverride) : Edit where
  path := segmentsOf crates rule
  value :=
    match rule.operation with
    | .set => some (expandValueTemplates context rule.value.val)
    | .remove => none

theorem editOf_proper (rule : RequestBodyOverride) : Proper (editOf crates context rule).value := by
  intro held is
  unfold editOf at is
  dsimp only at is
  split at is
  · cases is
    exact expandValueTemplates_ordered rule.value.property
  · cases is

theorem applyBodyRule_eq {rule : RequestBodyOverride} (ok : BodyRuleOk crates rule)
    {members : List (String × Json)} (ordered : (Json.object members).Ordered) :
    ∃ after, applyBodyRule crates context rule (.object members) = (.ok (), .object after) ∧
      some (.object after) = editAt (editOf crates context rule).path (editOf crates context rule).value
        (some (.object members)) := by
  obtain ⟨first, rest, read, -⟩ := ok
  have inner := List.cons_ne_nil first rest
  unfold applyBodyRule editOf segmentsOf
  rw [read]
  dsimp only
  cases rule.operation with
  | set =>
    refine ⟨setPath (expandValueTemplates context rule.value.val) (first :: rest) members, ?_,
      setPath_eq _ inner members⟩
    rw [setBodyPath, if_neg inner]
  | remove => exact ⟨removePath (first :: rest) members, rfl, removePath_eq inner ordered⟩

theorem applyBodyRules_eq {rules : List RequestBodyOverride}
    (ok : ∀ rule ∈ rules, BodyRuleOk crates rule) {members : List (String × Json)}
    (ordered : (Json.object members).Ordered) :
    ∃ after, applyBodyRules crates context rules (.object members) = (.ok (), .object after) ∧
      some (.object after) = editAll (rules.map (editOf crates context)) (some (.object members)) := by
  induction rules generalizing members with
  | nil => exact ⟨members, rfl, rfl⟩
  | cons rule rest ih =>
    obtain ⟨middle, applied, edited⟩ := applyBodyRule_eq (ok rule List.mem_cons_self) ordered
    have still : (Json.object middle).Ordered := by
      have proper : Proper (some (Json.object members)) := by
        rintro held ⟨⟩
        exact ordered
      exact (editOf_proper rule).edit proper _ edited.symm
    obtain ⟨after, all, last⟩ := ih (fun rule member => ok rule (List.mem_cons_of_mem _ member)) still
    refine ⟨after, ?_, ?_⟩
    · rw [applyBodyRules, applied]
      exact all
    · rw [last, edited]
      rfl

end Rules

/-- Overrides that have been validated give the same when they are applied again; only the order
within each scope matters; and the protocol's own rules have the last word. -/
theorem overrides_layered {crates : Crates} {overrides : RequestOverrides}
    (valid : validateRequestOverrides crates overrides = .ok ()) (target : RequestOverrideTarget)
    (context : RequestOverrideContext) :
    (∀ members, (Json.object members).Ordered →
      ∃ after, applyBodyOverridesToValue crates context overrides target (.object members) =
          (.ok (), .object after) ∧
        applyBodyOverridesToValue crates context overrides target (.object after) =
          (.ok (), .object after)) ∧
      (∀ other : RequestOverrides,
        (∀ scope, other.body.filter (·.scope = scope) = overrides.body.filter (·.scope = scope)) →
        ∀ value, applyBodyOverridesToValue crates context other target value =
          applyBodyOverridesToValue crates context overrides target value) ∧
      ∀ members, (Json.object members).Ordered → ∀ scope, targetSpecificScope target = some scope →
        ∀ before rule after, overrides.body.filter (·.scope = scope) = before ++ rule :: after →
          rule.operation = .set →
          (∀ later ∈ after, Apart (segmentsOf crates rule) (segmentsOf crates later)) →
          readAt (segmentsOf crates rule) (some (applyBodyOverridesToValue crates context overrides
            target (.object members)).2) = some (expandValueTemplates context rule.value.val) := by
  have ok : ∀ rule ∈ bodyRules overrides target, BodyRuleOk crates rule :=
    fun rule member => (validate_ok valid).2 rule (mem_bodyRules target member)
  refine ⟨?_, ?_, ?_⟩
  · intro members ordered
    obtain ⟨after, applied, edited⟩ := @applyBodyRules_eq crates context _ ok members ordered
    have proper : Proper (some (Json.object members)) := by
      rintro held ⟨⟩
      exact ordered
    have new : ∀ edit ∈ (bodyRules overrides target).map (editOf crates context),
        Proper edit.value := by
      intro edit member
      obtain ⟨rule, -, rfl⟩ := List.mem_map.mp member
      exact editOf_proper rule
    have still : (Json.object after).Ordered := Proper.editAll new proper _ edited.symm
    obtain ⟨again, repeated, twice⟩ := @applyBodyRules_eq crates context _ ok after still
    rw [edited, editAll_editAll new proper, ← edited] at twice
    cases twice
    exact ⟨after, applied, repeated⟩
  · intro other same value
    unfold applyBodyOverridesToValue bodyRules
    simp only [same]
  · intro members ordered scope own before rule after split set apart
    obtain ⟨held, applied, edited⟩ := @applyBodyRules_eq crates context _ ok members ordered
    have rules : bodyRules overrides target =
        (overrides.body.filter (·.scope = .all) ++ before) ++ rule :: after := by
      unfold bodyRules scopesOf
      rw [own]
      simp [split]
    have edit : editOf crates context rule =
        ⟨segmentsOf crates rule, some (expandValueTemplates context rule.value.val)⟩ := by
      unfold editOf
      rw [set]
    unfold applyBodyOverridesToValue
    rw [applied]
    show readAt _ (some (.object held)) = _
    rw [edited, rules, List.map_append, List.map_cons, edit]
    refine readAt_editAll _ (fun later member => ?_) _
    obtain ⟨source, inside, rfl⟩ := List.mem_map.mp member
    exact apart source inside

/-- The rule for the protocol stands before the one for all, and still has the last word. -/
def layeredOverrides : RequestOverrides where
  headers := []
  body := [
    ⟨.responses, .set, "client_metadata.mode", ⟨.string "responses", .string _⟩⟩,
    ⟨.all, .set, "client_metadata.mode", ⟨.string "all", .string _⟩⟩]

theorem layeredOverrides_valid : validateRequestOverrides plainCrates layeredOverrides = .ok () :=
  rfl

theorem overrides_layered_mode :
    readAt ["client_metadata", "mode"] (some (applyBodyOverridesToValue plainCrates ⟨"request-123"⟩
      layeredOverrides .responses (.object [])).2) = some (.string "responses") := by
  let rule : RequestBodyOverride := ⟨.responses, .set, "client_metadata.mode", ⟨.string "responses", .string _⟩⟩
  have segments : segmentsOf plainCrates rule = ["client_metadata", "mode"] := by decide +kernel
  have value : expandValueTemplates ⟨"request-123"⟩ (.string "responses") = .string "responses" := by
    decide +kernel
  have nothing : (Json.object []).Ordered := .object List.Pairwise.nil fun member there => by cases there
  have layered := (overrides_layered layeredOverrides_valid .responses ⟨"request-123"⟩).2.2 [] nothing
    .responses rfl [] rule [] rfl rfl fun later there => by cases there
  rw [segments] at layered
  exact layered.trans (congrArg some value)

end CodexGate.Overrides
