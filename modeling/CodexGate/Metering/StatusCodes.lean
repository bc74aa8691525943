import CodexGate.Foundation.Decimals
import CodexGate.Metering.ResponseEvents

namespace CodexGate.Metering

open Foundation

def notExponent (c : Char) : Bool := c ≠ 'e' && c ≠ 'E'

def unsignedValue (digits : List Char) : Option ℚ :=
  (PlainDecimal.parse (String.ofList digits)).map PlainDecimal.value

def mantissaValue : List Char → Option ℚ
  | '-' :: digits => (unsignedValue digits).map fun value => -value
  | '+' :: digits => unsignedValue digits
  | digits => unsignedValue digits

/-- The number that a numeral stands for, with its sign, its fraction and its exponent. -/
def numeralValue (text : String) : Option ℚ :=
  let mantissa := mantissaValue (text.toList.takeWhile notExponent)
  match text.toList.dropWhile notExponent with
  | [] => mantissa
  | _ :: exponent => (signedDigits exponent).bind fun places => mantissa.map fun value => value * 10 ^ places

def numericValue : Json → Option ℚ
  | .number text | .string text => numeralValue text
  | _ => none

def outOfRange (member : Json) : Bool := (numericValue member).any fun value => value < 100 || 999 < value

def dropOutOfRange (key : String) (source : Json) : Json :=
  if (source.get key).any outOfRange then source.remove key else source

/-- An object as if the members that are out of range were absent. -/
def withoutOutOfRange (source : Json) : Json := dropOutOfRange "status_code" (dropOutOfRange "status" source)

def statusMember (source : Json) : Option Json := (source.get "status").or (source.get "status_code")

def statusRead (member : Json) : Option Nat := member.asU64.or (member.asStr.bind parseU64)

def statusOf (source : Json) : Option Nat := statusFromValue (some source)

theorem statusOf_eq (source : Json) :
    statusOf source = ((statusMember source).bind statusRead).bind statusFromU16 := by
  unfold statusOf statusFromValue statusMember
  rw [Option.bind_some]
  cases (source.get "status").or (source.get "status_code") <;> rfl

theorem digit_of_parseDigits {digits : List Char} {n : Nat} (read : parseDigits digits = some n) :
    ∀ c ∈ digits, c.isDigit = true := by
  intro c there
  unfold parseDigits at read
  split at read
  · rename_i wellFormed
    exact List.all_eq_true.mp wellFormed.2 c there
  · cases read

theorem unsignedValue_digits {digits : List Char} {n : Nat} (read : parseDigits digits = some n) :
    unsignedValue digits = some (n : ℚ) := by
  have plain : ∀ c ∈ digits, decide (c ≠ '.') = true := by
    intro c there
    have digit := digit_of_parseDigits read c there
    apply decide_eq_true
    intro point
    subst point
    exact absurd digit (by decide)
  have whole : digits.takeWhile (· ≠ '.') = digits := List.takeWhile_eq_self_iff.mpr plain
  have nothing : digits.dropWhile (· ≠ '.') = [] := List.dropWhile_eq_nil_iff.mpr plain
  have parsed : PlainDecimal.parse (String.ofList digits) = some ⟨n, 0⟩ := by
    simp only [PlainDecimal.parse, String.toList_ofList, whole, nothing, read, Option.map_some]
  rw [unsignedValue, parsed, Option.map_some, PlainDecimal.value]
  simp

theorem mantissaValue_of_unsigned {digits : List Char} {n : Nat} (read : unsignedDigits digits = some n) :
    mantissaValue digits = some (n : ℚ) := by
  unfold unsignedDigits at read
  split at read
  · exact unsignedValue_digits read
  · unfold mantissaValue
    split
    · have digit := digit_of_parseDigits read '-' (List.mem_cons_self ..)
      exact absurd digit (by decide)
    · rename_i digits unsigned
      exact absurd rfl (unsigned digits)
    · exact unsignedValue_digits read

theorem notExponent_of_unsigned {digits : List Char} {n : Nat} (read : unsignedDigits digits = some n) :
    ∀ c ∈ digits, notExponent c = true := by
  have ofDigit : ∀ c : Char, c.isDigit = true → notExponent c = true := by
    intro c digit
    simp only [notExponent, Bool.and_eq_true, decide_eq_true_eq]
    constructor
    · rintro rfl
      exact absurd digit (by decide)
    · rintro rfl
      exact absurd digit (by decide)
  intro c there
  unfold unsignedDigits at read
  split at read
  · rcases List.mem_cons.mp there with rfl | later
    · rfl
    · exact ofDigit c (digit_of_parseDigits read c later)
  · exact ofDigit c (digit_of_parseDigits read c there)

theorem numeralValue_of_u64 {text : String} {n : Nat} (read : parseU64 text = some n) :
    numeralValue text = some (n : ℚ) := by
  have digits := (Option.filter_eq_some_iff.mp read).1
  have whole := List.takeWhile_eq_self_iff.mpr (notExponent_of_unsigned digits)
  have nothing := List.dropWhile_eq_nil_iff.mpr (notExponent_of_unsigned digits)
  simp only [numeralValue, whole, nothing]
  exact mantissaValue_of_unsigned digits

theorem statusRead_value {member : Json} {n : Nat} (read : statusRead member = some n) :
    numericValue member = some (n : ℚ) := by
  cases member with
  | number text =>
    have parsed : parseU64 text = some n := by simpa [statusRead, Json.asU64, Json.asStr] using read
    exact numeralValue_of_u64 parsed
  | string text =>
    have parsed : parseU64 text = some n := by simpa [statusRead, Json.asU64, Json.asStr] using read
    exact numeralValue_of_u64 parsed
  | _ => simp [statusRead, Json.asU64, Json.asStr] at read

theorem outOfRange_read {member : Json} {n : Nat} (read : statusRead member = some n) :
    outOfRange member = true ↔ ¬ (100 ≤ n ∧ n ≤ 999) := by
  rw [outOfRange, statusRead_value read, Option.any_some, Bool.or_eq_true, decide_eq_true_eq,
    decide_eq_true_eq]
  have lower : (n : ℚ) < 100 ↔ n < 100 := by exact_mod_cast Iff.rfl
  have upper : (999 : ℚ) < n ↔ 999 < n := by exact_mod_cast Iff.rfl
  rw [lower, upper]
  omega

theorem statusFromU16_eq_some {n status : Nat} :
    statusFromU16 n = some status ↔ n % 2 ^ 16 = status ∧ 100 ≤ status ∧ status ≤ 999 := by
  unfold statusFromU16
  dsimp only
  split
  · rename_i within
    rw [Option.some.injEq]
    omega
  · rename_i outside
    constructor
    · intro absurdity
      cases absurdity
    · rintro ⟨rfl, within⟩
      exact absurd within outside

theorem get_dropOutOfRange_self (key : String) (source : Json) :
    (dropOutOfRange key source).get key = (source.get key).filter fun member => !outOfRange member := by
  unfold dropOutOfRange
  cases found : source.get key with
  | none => simp [found]
  | some member =>
    cases out : outOfRange member with
    | true => simp [out, Json.get_remove_self, Option.filter]
    | false => simp [found, out, Option.filter]

theorem get_dropOutOfRange_of_ne {key other : String} (source : Json) (different : other ≠ key) :
    (dropOutOfRange key source).get other = source.get other := by
  unfold dropOutOfRange
  split
  · exact Json.get_remove_of_ne source different
  · rfl

theorem statusMember_withoutOutOfRange (source : Json) :
    statusMember (withoutOutOfRange source) =
      ((source.get "status").filter fun member => !outOfRange member).or
        ((source.get "status_code").filter fun member => !outOfRange member) := by
  unfold statusMember withoutOutOfRange
  rw [get_dropOutOfRange_of_ne _ (by decide), get_dropOutOfRange_self, get_dropOutOfRange_self,
    get_dropOutOfRange_of_ne _ (by decide)]

/-- A number too wide for 16 bits that is a status once it is cut. -/
def Wraps (source : Json) : Prop :=
  ∃ n, (statusMember source).bind statusRead = some n ∧ 2 ^ 16 ≤ n ∧
    100 ≤ n % 2 ^ 16 ∧ n % 2 ^ 16 ≤ 999

/-- A `status` out of range beside a `status_code` that is a status. -/
def Shadows (source : Json) : Prop :=
  ∃ status, source.get "status" = some status ∧ outOfRange status = true ∧
    ∃ n, (source.get "status_code").bind statusRead = some n ∧ 100 ≤ n ∧ n ≤ 999

def GivesItsValue (source : Json) : Prop :=
  ∀ status, statusOf source = some status → ∀ member, statusMember source = some member →
    ∀ n, numericValue member = some n → (status : ℚ) = n

theorem statusFromU16_of_lt {n : Nat} (narrow : n < 2 ^ 16) (within : 100 ≤ n ∧ n ≤ 999) :
    statusFromU16 n = some n := by
  rw [statusFromU16_eq_some, Nat.mod_eq_of_lt narrow]
  exact ⟨rfl, within⟩

section Sources

variable {source : Json}

theorem statusOf_of_outOfRange {member : Json} (chosen : statusMember source = some member)
    (out : outOfRange member = true) (wraps : ¬ Wraps source) : statusOf source = none := by
  rw [statusOf_eq, chosen, Option.bind_some]
  cases read : statusRead member with
  | none => rfl
  | some n =>
    have outside := (outOfRange_read read).mp out
    rw [Option.bind_some]
    cases cut : statusFromU16 n with
    | none => rfl
    | some status =>
      have given := statusFromU16_eq_some.mp cut
      refine absurd ⟨n, ?_, ?_, ?_⟩ wraps
      · rw [chosen, Option.bind_some, read]
      · omega
      · omega

theorem statusOf_eq_some {status : Nat} :
    statusOf source = some status ↔
      ∃ member, statusMember source = some member ∧ ∃ n, statusRead member = some n ∧
        statusFromU16 n = some status := by
  rw [statusOf_eq]
  cases statusMember source with
  | none => simp
  | some member => simp [Option.bind_eq_some_iff]

theorem givesItsValue_of_not_wraps (wraps : ¬ Wraps source) : GivesItsValue source := by
  intro status given member chosen value numeric
  obtain ⟨same, picked, n, read, cut⟩ := statusOf_eq_some.mp given
  rw [chosen] at picked
  cases picked
  have itsValue := statusRead_value read
  rw [numeric] at itsValue
  cases itsValue
  have within := statusFromU16_eq_some.mp cut
  have narrow : n < 2 ^ 16 := by
    by_contra wide
    refine wraps ⟨n, ?_, ?_, ?_⟩
    · rw [chosen, Option.bind_some, read]
    · omega
    · omega
  rw [Nat.mod_eq_of_lt narrow] at within
  rw [within.1]

theorem kept_read {member : Json} {n : Nat} (kept : outOfRange member = false)
    (read : statusRead member = some n) : 100 ≤ n ∧ n ≤ 999 := by
  by_contra outside
  rw [(outOfRange_read read).mpr outside] at kept
  cases kept

theorem statusOf_withoutOutOfRange (wraps : ¬ Wraps source) (shadows : ¬ Shadows source) :
    statusOf source = statusOf (withoutOutOfRange source) := by
  rw [statusOf_eq (withoutOutOfRange source), statusMember_withoutOutOfRange]
  cases first : source.get "status" with
  | none =>
    rw [Option.filter_none, Option.none_or]
    have chosen : statusMember source = source.get "status_code" := by rw [statusMember, first, Option.none_or]
    cases second : source.get "status_code" with
    | none => rw [statusOf_eq, chosen, second, Option.filter_none]
    | some member =>
      rw [second] at chosen
      cases out : outOfRange member with
      | true =>
        rw [statusOf_of_outOfRange chosen out wraps]
        simp [Option.filter, out]
      | false =>
        rw [statusOf_eq, chosen]
        simp [Option.filter, out]
  | some member =>
    have chosen : statusMember source = some member := by rw [statusMember, first, Option.some_or]
    cases out : outOfRange member with
    | false =>
      rw [statusOf_eq, chosen]
      simp [Option.filter, out]
    | true =>
      rw [statusOf_of_outOfRange chosen out wraps]
      cases second : source.get "status_code" with
      | none => simp [Option.filter, out]
      | some code =>
        cases codeOut : outOfRange code with
        | true => simp [Option.filter, out, codeOut]
        | false =>
          cases read : statusRead code with
          | none => simp [Option.filter, out, codeOut, read]
          | some n =>
            refine absurd ⟨member, first, out, n, ?_, kept_read codeOut read⟩ shadows
            rw [second, Option.bind_some, read]

theorem not_wraps_of_givesItsValue (gives : GivesItsValue source) : ¬ Wraps source := by
  rintro ⟨n, found, wide, within⟩
  obtain ⟨member, chosen, read⟩ := Option.bind_eq_some_iff.mp found
  have cut : statusFromU16 n = some (n % 2 ^ 16) := statusFromU16_eq_some.mpr ⟨rfl, within⟩
  have given := statusOf_eq_some.mpr ⟨member, chosen, n, read, cut⟩
  have same := gives _ given member chosen n (statusRead_value read)
  have same' : n % 2 ^ 16 = n := by exact_mod_cast same
  omega

theorem not_shadows_of_withoutOutOfRange (gives : GivesItsValue source)
    (same : statusOf source = statusOf (withoutOutOfRange source)) : ¬ Shadows source := by
  rintro ⟨status, first, out, n, found, within⟩
  obtain ⟨code, second, read⟩ := Option.bind_eq_some_iff.mp found
  have codeIn : outOfRange code = false := by
    rw [← Bool.not_eq_true, outOfRange_read read]
    exact not_not.mpr within
  have chosen : statusMember source = some status := by rw [statusMember, first, Option.some_or]
  have fallsTo : statusOf (withoutOutOfRange source) = some n := by
    rw [statusOf_eq, statusMember_withoutOutOfRange, first, second]
    simp [Option.filter, out, codeIn, read, statusFromU16_of_lt (by omega : n < 2 ^ 16) within]
  rw [fallsTo] at same
  rw [statusOf_of_outOfRange chosen out (not_wraps_of_givesItsValue gives)] at same
  cases same

theorem reads_iff : GivesItsValue source ∧ statusOf source = statusOf (withoutOutOfRange source) ↔
    ¬ Wraps source ∧ ¬ Shadows source := by
  constructor
  · rintro ⟨gives, same⟩
    exact ⟨not_wraps_of_givesItsValue gives, not_shadows_of_withoutOutOfRange gives same⟩
  · rintro ⟨wraps, shadows⟩
    exact ⟨givesItsValue_of_not_wraps wraps, statusOf_withoutOutOfRange wraps shadows⟩

end Sources

section Consulted

variable {α β : Type} {read other : α → Option β} {sources : List α}

def consulted (read : α → Option β) : List α → List α
  | [] => []
  | source :: rest => if (read source).isSome then [source] else source :: consulted read rest

theorem findSome?_of_consulted {source : α} {result : β} (looked : source ∈ consulted read sources)
    (found : read source = some result) : sources.findSome? read = some result := by
  induction sources with
  | nil => cases looked
  | cons head rest ih =>
    rw [List.findSome?_cons]
    unfold consulted at looked
    cases first : read head with
    | none =>
      simp only [first, Option.isSome_none, Bool.false_eq_true, if_false] at looked
      rcases List.mem_cons.mp looked with rfl | later
      · rw [first] at found
        cases found
      · exact ih later
    | some early =>
      simp only [first, Option.isSome_some, if_true, List.mem_singleton] at looked
      rw [looked, first] at found
      exact found

theorem findSome?_congr_consulted (same : ∀ source ∈ consulted read sources, read source = other source) :
    sources.findSome? read = sources.findSome? other := by
  induction sources with
  | nil => rfl
  | cons head rest ih =>
    unfold consulted at same
    cases first : read head with
    | none =>
      simp only [first, Option.isSome_none, Bool.false_eq_true, if_false] at same
      have here := same head (List.mem_cons_self ..)
      rw [first] at here
      rw [List.findSome?_cons, List.findSome?_cons, first, ← here]
      exact ih fun source later => same source (List.mem_cons_of_mem _ later)
    | some result =>
      simp only [first, Option.isSome_some, if_true, List.mem_singleton, forall_eq] at same
      rw [List.findSome?_cons, List.findSome?_cons, ← same, first]

end Consulted

def failureSources (event : Json) : List Json :=
  (event.get "response").toList ++ (responseError event).toList ++ [event]

def unfinishedSources (event : Json) : List Json × Nat :=
  if (responseError event).isSome then (failureSources event, 502)
  else ((event.get "response").toList ++ [event], 200)

def statusSources (event : Json) : List Json × Nat :=
  if isInvalidEncryptedContent event then ([], 400)
  else
    match ((eventStatus event).bind kindOfStatus).or (eventType event) with
    | some "response.completed" | some "response.done" => ([], 200)
    | some "response.failed" => (failureSources event, 502)
    | some "response.incomplete" | some "response.cancelled" | some "response.canceled" =>
      unfinishedSources event
    | _ => (event :: (event.get "error").toList, 502)

def firstStatus (read : Json → Option Nat) (event : Json) : Nat :=
  ((statusSources event).1.findSome? read).getD (statusSources event).2

theorem findSome?_toList (source : Option Json) : source.toList.findSome? statusOf = statusFromValue source := by
  cases source with
  | none => rfl
  | some value => simp [statusOf]

theorem failureStatus_sources (event : Json) (code message : String) :
    (responseFailureStatus event code message).1 = ((failureSources event).findSome? statusOf).getD 502 := by
  simp [responseFailureStatus, failureSources, List.findSome?_append, findSome?_toList, statusOf]

theorem endedEarlyStatus_sources (event : Json) :
    endedEarlyStatus event = (((event.get "response").toList ++ [event]).findSome? statusOf).getD 200 := by
  simp [endedEarlyStatus, List.findSome?_append, findSome?_toList, statusOf]

theorem unfinishedSources_eq (event : Json) (code message : String) :
    ((unfinishedSources event).1.findSome? statusOf).getD (unfinishedSources event).2 =
      if (responseError event).isSome then (responseFailureStatus event code message).1
      else endedEarlyStatus event := by
  unfold unfinishedSources
  split
  · exact (failureStatus_sources event code message).symm
  · exact (endedEarlyStatus_sources event).symm

theorem errorEventStatus_sources (event : Json) :
    (errorEventStatus event).1 = ((event :: (event.get "error").toList).findSome? statusOf).getD 502 := by
  simp only [errorEventStatus, List.findSome?_cons, findSome?_toList, statusOf]
  cases statusFromValue (some event) <;> rfl

theorem terminalStatus_sources (event : Json) : (terminalStatus event).1 = firstStatus statusOf event := by
  unfold terminalStatus firstStatus statusSources
  split
  · rfl
  · generalize ((eventStatus event).bind kindOfStatus).or (eventType event) = kind
    split
    · rfl
    · rfl
    · exact failureStatus_sources _ _ _
    · refine Eq.trans ?_ (unfinishedSources_eq event "response_incomplete" "response incomplete").symm
      unfold responseIncompleteStatus
      split <;> rfl
    · refine Eq.trans ?_ (unfinishedSources_eq event "response_cancelled" "response cancelled").symm
      unfold responseCancelledStatus
      split <;> rfl
    · refine Eq.trans ?_ (unfinishedSources_eq event "response_cancelled" "response cancelled").symm
      unfold responseCancelledStatus
      split <;> rfl
    · refine (errorEventStatus_sources event).trans ?_
      first | rfl | (split <;> first | rfl | contradiction)

/-- The status of an event is the value of the member it comes from, and members that are out of
range count as absent wherever it is looked for. -/
structure StatusExact (event : Json) : Prop where
  value : ∀ source ∈ consulted statusOf (statusSources event).1, ∀ member, (statusOf source).isSome →
    statusMember source = some member →
    ∀ n, numericValue member = some n → ((terminalStatus event).1 : ℚ) = n
  absent : ∀ source ∈ consulted statusOf (statusSources event).1,
    statusOf source = statusOf (withoutOutOfRange source)
  falls : (terminalStatus event).1 = firstStatus (fun source => statusOf (withoutOutOfRange source)) event

theorem givesItsValue_of_statusExact {event source : Json} (exactly : StatusExact event)
    (looked : source ∈ consulted statusOf (statusSources event).1) : GivesItsValue source := by
  intro status given member chosen n numeric
  have returned : (terminalStatus event).1 = status := by
    rw [terminalStatus_sources, firstStatus, findSome?_of_consulted looked given, Option.getD_some]
  have same := exactly.value source looked member (by rw [given, Option.isSome_some]) chosen n numeric
  rwa [returned] at same

/-- A status is cut to 16 bits before it is checked, and a `status` hides the `status_code` beside it. -/
theorem statusExact_iff (event : Json) :
    StatusExact event ↔
      ∀ source ∈ consulted statusOf (statusSources event).1, ¬ Wraps source ∧ ¬ Shadows source := by
  constructor
  · intro exactly source looked
    exact reads_iff.mp ⟨givesItsValue_of_statusExact exactly looked, exactly.absent source looked⟩
  · intro sound
    have absent : ∀ source ∈ consulted statusOf (statusSources event).1,
        statusOf source = statusOf (withoutOutOfRange source) := by
      intro source looked
      exact (reads_iff.mpr (sound source looked)).2
    refine ⟨?_, absent, ?_⟩
    · intro source looked member given chosen n numeric
      obtain ⟨status, given⟩ := Option.isSome_iff_exists.mp given
      have returned : (terminalStatus event).1 = status := by
        rw [terminalStatus_sources, firstStatus, findSome?_of_consulted looked given, Option.getD_some]
      rw [returned]
      exact (reads_iff.mpr (sound source looked)).1 status given member chosen n numeric
    · rw [terminalStatus_sources, firstStatus, firstStatus, findSome?_congr_consulted absent]

def wideError : Json := .object [("type", .string "error"), ("status", .number "65736")]

theorem wideError_misread : (terminalStatus wideError).1 = 200 ∧ ¬ StatusExact wideError := by
  have returned : (terminalStatus wideError).1 = 200 := by decide +kernel
  refine ⟨returned, fun exactly => ?_⟩
  have numeric : numericValue (.number "65736") = some ((65736 : Nat) : ℚ) :=
    statusRead_value (by decide +kernel)
  have same := exactly.value wideError (by decide +kernel) (.number "65736") (by decide +kernel)
    (by decide +kernel) _ numeric
  rw [returned] at same
  exact absurd (by exact_mod_cast same : (200 : Nat) = 65736) (by decide)

end CodexGate.Metering
