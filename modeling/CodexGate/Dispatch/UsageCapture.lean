import CodexGate.Metering.ResponseEvents
import Mathlib.Data.List.DropRight
import Mathlib.Data.List.Infix

namespace CodexGate.Dispatch

open Foundation Metering

def isAsciiWhitespace (byte : UInt8) : Bool := byte ∈ [9, 10, 12, 13, 32]

structure UsageCaptureBuffer where
  head : List UInt8
  tail : List UInt8
  totalSeen : Nat
  headLimit : Nat
  tailLimit : Nat

namespace UsageCaptureBuffer

def new (maxBytes tailBytes : Nat) : UsageCaptureBuffer :=
  let maxBytes := max maxBytes 1
  let tailLimit := min tailBytes maxBytes
  ⟨[], [], 0, maxBytes - tailLimit, tailLimit⟩

def pushTail (self : UsageCaptureBuffer) (bytes : List UInt8) : UsageCaptureBuffer :=
  if self.tailLimit = 0 ∨ bytes = [] then self
  else if self.tailLimit ≤ bytes.length then
    { self with tail := bytes.drop (bytes.length - self.tailLimit) }
  else
    let tail := self.tail ++ bytes
    { self with tail := tail.drop (tail.length - self.tailLimit) }

def push (self : UsageCaptureBuffer) (data : List UInt8) : UsageCaptureBuffer :=
  let take := if self.head.length < self.headLimit then
    min (self.headLimit - self.head.length) data.length else 0
  { self with
    totalSeen := saturatingAddU64 self.totalSeen data.length
    head := self.head ++ data.take take }.pushTail (data.drop take)

def isTruncated (self : UsageCaptureBuffer) : Bool :=
  saturatingAddU64 self.headLimit self.tailLimit < self.totalSeen

def toVec (self : UsageCaptureBuffer) : List UInt8 := self.head ++ self.tail

theorem pushTail_seen (self : UsageCaptureBuffer) (bytes : List UInt8) :
    (self.pushTail bytes).totalSeen = self.totalSeen ∧
      (self.pushTail bytes).headLimit = self.headLimit ∧
      (self.pushTail bytes).tailLimit = self.tailLimit := by
  unfold pushTail
  split
  · exact ⟨rfl, rfl, rfl⟩
  · split <;> exact ⟨rfl, rfl, rfl⟩

theorem push_seen (self : UsageCaptureBuffer) (data : List UInt8) :
    (self.push data).totalSeen = saturatingAddU64 self.totalSeen data.length ∧
      (self.push data).headLimit = self.headLimit ∧ (self.push data).tailLimit = self.tailLimit :=
  pushTail_seen _ _

end UsageCaptureBuffer

structure StringScan where
  inString : Bool
  escape : Bool

def StringScan.next (scan : StringScan) (byte : UInt8) : StringScan :=
  if scan.escape then { scan with escape := false }
  else if byte = '\\'.toUInt8 then { scan with escape := true }
  else if byte = '"'.toUInt8 then { scan with inString := false }
  else scan

def nestedValue (depth : Int) (scan : StringScan) : List UInt8 → Option (List UInt8)
  | [] => none
  | byte :: rest =>
    if scan.inString then (nestedValue depth (scan.next byte) rest).map (byte :: ·)
    else if byte = '"'.toUInt8 then (nestedValue depth ⟨true, false⟩ rest).map (byte :: ·)
    else if byte = '\x7b'.toUInt8 ∨ byte = '['.toUInt8 then
      (nestedValue (depth + 1) scan rest).map (byte :: ·)
    else if byte = '\x7d'.toUInt8 ∨ byte = ']'.toUInt8 then
      if depth = 1 then some [byte] else (nestedValue (depth - 1) scan rest).map (byte :: ·)
    else (nestedValue depth scan rest).map (byte :: ·)

def stringValue (escape : Bool) : List UInt8 → Option (List UInt8)
  | [] => none
  | byte :: rest =>
    if escape then (stringValue false rest).map (byte :: ·)
    else if byte = '\\'.toUInt8 then (stringValue true rest).map (byte :: ·)
    else if byte = '"'.toUInt8 then some [byte]
    else (stringValue false rest).map (byte :: ·)

def endsPrimitive (byte : UInt8) : Bool :=
  byte = ','.toUInt8 || byte = '\x7d'.toUInt8 || byte = ']'.toUInt8 || isAsciiWhitespace byte

def scanJsonValue : List UInt8 → Option (List UInt8)
  | [] => none
  | byte :: rest =>
    if byte = '\x7b'.toUInt8 ∨ byte = '['.toUInt8 then nestedValue 0 ⟨false, false⟩ (byte :: rest)
    else if byte = '"'.toUInt8 then (stringValue false rest).map (byte :: ·)
    else some ((byte :: rest).takeWhile fun byte => !endsPrimitive byte)

def jsonValueAfterKey (rest : List UInt8) : Option (List UInt8) :=
  match rest.dropWhile isAsciiWhitespace with
  | byte :: rest =>
    if byte = ':'.toUInt8 then scanJsonValue (rest.dropWhile isAsciiWhitespace) else none
  | [] => none

def parseUsageValue (apiFormat : String) (value : Json) : Option Usage :=
  if apiFormat = "chat_completions" ∨ apiFormat = "responses" then parseUsage value else none

def extractUsage (apiFormat : String) (root : Json) : Option Usage :=
  if apiFormat = "chat_completions" then (root.get "usage").bind parseUsage
  else if apiFormat = "responses" then eventUsage root
  else none

section Extract

variable (fromSlice : List UInt8 → Except String Json) (apiFormat : String)

def extractUsageFromWindow (window : List UInt8) : Option Usage :=
  window.tails.reverse.findSome? fun rest => do
    let after ← rest.dropPrefix? (utf8Bytes "\"usage\"")
    let value ← jsonValueAfterKey after
    let read ← (fromSlice value).toOption
    parseUsageValue apiFormat read

def extractUsageFromCapture (capture : UsageCaptureBuffer) : Option Usage :=
  let window := capture.toVec
  let whole := if capture.isTruncated then none
    else (fromSlice window).toOption.bind (extractUsage apiFormat)
  whole.or (extractUsageFromWindow fromSlice apiFormat window)

end Extract

section Ends

variable {α : Type} {limit : Nat} {seen bytes : List α}

theorem rtake_append_rtake :
    (seen.rtake limit ++ bytes).rtake limit = (seen ++ bytes).rtake limit := by
  have inside : min (limit - bytes.length) limit = limit - bytes.length := by omega
  simp only [List.rtake_eq_reverse_take_reverse, List.reverse_append, List.reverse_reverse,
    List.take_append, List.take_take, List.length_reverse, inside]

theorem rtake_append_of_le (enough : limit ≤ bytes.length) :
    (seen ++ bytes).rtake limit = bytes.rtake limit := by
  have none_left : limit - bytes.length = 0 := by omega
  simp only [List.rtake_eq_reverse_take_reverse, List.reverse_append, List.take_append,
    List.length_reverse, none_left, List.take_zero, List.append_nil]

theorem rtake_of_length_le (short : seen.length ≤ limit) : seen.rtake limit = seen := by
  rw [List.rtake, Nat.sub_eq_zero_of_le short, List.drop_zero]

theorem length_rtake : (seen.rtake limit).length = min limit seen.length := by
  rw [List.rtake, List.length_drop]
  omega

end Ends

namespace UsageCaptureBuffer

variable {self : UsageCaptureBuffer} {body data : List UInt8}

structure Captures (buffer : UsageCaptureBuffer) (body : List UInt8) : Prop where
  head : buffer.head = body.take buffer.headLimit
  tail : buffer.tail = (body.drop buffer.headLimit).rtake buffer.tailLimit
  seen : buffer.totalSeen = min body.length u64Max

theorem Captures.unique {other : UsageCaptureBuffer} (captures : self.Captures body)
    (captures' : other.Captures body) (headLimit : self.headLimit = other.headLimit)
    (tailLimit : self.tailLimit = other.tailLimit) : self = other := by
  have head : self.head = other.head := by rw [captures.head, captures'.head, headLimit]
  have tail : self.tail = other.tail := by rw [captures.tail, captures'.tail, headLimit, tailLimit]
  have seen := captures.seen.trans captures'.seen.symm
  cases self
  cases other
  subst headLimit tailLimit head tail seen
  rfl

theorem pushTail_tail (self : UsageCaptureBuffer) {earlier : List UInt8}
    (kept : self.tail = earlier.rtake self.tailLimit) (bytes : List UInt8) :
    (self.pushTail bytes).tail = (earlier ++ bytes).rtake self.tailLimit := by
  unfold pushTail
  split
  · rename_i nothing
    rw [kept]
    rcases nothing with none_kept | none_pushed
    · rw [none_kept, List.rtake_zero, List.rtake_zero]
    · rw [none_pushed, List.append_nil]
  · split
    · rename_i enough
      rw [rtake_append_of_le enough]
      rfl
    · rw [← rtake_append_rtake, ← kept]
      rfl

theorem pushTail_head (self : UsageCaptureBuffer) (bytes : List UInt8) :
    (self.pushTail bytes).head = self.head := by
  unfold pushTail
  split
  · rfl
  · split <;> rfl

theorem Captures.push (captures : self.Captures body) (data : List UInt8) :
    (self.push data).Captures (body ++ data) := by
  obtain ⟨seen, headLimit, tailLimit⟩ := push_seen self data
  have room : (body.take self.headLimit).length = min self.headLimit body.length := List.length_take
  have taken : (if self.head.length < self.headLimit then
      min (self.headLimit - self.head.length) data.length else 0) =
      min (self.headLimit - body.length) data.length := by
    rw [captures.head, room]
    split <;> omega
  have to_head : data.take (min (self.headLimit - body.length) data.length) =
      data.take (self.headLimit - body.length) := List.take_eq_take_min.symm
  have to_tail : data.drop (min (self.headLimit - body.length) data.length) =
      data.drop (self.headLimit - body.length) := List.drop_eq_drop_min.symm
  constructor
  · rw [headLimit, UsageCaptureBuffer.push, pushTail_head]
    dsimp only
    rw [taken, to_head, captures.head, List.take_append]
  · rw [headLimit, tailLimit, UsageCaptureBuffer.push, taken, to_tail, List.drop_append]
    apply pushTail_tail
    exact captures.tail
  · rw [seen, captures.seen, saturatingAddU64, List.length_append]
    omega

theorem new_captures (maxBytes tailBytes : Nat) : (new maxBytes tailBytes).Captures [] := by
  refine ⟨List.take_nil.symm, ?_, rfl⟩
  rw [List.drop_nil, List.rtake_nil]
  rfl

def pushAll (self : UsageCaptureBuffer) (chunks : List (List UInt8)) : UsageCaptureBuffer :=
  chunks.foldl push self

theorem pushAll_captures (captures : self.Captures body) (chunks : List (List UInt8)) :
    (self.pushAll chunks).Captures (body ++ chunks.flatten) ∧
      (self.pushAll chunks).headLimit = self.headLimit ∧
      (self.pushAll chunks).tailLimit = self.tailLimit := by
  induction chunks generalizing self body with
  | nil => exact ⟨by rw [List.flatten_nil, List.append_nil]; exact captures, rfl, rfl⟩
  | cons chunk rest ih =>
    obtain ⟨captured, headLimit, tailLimit⟩ := ih (captures.push chunk)
    obtain ⟨-, sameHead, sameTail⟩ := push_seen self chunk
    rw [List.flatten_cons, ← List.append_assoc]
    exact ⟨captured, headLimit.trans sameHead, tailLimit.trans sameTail⟩

def isizeMax : Nat := 2 ^ 63 - 1

def Fits (self : UsageCaptureBuffer) : Prop :=
  self.head.length ≤ isizeMax ∧ self.tail.length ≤ isizeMax

instance (self : UsageCaptureBuffer) : Decidable self.Fits := inferInstanceAs (Decidable (_ ∧ _))

def window (maxBytes tailBytes : UInt64) (body : List UInt8) : List UInt8 :=
  let limits := new maxBytes.toNat tailBytes.toNat
  body.take limits.headLimit ++ (body.drop limits.headLimit).rtake limits.tailLimit

section Window

variable (maxBytes tailBytes : UInt64)

theorem new_limits :
    (new maxBytes.toNat tailBytes.toNat).headLimit + (new maxBytes.toNat tailBytes.toNat).tailLimit =
      max 1 maxBytes.toNat := by
  simp only [new]
  omega

variable (chunks : List (List UInt8))

def captured : UsageCaptureBuffer := (new maxBytes.toNat tailBytes.toNat).pushAll chunks

theorem captured_captures :
    (captured maxBytes tailBytes chunks).Captures chunks.flatten ∧
      (captured maxBytes tailBytes chunks).headLimit = (new maxBytes.toNat tailBytes.toNat).headLimit ∧
      (captured maxBytes tailBytes chunks).tailLimit = (new maxBytes.toNat tailBytes.toNat).tailLimit :=
  pushAll_captures (new_captures maxBytes.toNat tailBytes.toNat) chunks

theorem captured_toVec :
    (captured maxBytes tailBytes chunks).toVec = window maxBytes tailBytes chunks.flatten := by
  obtain ⟨captures, headLimit, tailLimit⟩ := captured_captures maxBytes tailBytes chunks
  rw [toVec, captures.head, captures.tail, headLimit, tailLimit]
  rfl

theorem length_window (body : List UInt8) :
    (window maxBytes tailBytes body).length = min (max 1 maxBytes.toNat) body.length := by
  have limits := new_limits maxBytes tailBytes
  rw [window, List.length_append, length_rtake, List.length_take, List.length_drop]
  omega

theorem window_eq_iff (body : List UInt8) :
    window maxBytes tailBytes body = body ↔ body.length ≤ max 1 maxBytes.toNat := by
  have limits := new_limits maxBytes tailBytes
  constructor
  · intro whole
    have length := length_window maxBytes tailBytes body
    rw [whole] at length
    omega
  · intro fits
    rw [window, rtake_of_length_le (by rw [List.length_drop]; omega), List.take_append_drop]

theorem isTruncated_iff (fits : (captured maxBytes tailBytes chunks).Fits) :
    (captured maxBytes tailBytes chunks).isTruncated = true ↔
      max 1 maxBytes.toNat < chunks.flatten.length := by
  obtain ⟨captures, headLimit, tailLimit⟩ := captured_captures maxBytes tailBytes chunks
  have limits := new_limits maxBytes tailBytes
  have small : maxBytes.toNat < 2 ^ 64 := maxBytes.toNat_lt
  have held := length_window maxBytes tailBytes chunks.flatten
  rw [← captured_toVec, toVec, List.length_append] at held
  obtain ⟨headFits, tailFits⟩ := fits
  rw [isTruncated, decide_eq_true_eq, captures.seen, headLimit, tailLimit, saturatingAddU64, limits]
  simp only [u64Max, isizeMax] at *
  omega

/-- Whatever the chunks are, the first bytes of the body are kept and the last ones of the rest,
and the capture says whether that is all. -/
theorem captured_window :
    (captured maxBytes tailBytes chunks).toVec =
        chunks.flatten.take (new maxBytes.toNat tailBytes.toNat).headLimit ++
          (chunks.flatten.drop (new maxBytes.toNat tailBytes.toNat).headLimit).rtake
            (new maxBytes.toNat tailBytes.toNat).tailLimit ∧
      (∀ others : List (List UInt8), others.flatten = chunks.flatten →
        captured maxBytes tailBytes others = captured maxBytes tailBytes chunks) ∧
      (captured maxBytes tailBytes chunks).toVec.length ≤ max 1 maxBytes.toNat ∧
      ((captured maxBytes tailBytes chunks).Fits →
        ((captured maxBytes tailBytes chunks).toVec = chunks.flatten ↔
          (captured maxBytes tailBytes chunks).isTruncated = false)) := by
  refine ⟨captured_toVec maxBytes tailBytes chunks, ?_, ?_, ?_⟩
  · intro others same
    obtain ⟨captures, headLimit, tailLimit⟩ := captured_captures maxBytes tailBytes chunks
    obtain ⟨captures', headLimit', tailLimit'⟩ := captured_captures maxBytes tailBytes others
    rw [same] at captures'
    exact captures'.unique captures (headLimit'.trans headLimit.symm) (tailLimit'.trans tailLimit.symm)
  · have length := length_window maxBytes tailBytes chunks.flatten
    rw [captured_toVec]
    omega
  · intro fits
    rw [captured_toVec, window_eq_iff, ← Bool.not_eq_true, isTruncated_iff maxBytes tailBytes chunks fits,
      Nat.not_lt]

/-- Two chunks that straddle both limits. -/
theorem captured_window_straddling :
    (captured 4 2 [[1, 2, 3], [4, 5, 6]]).toVec = [1, 2, 5, 6] ∧
      ((captured 4 2 [[1, 2, 3], [4, 5, 6]]).toVec = [[1, 2, 3], [4, 5, 6]].flatten ↔
        (captured 4 2 [[1, 2, 3], [4, 5, 6]]).isTruncated = false) :=
  ⟨by decide, (captured_window 4 2 [[1, 2, 3], [4, 5, 6]]).2.2.2 (by decide)⟩

end Window

end UsageCaptureBuffer

theorem findSome?_reverse_tails {α β : Type} (find : List α → Option β) (items : List α) (found : β) :
    items.tails.reverse.findSome? find = some found ↔
      ∃ rest, rest <:+ items ∧ find rest = some found ∧
        ∀ later, later <:+ rest → later ≠ rest → find later = none := by
  induction items with
  | nil =>
    have whole : ([] : List α).tails.reverse = [[]] := rfl
    rw [whole, List.findSome?_singleton]
    constructor
    · intro here
      exact ⟨[], List.suffix_refl _, here, fun later shorter apart =>
        absurd (List.suffix_nil.mp shorter) apart⟩
    · rintro ⟨rest, shorter, here, -⟩
      rw [List.suffix_nil.mp shorter] at here
      exact here
  | cons item rest ih =>
    change ((item :: rest) :: rest.tails).reverse.findSome? find = some found ↔ _
    rw [List.reverse_cons, List.findSome?_append, List.findSome?_singleton, Option.or_eq_some_iff, ih]
    have nowhere : rest.tails.reverse.findSome? find = none ↔ ∀ later, later <:+ rest → find later = none := by
      simp only [List.findSome?_eq_none_iff, List.mem_reverse, List.mem_tails]
    rw [nowhere]
    constructor
    · rintro (⟨place, within, here, last⟩ | ⟨none_later, here⟩)
      · exact ⟨place, within.trans (List.suffix_cons item rest), here, last⟩
      · refine ⟨item :: rest, List.suffix_refl _, here, fun later shorter apart => none_later later ?_⟩
        exact (List.suffix_cons_iff.mp shorter).resolve_left apart
    · rintro ⟨place, within, here, last⟩
      rcases List.suffix_cons_iff.mp within with rfl | inside
      · refine .inr ⟨fun later shorter => last later (shorter.trans (List.suffix_cons item rest)) ?_, here⟩
        rintro rfl
        exact absurd shorter.length_le (by simp)
      · exact .inl ⟨place, inside, here, last⟩

section Extract

variable (fromSlice : List UInt8 → Except String Json) (apiFormat : String)

def usageAt (bytes : List UInt8) : Option Usage := do
  let after ← bytes.dropPrefix? (utf8Bytes "\"usage\"")
  let value ← jsonValueAfterKey after
  let read ← (fromSlice value).toOption
  parseUsageValue apiFormat read

def LastUsage (bytes : List UInt8) (usage : Usage) : Prop :=
  ∃ rest, rest <:+ bytes ∧ usageAt fromSlice apiFormat rest = some usage ∧
    ∀ later, later <:+ rest → later ≠ rest → usageAt fromSlice apiFormat later = none

theorem extractUsageFromWindow_eq_some {window : List UInt8} {usage : Usage} :
    extractUsageFromWindow fromSlice apiFormat window = some usage ↔
      LastUsage fromSlice apiFormat window usage :=
  findSome?_reverse_tails (usageAt fromSlice apiFormat) window usage

theorem extractUsageFromWindow_eq_none {window : List UInt8} :
    extractUsageFromWindow fromSlice apiFormat window = none ↔
      ∀ usage, ¬ LastUsage fromSlice apiFormat window usage := by
  rw [Option.eq_none_iff_forall_ne_some]
  exact forall_congr' fun usage => not_congr (extractUsageFromWindow_eq_some fromSlice apiFormat)

theorem search_sound_iff (window : List UInt8) (own : Option Usage) :
    (extractUsageFromWindow fromSlice apiFormat window = none ∨
        extractUsageFromWindow fromSlice apiFormat window = own) ↔
      ∀ usage, LastUsage fromSlice apiFormat window usage → own = some usage := by
  cases found : extractUsageFromWindow fromSlice apiFormat window with
  | none =>
    have nowhere := (extractUsageFromWindow_eq_none fromSlice apiFormat).mp found
    exact ⟨fun _ usage last => absurd last (nowhere usage), fun _ => .inl rfl⟩
  | some usage =>
    have last := (extractUsageFromWindow_eq_some fromSlice apiFormat).mp found
    constructor
    · rintro (none_found | rfl) other last_too
      · cases none_found
      · exact found.symm.trans ((extractUsageFromWindow_eq_some fromSlice apiFormat).mpr last_too)
    · intro own_last
      exact .inr (own_last usage last).symm

variable (maxBytes tailBytes : UInt64)

/-- The body is kept whole and has a usage of its own, or the last usage that is kept is its own. -/
def KeepsOwnUsage (body : List UInt8) (root : Json) : Prop :=
  (body.length ≤ max 1 maxBytes.toNat ∧ (extractUsage apiFormat root).isSome = true) ∨
    ∀ usage, LastUsage fromSlice apiFormat (UsageCaptureBuffer.window maxBytes tailBytes body) usage →
      extractUsage apiFormat root = some usage

theorem extractUsageFromCapture_eq {chunks : List (List UInt8)} {root : Json}
    (complete : fromSlice chunks.flatten = .ok root)
    (fits : (UsageCaptureBuffer.captured maxBytes tailBytes chunks).Fits) :
    extractUsageFromCapture fromSlice apiFormat
        (UsageCaptureBuffer.captured maxBytes tailBytes chunks) =
      (if chunks.flatten.length ≤ max 1 maxBytes.toNat then extractUsage apiFormat root
        else none).or (extractUsageFromWindow fromSlice apiFormat
          (UsageCaptureBuffer.window maxBytes tailBytes chunks.flatten)) := by
  have truncated := UsageCaptureBuffer.isTruncated_iff maxBytes tailBytes chunks fits
  simp only [extractUsageFromCapture, UsageCaptureBuffer.captured_toVec, truncated]
  congr 1
  by_cases short : chunks.flatten.length ≤ max 1 maxBytes.toNat
  · have whole := (UsageCaptureBuffer.window_eq_iff maxBytes tailBytes chunks.flatten).mpr short
    rw [if_neg (by omega), if_pos short, whole, complete]
    rfl
  · rw [if_pos (by omega), if_neg short]

end Extract

def strayUsage : Json :=
  .object [("prompt_tokens", .number "1"), ("completion_tokens", .number "1")]

def strayRoot : Json := .object [("a", .object [("usage", strayUsage)])]

def strayValue : List UInt8 := utf8Bytes "\x7b\"prompt_tokens\":1,\"completion_tokens\":1\x7d"

def strayBody : List UInt8 := utf8Bytes "\x7b\"a\":\x7b\"usage\":" ++ strayValue ++ utf8Bytes "\x7d\x7d"

def strayFromSlice (bytes : List UInt8) : Except String Json :=
  if bytes = strayBody then .ok strayRoot
  else if bytes = strayValue then .ok strayUsage
  else .error "expected value"

end CodexGate.Dispatch
