import CodexGate.Metering.Decoder
import Mathlib.Data.List.Induction

namespace CodexGate.Metering

open Foundation

def blank (line : Line) : Bool := stripCarriageReturn line = []

abbrev Frame := List Line × Line

def framesEnded (bytes : List UInt8) : List Frame :=
  (splitRuns blank (splitLines newline bytes).1).1

def openLines (bytes : List UInt8) : List Line :=
  (splitRuns blank (splitLines newline bytes).1).2

def openLine (bytes : List UInt8) : Line := (splitLines newline bytes).2

def lastFrame (bytes : List UInt8) : Frame :=
  if blank (openLine bytes) then (openLines bytes, openLine bytes)
  else (openLines bytes ++ [openLine bytes], [])

def frames (bytes : List UInt8) : List Frame := framesEnded bytes ++ [lastFrame bytes]

def frameBytes (lines : List Line) : Nat := (lines.map List.length).sum

structure FrameText where
  data : List UInt8
  kind : Option String

def FrameText.read (text : FrameText) (line : Line) : FrameText :=
  let line := stripCarriageReturn line
  match line.dropPrefix? (utf8Bytes "event:") with
  | some value => { text with kind := some (trim (fromUtf8Lossy value)) }
  | none =>
    match line.dropPrefix? (utf8Bytes "data:") with
    | some value => { text with data := appendData text.data value }
    | none => text

def frameText (lines : List Line) : FrameText := lines.foldl FrameText.read ⟨[], none⟩

section Events

variable (fromSlice : List UInt8 → Except String Json)

def frameEvent (lines : List Line) : Option Json :=
  let text := frameText lines
  if text.data = [] ∨ text.data = utf8Bytes "[DONE]" then none
  else
    match fromSlice text.data with
    | .error _ => none
    | .ok value => some (withType value text.kind)

def isolatedEvent (frame : Frame) : List Json :=
  if frameBytes frame.1 ≤ maxEventBytes then (frameEvent fromSlice frame.1).toList else []

def pushChunks (self : SseDecoder) (chunks : List (List UInt8)) : Emission SseDecoder Json :=
  Emission.forEach (SseDecoder.pushBytes fromSlice) self chunks

/-- The pushes of a stream in any chunks return the events of the frames that have ended, and those
of all frames once it is finished. -/
structure IsolatesFrames (bytes : List UInt8) : Prop where
  returned : ∀ pushed later, (pushed ++ later).flatten = bytes →
    (pushChunks fromSlice .default pushed).events =
      (framesEnded pushed.flatten).flatMap (isolatedEvent fromSlice)
  finished : ∀ chunks, chunks.flatten = bytes →
    ((pushChunks fromSlice .default chunks).andThen (SseDecoder.finish fromSlice)).events =
      (frames bytes).flatMap (isolatedEvent fromSlice)

end Events

/-- The byte behind the limit is the carriage return that ends a line. -/
def leaks (kept : List Line) (line : Line) : Bool :=
  frameBytes kept + line.length = maxEventBytes + 1 && line.getLast? = some carriageReturn

/-- The lines of a frame behind the last one that leaks, with the count begun anew behind each. -/
def leftover (lines : List Line) : List Line :=
  lines.foldl (fun kept line => if leaks kept line then [] else kept ++ [line]) []

/-- The decoder recovers the event of a frame that fits, unless the blank line's carriage return does
not fit, and of a frame that does not fit no event is left over. -/
def Recovers (fromSlice : List UInt8 → Except String Json) (frame : Frame) : Prop :=
  if frameBytes frame.1 ≤ maxEventBytes then
    frameBytes frame.1 + frame.2.length ≤ maxEventBytes ∨ frameEvent fromSlice frame.1 = none
  else
    maxEventBytes < frameBytes (leftover frame.1) + frame.2.length ∨
      frameEvent fromSlice (leftover frame.1) = none

def takenEvent (fromSlice : List UInt8 → Except String Json) (frame : Frame) : List Json :=
  if frameBytes (leftover frame.1) + frame.2.length ≤ maxEventBytes then
    (frameEvent fromSlice (leftover frame.1)).toList
  else []

theorem frames_snoc_of_ne {byte : UInt8} (content : byte ≠ newline) (bytes : List UInt8) :
    framesEnded (bytes ++ [byte]) = framesEnded bytes ∧
      openLines (bytes ++ [byte]) = openLines bytes ∧
      openLine (bytes ++ [byte]) = openLine bytes ++ [byte] := by
  simp only [framesEnded, openLines, openLine, splitLines_snoc_of_ne content]
  exact ⟨trivial, trivial, trivial⟩

theorem frames_snoc_blank {bytes : List UInt8} (ends : blank (openLine bytes) = true) :
    framesEnded (bytes ++ [newline]) = framesEnded bytes ++ [(openLines bytes, openLine bytes)] ∧
      openLines (bytes ++ [newline]) = [] ∧ openLine (bytes ++ [newline]) = [] := by
  rw [openLine] at ends
  simp only [framesEnded, openLines, openLine, splitLines_snoc_separator, splitRuns_snoc, ends,
    if_true]
  exact ⟨trivial, trivial, trivial⟩

theorem frames_snoc_text {bytes : List UInt8} (text : blank (openLine bytes) = false) :
    framesEnded (bytes ++ [newline]) = framesEnded bytes ∧
      openLines (bytes ++ [newline]) = openLines bytes ++ [openLine bytes] ∧
      openLine (bytes ++ [newline]) = [] := by
  rw [openLine] at text
  simp only [framesEnded, openLines, openLine, splitLines_snoc_separator, splitRuns_snoc, text,
    Bool.false_eq_true, if_false]
  exact ⟨trivial, trivial, trivial⟩

theorem framesEnded_snoc (bytes : List UInt8) (byte : UInt8) :
    framesEnded (bytes ++ [byte]) = framesEnded bytes ∨
      framesEnded (bytes ++ [byte]) = framesEnded bytes ++ [(openLines bytes, openLine bytes)] := by
  by_cases ends : byte = newline
  · subst ends
    by_cases closes : blank (openLine bytes) = true
    · exact .inr (frames_snoc_blank closes).1
    · exact .inl (frames_snoc_text ((Bool.not_eq_true _).mp closes)).1
  · exact .inl (frames_snoc_of_ne ends bytes).1

theorem framesEnded_mono {start bytes : List UInt8} (before : start <+: bytes) :
    framesEnded start ⊆ framesEnded bytes := by
  induction bytes using List.reverseRecOn with
  | nil =>
    rw [List.prefix_nil.mp before]
    exact List.Subset.refl _
  | append_singleton bytes byte ih =>
    rcases List.prefix_concat_iff.mp before with same | earlier
    · rw [same]
      exact List.Subset.refl _
    · refine List.Subset.trans (ih earlier) ?_
      rcases framesEnded_snoc bytes byte with same | more
      · rw [same]
        exact List.Subset.refl _
      · rw [more]
        exact List.subset_append_left _ _

theorem frameBytes_snoc (lines : List Line) (line : Line) :
    frameBytes (lines ++ [line]) = frameBytes lines + line.length := by
  simp [frameBytes]

theorem frameText_snoc (lines : List Line) (line : Line) :
    frameText (lines ++ [line]) = (frameText lines).read line := by
  simp [frameText]

theorem leftover_snoc (lines : List Line) (line : Line) :
    leftover (lines ++ [line]) =
      if leaks (leftover lines) line then [] else leftover lines ++ [line] := by
  rw [leftover, List.foldl_append]
  rfl

theorem leftover_of_fits {lines : List Line} (fits : frameBytes lines ≤ maxEventBytes) :
    leftover lines = lines := by
  induction lines using List.reverseRecOn with
  | nil => rfl
  | append_singleton lines line ih =>
    rw [frameBytes_snoc] at fits
    have kept := ih (by omega)
    have tight : leaks lines line = false := by
      have below : frameBytes lines + line.length ≠ maxEventBytes + 1 := by omega
      simp [leaks, below]
    rw [leftover_snoc, kept, tight]
    rfl

theorem takenEvent_eq_iff (fromSlice : List UInt8 → Except String Json) (frame : Frame) :
    takenEvent fromSlice frame = isolatedEvent fromSlice frame ↔ Recovers fromSlice frame := by
  unfold takenEvent isolatedEvent Recovers
  by_cases fits : frameBytes frame.1 ≤ maxEventBytes
  · rw [leftover_of_fits fits, if_pos fits, if_pos fits]
    by_cases closed : frameBytes frame.1 + frame.2.length ≤ maxEventBytes
    · rw [if_pos closed]
      exact ⟨fun _ => .inl closed, fun _ => rfl⟩
    · rw [if_neg closed, eq_comm, Option.toList_eq_nil_iff]
      exact ⟨.inr, fun holds => holds.resolve_left closed⟩
  · rw [if_neg fits, if_neg fits]
    by_cases closed : frameBytes (leftover frame.1) + frame.2.length ≤ maxEventBytes
    · rw [if_pos closed, Option.toList_eq_nil_iff]
      exact ⟨.inr, fun holds => holds.resolve_left (Nat.not_lt.mpr closed)⟩
    · rw [if_neg closed]
      exact ⟨fun _ => .inl (Nat.lt_of_not_le closed), fun _ => rfl⟩

def keptBytes (body : List Line) (tail : Line) : Line :=
  (tail.drop (maxEventBytes - frameBytes body)).take 2

/-- The decoder behind the lines `body` of a frame, with `tail` of the next line. -/
structure Standing (decoder : SseDecoder) (body : List Line) (tail : Line) : Prop where
  counted : decoder.frameBytes = min (frameBytes body + tail.length) u64Max
  live : frameBytes body + tail.length ≤ maxEventBytes →
    decoder.discarding = false ∧ decoder.line = tail ∧ decoder.data = (frameText body).data ∧
      decoder.event = (frameText body).kind
  lost : maxEventBytes < frameBytes body + tail.length →
    decoder.discarding = true ∧ decoder.line = keptBytes body tail ∧ decoder.data = [] ∧
      decoder.event = none

theorem maxEventBytes_lt : maxEventBytes < u64Max := by decide

theorem stripped_eq_nil_iff {line : Line} :
    stripCarriageReturn line = [] ↔ line = [] ∨ line = [carriageReturn] := by
  unfold stripCarriageReturn
  rcases line with _ | ⟨a, _ | ⟨b, rest⟩⟩
  · simp
  · by_cases last : a = carriageReturn <;> simp [last]
  · split <;> simp

theorem blank_iff {line : Line} : blank line = true ↔ line = [] ∨ line = [carriageReturn] := by
  rw [blank, decide_eq_true_iff, stripped_eq_nil_iff]

theorem drop_eq_singleton_iff {line : Line} {n : Nat} {b : UInt8} :
    line.drop n = [b] ↔ line.length = n + 1 ∧ line.getLast? = some b := by
  constructor
  · intro last
    have length : line.length - n = 1 := by rw [← List.length_drop, last, List.length_singleton]
    refine ⟨by omega, ?_⟩
    have same : (line.drop n).getLast? = _ := List.getLast?_drop
    rw [last, if_neg (by omega)] at same
    exact same.symm
  · rintro ⟨length, last⟩
    obtain ⟨c, single⟩ := List.length_eq_one_iff.mp (by
      rw [List.length_drop]
      omega : (line.drop n).length = 1)
    have same : (line.drop n).getLast? = _ := List.getLast?_drop
    rw [single, if_neg (by omega), last] at same
    rw [single]
    exact congrArg (fun x => [x]) (Option.some.inj same)

theorem take_two_stripped {rest : Line} :
    stripCarriageReturn (rest.take 2) = [] ↔ rest = [] ∨ rest = [carriageReturn] := by
  rw [stripped_eq_nil_iff]
  rcases rest with _ | ⟨a, _ | ⟨b, rest⟩⟩ <;> simp

theorem keptBytes_stripped {body : List Line} {tail : Line}
    (lost : maxEventBytes < frameBytes body + tail.length) :
    stripCarriageReturn (keptBytes body tail) = [] ↔ blank tail = true ∨ leaks body tail = true := by
  rw [keptBytes, take_two_stripped, blank_iff, leaks, Bool.and_eq_true, decide_eq_true_iff,
    decide_eq_true_iff]
  by_cases full : maxEventBytes < frameBytes body
  · have whole : maxEventBytes - frameBytes body = 0 := by omega
    rw [whole, List.drop_zero]
    constructor
    · exact .inl
    · rintro (blank | ⟨length, last⟩)
      · exact blank
      · have nothing : tail = [] := List.length_eq_zero_iff.mp (by omega)
        subst nothing
        cases last
  · have some : tail.drop (maxEventBytes - frameBytes body) ≠ [] := by
      intro none
      have length := List.drop_eq_nil_iff.mp none
      omega
    rw [drop_eq_singleton_iff]
    constructor
    · rintro (none | ⟨length, last⟩)
      · exact absurd none some
      · exact .inr ⟨by omega, last⟩
    · rintro ((none | single) | ⟨length, last⟩)
      · subst none
        rw [List.length_nil] at lost
        omega
      · subst single
        rw [List.length_singleton] at lost
        exact .inr ⟨by rw [List.length_singleton]; omega, rfl⟩
      · exact .inr ⟨by omega, last⟩

theorem keptBytes_snoc {body : List Line} {tail : Line}
    (lost : maxEventBytes < frameBytes body + tail.length) (byte : UInt8) :
    keptBytes body (tail ++ [byte]) =
      if (keptBytes body tail).length < 2 then keptBytes body tail ++ [byte]
      else keptBytes body tail := by
  have inside : maxEventBytes - frameBytes body ≤ tail.length := by omega
  rw [keptBytes, keptBytes, List.drop_append_of_le_length inside]
  rcases tail.drop (maxEventBytes - frameBytes body) with _ | ⟨a, _ | ⟨b, rest⟩⟩ <;> simp

theorem default_standing : Standing .default [] [] where
  counted := rfl
  live _ := ⟨rfl, rfl, rfl, rfl⟩
  lost beyond := by cases beyond

theorem pushContent_standing {self : SseDecoder} {body : List Line} {tail : Line}
    (stands : Standing self body tail) (byte : UInt8) :
    Standing (self.pushContent byte) body (tail ++ [byte]) := by
  have limit := maxEventBytes_lt
  have counted := stands.counted
  have length : (tail ++ [byte]).length = tail.length + 1 := by simp
  have more : saturatingAddU64 self.frameBytes 1 =
      min (frameBytes body + (tail ++ [byte]).length) u64Max := by
    rw [counted, length, saturatingAddU64]
    omega
  rcases Nat.lt_or_ge maxEventBytes (frameBytes body + tail.length) with lost | fits
  · obtain ⟨discarding, line, data, event⟩ := stands.lost lost
    have pushed : self.pushContent byte = { self with
        frameBytes := saturatingAddU64 self.frameBytes 1, line := keptBytes body (tail ++ [byte]) } := by
      rw [keptBytes_snoc lost, ← line]
      simp only [SseDecoder.pushContent, discarding, not_true_eq_false, and_false, if_false,
        false_or]
      split <;> rfl
    rw [pushed]
    refine ⟨more, ?_, fun _ => ⟨discarding, rfl, data, event⟩⟩
    intro fits
    omega
  · obtain ⟨discarding, line, data, event⟩ := stands.live fits
    by_cases crosses : frameBytes body + tail.length = maxEventBytes
    · -- The byte is the first behind the limit.
      have beyond : maxEventBytes < saturatingAddU64 self.frameBytes 1 := by
        rw [more, length]
        omega
      have pushed : self.pushContent byte =
          ⟨[byte], [], none, saturatingAddU64 self.frameBytes 1, true,
            some "SSE frame exceeds 4 MiB parsing limit"⟩ := by
        simp [SseDecoder.pushContent, discarding, beyond]
      rw [pushed]
      refine ⟨more, ?_, ?_⟩
      · intro fits
        omega
      · intro _
        have kept : keptBytes body (tail ++ [byte]) = [byte] := by
          have here : maxEventBytes - frameBytes body = tail.length := by omega
          rw [keptBytes, here, List.drop_left]
          rfl
        exact ⟨rfl, kept.symm, rfl, rfl⟩
    · have within : ¬maxEventBytes < saturatingAddU64 self.frameBytes 1 := by
        rw [more, length]
        omega
      have pushed : self.pushContent byte = { self with
          frameBytes := saturatingAddU64 self.frameBytes 1, line := tail ++ [byte] } := by
        simp [SseDecoder.pushContent, discarding, within, line]
      rw [pushed]
      refine ⟨more, fun _ => ⟨discarding, rfl, data, event⟩, ?_⟩
      intro lost
      omega

section Steps

variable (fromSlice : List UInt8 → Except String Json)

theorem takeEvent_read {self : SseDecoder} {lines : List Line}
    (data : self.data = (frameText lines).data) (event : self.event = (frameText lines).kind) :
    (self.takeEvent fromSlice).events = (frameEvent fromSlice lines).toList ∧
      ∃ error, (self.takeEvent fromSlice).state =
        { self with data := [], event := none, error := error } := by
  simp only [SseDecoder.takeEvent, frameEvent, data, event]
  split
  · exact ⟨rfl, _, rfl⟩
  · cases fromSlice (frameText lines).data with
    | error _ => exact ⟨rfl, _, rfl⟩
    | ok value => exact ⟨rfl, _, rfl⟩

theorem completeLine_ends {self : SseDecoder} {body : List Line} {tail : Line}
    (stands : Standing self body tail) (ends : blank tail = true ∨ leaks body tail = true) :
    (self.completeLine fromSlice).events =
        (if frameBytes body + tail.length ≤ maxEventBytes then (frameEvent fromSlice body).toList
          else []) ∧
      Standing (self.completeLine fromSlice).state [] [] := by
  rcases Nat.lt_or_ge maxEventBytes (frameBytes body + tail.length) with lost | fits
  · obtain ⟨discarding, line, data, event⟩ := stands.lost lost
    have stripped : stripCarriageReturn self.line = [] := by
      rw [line]
      exact (keptBytes_stripped lost).mpr ends
    rw [if_neg (by omega)]
    simp only [SseDecoder.completeLine, stripped, discarding, if_true]
    exact ⟨rfl, rfl, fun _ => ⟨rfl, rfl, data, event⟩, fun beyond => by cases beyond⟩
  · obtain ⟨discarding, line, data, event⟩ := stands.live fits
    have blankLine : blank tail = true := by
      rcases ends with blank | leak
      · exact blank
      · rw [leaks, Bool.and_eq_true, decide_eq_true_iff] at leak
        omega
    have stripped : stripCarriageReturn self.line = [] := by
      rw [line]
      exact of_decide_eq_true blankLine
    have cleared : ({ self with line := [] } : SseDecoder).data = (frameText body).data := data
    obtain ⟨events, error, state⟩ := takeEvent_read fromSlice cleared event
    have step : self.completeLine fromSlice =
        (({ self with line := [] } : SseDecoder).takeEvent fromSlice).mapState fun self =>
          { self with discarding := false, frameBytes := 0 } := by
      unfold SseDecoder.completeLine
      dsimp only
      rw [if_pos stripped, if_neg (by simp [discarding])]
    rw [if_pos fits, step, Emission.mapState, state]
    exact ⟨events, rfl, fun _ => ⟨rfl, rfl, rfl, rfl⟩, fun beyond => by cases beyond⟩

theorem completeLine_continues {self : SseDecoder} {body : List Line} {tail : Line}
    (stands : Standing self body tail) (text : blank tail = false) (tight : leaks body tail = false) :
    (self.completeLine fromSlice).events = [] ∧
      Standing (self.completeLine fromSlice).state (body ++ [tail]) [] := by
  have counted := stands.counted
  have bytes : frameBytes (body ++ [tail]) + ([] : Line).length =
      frameBytes body + tail.length := by
    rw [frameBytes_snoc, List.length_nil, Nat.add_zero]
  rcases Nat.lt_or_ge maxEventBytes (frameBytes body + tail.length) with lost | fits
  · obtain ⟨discarding, line, data, event⟩ := stands.lost lost
    have stripped : stripCarriageReturn self.line ≠ [] := by
      rw [line]
      intro empty
      have ends := (keptBytes_stripped lost).mp empty
      simp [text, tight] at ends
    simp only [SseDecoder.completeLine, stripped, discarding, if_true, if_false]
    refine ⟨rfl, ?_, ?_, ?_⟩
    · rw [bytes]
      exact counted
    · intro fits
      omega
    · intro _
      have kept : keptBytes (body ++ [tail]) [] = [] := by simp [keptBytes]
      exact ⟨rfl, kept.symm, data, event⟩
  · obtain ⟨discarding, line, data, event⟩ := stands.live fits
    have stripped : stripCarriageReturn self.line ≠ [] := by
      rw [line]
      exact of_decide_eq_false text
    have step : (self.completeLine fromSlice) = .silent { self with
        line := []
        data := (frameText (body ++ [tail])).data
        event := (frameText (body ++ [tail])).kind } := by
      rw [line] at stripped
      simp only [SseDecoder.completeLine, line, stripped, discarding, if_false, Bool.false_eq_true,
        frameText_snoc, FrameText.read]
      cases (stripCarriageReturn tail).dropPrefix? (utf8Bytes "event:") with
      | some value => simp [data]
      | none =>
        cases (stripCarriageReturn tail).dropPrefix? (utf8Bytes "data:") with
        | some value => simp [data, event]
        | none => simp [data.symm, event.symm]
    rw [step]
    refine ⟨rfl, ?_, fun _ => ⟨discarding, rfl, rfl, rfl⟩, ?_⟩
    · rw [bytes]
      exact counted
    · intro lost
      omega

theorem pushBytes_snoc (bytes : List UInt8) (byte : UInt8) :
    SseDecoder.pushBytes fromSlice .default (bytes ++ [byte]) =
      (SseDecoder.pushBytes fromSlice .default bytes).andThen fun self =>
        self.pushByte fromSlice byte := by
  rw [SseDecoder.pushBytes, Emission.forEach_append]
  simp only [Emission.forEach_cons, Emission.forEach_nil, Emission.andThen_silent]
  rfl

theorem pushBytes_stands (bytes : List UInt8) :
    (SseDecoder.pushBytes fromSlice .default bytes).events =
        (framesEnded bytes).flatMap (takenEvent fromSlice) ∧
      Standing (SseDecoder.pushBytes fromSlice .default bytes).state
        (leftover (openLines bytes)) (openLine bytes) := by
  induction bytes using List.reverseRecOn with
  | nil => exact ⟨rfl, default_standing⟩
  | append_singleton bytes byte ih =>
    obtain ⟨events, stands⟩ := ih
    rw [pushBytes_snoc, Emission.andThen_events, Emission.andThen_state, events]
    by_cases ends : byte = newline
    · subst ends
      rw [SseDecoder.pushByte, if_pos rfl]
      by_cases closes : blank (openLine bytes) = true
      · obtain ⟨ended, lines, line⟩ := frames_snoc_blank closes
        obtain ⟨last, again⟩ := completeLine_ends fromSlice stands (.inl closes)
        rw [ended, lines, line, List.flatMap_append, last, List.flatMap_singleton]
        exact ⟨rfl, again⟩
      · have text := (Bool.not_eq_true _).mp closes
        obtain ⟨ended, lines, line⟩ := frames_snoc_text text
        rw [ended, lines, line, leftover_snoc]
        by_cases leak : leaks (leftover (openLines bytes)) (openLine bytes) = true
        · obtain ⟨last, again⟩ := completeLine_ends fromSlice stands (.inr leak)
          have beyond : ¬frameBytes (leftover (openLines bytes)) + (openLine bytes).length ≤
              maxEventBytes := by
            rw [leaks, Bool.and_eq_true, decide_eq_true_iff] at leak
            omega
          rw [last, if_neg beyond, List.append_nil, if_pos leak]
          exact ⟨rfl, again⟩
        · have tight := (Bool.not_eq_true _).mp leak
          obtain ⟨none, again⟩ := completeLine_continues fromSlice stands text tight
          rw [none, List.append_nil, if_neg leak]
          exact ⟨rfl, again⟩
    · obtain ⟨ended, lines, line⟩ := frames_snoc_of_ne ends bytes
      rw [ended, lines, line, SseDecoder.pushByte, if_neg ends, Emission.silent_events,
        List.append_nil]
      exact ⟨rfl, pushContent_standing stands byte⟩

theorem standing_takes {self : SseDecoder} {body : List Line} (stands : Standing self body []) :
    (if self.discarding then .silent self else self.takeEvent fromSlice).events =
      if frameBytes body ≤ maxEventBytes then (frameEvent fromSlice body).toList else [] := by
  rcases Nat.lt_or_ge maxEventBytes (frameBytes body) with lost | fits
  · obtain ⟨discarding, _⟩ := stands.lost lost
    rw [if_pos discarding, if_neg (Nat.not_le.mpr lost)]
    rfl
  · obtain ⟨discarding, _, data, event⟩ := stands.live fits
    rw [if_neg (by simp [discarding]), if_pos fits]
    exact (takeEvent_read fromSlice data event).1

theorem standing_line_eq_nil_iff {self : SseDecoder} {body : List Line} {tail : Line}
    (stands : Standing self body tail) : self.line = [] ↔ tail = [] := by
  rcases Nat.lt_or_ge maxEventBytes (frameBytes body + tail.length) with lost | fits
  · obtain ⟨_, line, _⟩ := stands.lost lost
    rw [line, keptBytes, List.take_eq_nil_iff, List.drop_eq_nil_iff]
    constructor
    · rintro (two | short)
      · cases two
      · exact List.length_eq_zero_iff.mp (by omega)
    · intro nothing
      subst nothing
      exact .inr (Nat.zero_le _)
  · rw [(stands.live fits).2.1]

theorem finish_events {self : SseDecoder} {body : List Line} {tail : Line}
    (stands : Standing self (leftover body) tail) :
    (self.finish fromSlice).events =
      takenEvent fromSlice (if blank tail then (body, tail) else (body ++ [tail], [])) := by
  have none : ∀ {self : SseDecoder}, Standing self [] [] →
      (if self.discarding then .silent self else self.takeEvent fromSlice).events = [] :=
    fun stands => by
      rw [standing_takes fromSlice stands]
      split <;> rfl
  simp only [SseDecoder.finish, Emission.mapState, Emission.andThen_events]
  by_cases nothing : tail = []
  · subst nothing
    rw [if_pos ((standing_line_eq_nil_iff stands).mpr rfl), Emission.silent_events,
      Emission.silent_state, standing_takes fromSlice stands]
    rfl
  · rw [if_neg fun empty => nothing ((standing_line_eq_nil_iff stands).mp empty)]
    by_cases closes : blank tail = true
    · obtain ⟨last, again⟩ := completeLine_ends fromSlice stands (.inl closes)
      rw [last, none again, List.append_nil, if_pos closes]
      rfl
    · rw [if_neg closes, takenEvent, leftover_snoc, List.length_nil, Nat.add_zero]
      by_cases leak : leaks (leftover body) tail = true
      · obtain ⟨last, again⟩ := completeLine_ends fromSlice stands (.inr leak)
        have beyond : ¬frameBytes (leftover body) + tail.length ≤ maxEventBytes := by
          rw [leaks, Bool.and_eq_true, decide_eq_true_iff] at leak
          omega
        rw [last, none again, if_neg beyond, if_pos leak]
        split <;> rfl
      · have tight := (Bool.not_eq_true _).mp leak
        obtain ⟨silent, again⟩ :=
          completeLine_continues fromSlice stands ((Bool.not_eq_true _).mp closes) tight
        rw [silent, standing_takes fromSlice again, if_neg leak]
        rfl

theorem pushChunks_flatten (self : SseDecoder) (chunks : List (List UInt8)) :
    pushChunks fromSlice self chunks = self.pushBytes fromSlice chunks.flatten := by
  induction chunks generalizing self with
  | nil => rfl
  | cons chunk chunks ih =>
    have split : self.pushBytes fromSlice (chunk ++ chunks.flatten) =
        (self.pushBytes fromSlice chunk).andThen fun self =>
          self.pushBytes fromSlice chunks.flatten := Emission.forEach_append _ self chunk _
    rw [pushChunks, Emission.forEach_cons, List.flatten_cons, split]
    exact congrArg _ (funext ih)

end Steps

theorem pushChunks_events (fromSlice : List UInt8 → Except String Json)
    (chunks : List (List UInt8)) :
    (pushChunks fromSlice .default chunks).events =
        (framesEnded chunks.flatten).flatMap (takenEvent fromSlice) ∧
      ((pushChunks fromSlice .default chunks).andThen (SseDecoder.finish fromSlice)).events =
        (frames chunks.flatten).flatMap (takenEvent fromSlice) := by
  obtain ⟨events, stands⟩ := pushBytes_stands fromSlice chunks.flatten
  rw [pushChunks_flatten, Emission.andThen_events, events, finish_events fromSlice stands, frames,
    List.flatMap_append, List.flatMap_singleton]
  exact ⟨rfl, rfl⟩

theorem frames_taken {fromSlice : List UInt8 → Except String Json} {bytes : List UInt8}
    (prefixes : ∀ start, start <+: bytes →
      (framesEnded start).flatMap (takenEvent fromSlice) =
        (framesEnded start).flatMap (isolatedEvent fromSlice)) :
    ∀ frame ∈ framesEnded bytes, takenEvent fromSlice frame = isolatedEvent fromSlice frame := by
  induction bytes using List.reverseRecOn with
  | nil =>
    intro frame member
    cases member
  | append_singleton bytes byte ih =>
    have earlier := ih fun start before => prefixes start (before.trans (List.prefix_append _ _))
    rcases framesEnded_snoc bytes byte with same | same
    · rw [same]
      exact earlier
    · have whole := prefixes (bytes ++ [byte]) (List.prefix_refl _)
      have before := prefixes bytes (List.prefix_append _ _)
      rw [same, List.flatMap_append, List.flatMap_append, before, List.flatMap_singleton,
        List.flatMap_singleton] at whole
      have last := List.append_cancel_left whole
      rw [same]
      intro frame member
      rcases List.mem_append.mp member with there | here
      · exact earlier frame there
      · rw [List.mem_singleton.mp here]
        exact last

/-- Every frame of a stream is decoded as if it were alone, in any chunks, exactly when the decoder
recovers each. -/
theorem isolatesFrames_iff (fromSlice : List UInt8 → Except String Json) (bytes : List UInt8) :
    IsolatesFrames fromSlice bytes ↔ ∀ frame ∈ frames bytes, Recovers fromSlice frame := by
  constructor
  · rintro ⟨returned, finished⟩
    have prefixes : ∀ start, start <+: bytes →
        (framesEnded start).flatMap (takenEvent fromSlice) =
          (framesEnded start).flatMap (isolatedEvent fromSlice) := by
      rintro start ⟨rest, whole⟩
      have pushed := returned [start] [rest] (by simpa using whole)
      have taken := (pushChunks_events fromSlice [start]).1
      rw [taken] at pushed
      simpa using pushed
    have each := frames_taken prefixes
    have last : takenEvent fromSlice (lastFrame bytes) = isolatedEvent fromSlice (lastFrame bytes) := by
      have whole := finished [bytes] (by simp)
      have taken := (pushChunks_events fromSlice [bytes]).2
      have before := prefixes bytes (List.prefix_refl _)
      rw [taken, List.flatten_singleton, frames, List.flatMap_append, List.flatMap_append, before,
        List.flatMap_singleton, List.flatMap_singleton] at whole
      exact List.append_cancel_left whole
    intro frame member
    rw [← takenEvent_eq_iff]
    rcases List.mem_append.mp member with ended | unended
    · exact each frame ended
    · rw [List.mem_singleton.mp unended]
      exact last
  · intro recovers
    have taken : ∀ frame ∈ frames bytes, takenEvent fromSlice frame = isolatedEvent fromSlice frame :=
      fun frame member => (takenEvent_eq_iff fromSlice frame).mpr (recovers frame member)
    constructor
    · intro pushed later whole
      rw [(pushChunks_events fromSlice pushed).1]
      have before : pushed.flatten <+: bytes := ⟨later.flatten, by rw [← List.flatten_append, whole]⟩
      apply List.flatMap_congr
      intro frame member
      exact taken frame (List.mem_append_left _ (framesEnded_mono before member))
    · intro chunks whole
      rw [(pushChunks_events fromSlice chunks).2, whole]
      exact List.flatMap_congr taken

def readEmpty (bytes : List UInt8) : Except String Json :=
  if bytes = utf8Bytes "\x7b\x7d" then .ok (.object []) else .error "expected value"

def fullLine : Line := List.replicate maxEventBytes 120 ++ [carriageReturn]

def dataLine : Line := utf8Bytes "data: \x7b\x7d"

def leakingStream : List UInt8 :=
  fullLine ++ newline :: (dataLine ++ newline :: ([] ++ newline :: []))

theorem leakingStream_frames : framesEnded leakingStream = [([fullLine, dataLine], [])] := by
  have full : ∀ byte ∈ fullLine, byte ≠ newline := by
    intro byte member
    rcases List.mem_append.mp member with x | last
    · rw [List.eq_of_mem_replicate x]
      decide
    · rw [List.mem_singleton.mp last]
      decide
  have plain : dataLine.all (· != newline) = true := by decide
  have data : ∀ byte ∈ dataLine, byte ≠ newline := fun byte member =>
    bne_iff_ne.mp (List.all_eq_true.mp plain byte member)
  have split : (splitLines newline leakingStream).1 = [fullLine, dataLine, []] := by
    rw [leakingStream, splitLines_of_free full, splitLines_of_free data, splitLines_of_free (by simp)]
    rfl
  have notBlank : blank fullLine = false := by
    rw [← Bool.not_eq_true, blank_iff]
    have length : fullLine.length = maxEventBytes + 1 := by simp [fullLine]
    rintro (empty | single)
    · rw [empty] at length
      cases length
    · rw [single] at length
      exact absurd length (by decide)
  rw [framesEnded, split]
  simp [splitRuns, notBlank, show blank dataLine = false by decide, show blank [] = true by decide]

/-- What follows the leak in an oversized frame is taken for a frame of its own. -/
theorem isolatesFrames_fails : ¬IsolatesFrames readEmpty leakingStream := by
  intro isolates
  have returned := isolates.returned [leakingStream] [] (by simp)
  rw [(pushChunks_events readEmpty [leakingStream]).1, List.flatten_singleton,
    leakingStream_frames, List.flatMap_singleton, List.flatMap_singleton] at returned
  have length : fullLine.length = maxEventBytes + 1 := by simp [fullLine]
  have leak : leaks [] fullLine = true := by simp [leaks, frameBytes, fullLine]
  have kept : leftover [fullLine, dataLine] = [dataLine] := by
    have tight : leaks [] dataLine = false := by decide
    simp [leftover, leak, tight]
  have taken : takenEvent readEmpty ([fullLine, dataLine], []) = [.object []] := by
    rw [takenEvent, kept]
    rfl
  have isolated : isolatedEvent readEmpty ([fullLine, dataLine], []) = [] := by
    apply if_neg
    simp only [frameBytes, List.map_cons, List.map_nil, List.sum_cons, List.sum_nil, length]
    omega
  rw [taken, isolated] at returned
  cases returned

end CodexGate.Metering
