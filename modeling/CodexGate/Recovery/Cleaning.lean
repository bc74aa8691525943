import CodexGate.Recovery.Continuation

namespace CodexGate.Recovery

open Foundation Foundation.SortedMaps

abbrev Bytes := List UInt8

structure SerdeJson where
  fromSlice : Bytes → Option Json
  toVec : Json → Bytes

/-- What is read has its maps in order, and what was written is read back, if at all. -/
structure SerdeJson.Documented (serde : SerdeJson) : Prop where
  ordered : ∀ body value, serde.fromSlice body = some value → value.Ordered
  back : ∀ value again, serde.fromSlice (serde.toVec value) = some again → again = value

def sanitizeBody (serde : SerdeJson) (sha256 : String → Digest) (invalid : Option (List Digest))
    (websocket : Bool) (body : Bytes) : Option (Bytes × Nat) :=
  match serde.fromSlice body with
  | none => none
  | some value =>
    (sanitize sha256 invalid websocket value).map fun (cleaned, count) =>
      (serde.toVec cleaned, count)

section Specification

variable (sha256 : String → Digest) (invalid : Option (List Digest))

/-- A supported item with encrypted content, of a known digest where only these count. -/
def matched (item : Json) : Bool :=
  supportedItem item && (item.get "encrypted_content").isSome &&
    invalid.all fun known => (encryptedDigest sha256 item).any (· ∈ known)

def ciphered (member : String × Json) : Bool :=
  member.1 = "encrypted_content" || member.1 = "content" && member.2.isNull

inductive Cleaned : Json → Option Json → Prop
  | other {item : Json} (unmatched : matched sha256 invalid item = false) : Cleaned item (some item)
  | compaction {item : Json} (is : matched sha256 invalid item = true)
    (typed : itemType item ≠ some "reasoning") : Cleaned item none
  | bare {item : Json} (is : matched sha256 invalid item = true)
    (typed : itemType item = some "reasoning")
    (nothing : ∀ key value, item.get key = some value →
      key = "type" ∨ ciphered (key, value) = true) : Cleaned item none
  | stripped {members : List (String × Json)}
    (is : matched sha256 invalid (.object members) = true)
    (typed : itemType (.object members) = some "reasoning")
    (more : ∃ member ∈ members, member.1 ≠ "type" ∧ ciphered member = false) :
    Cleaned (.object members) (some (.object (members.filter fun member => !ciphered member)))

inductive CleanedInput : Json → Json → Prop
  | array {items : List Json} {lefts : List (Option Json)}
    (each : List.Forall₂ (Cleaned sha256 invalid) items lefts) :
    CleanedInput (.array items) (.array lefts.reduceOption)
  | kept {members : List (String × Json)} {left : Json}
    (cleaned : Cleaned sha256 invalid (.object members) (some left)) :
    CleanedInput (.object members) left
  | gone {members : List (String × Json)} (cleaned : Cleaned sha256 invalid (.object members) none) :
    CleanedInput (.object members) (.array [])

def isOther (member : String × Json) : Bool :=
  member.1 ≠ "input" && member.1 ≠ "previous_response_id"

/-- The input is cleaned, and nothing else is touched but the continuation of a WebSocket. -/
structure CleanedBody (websocket : Bool) (value cleaned : Json) : Prop where
  input : ∃ before after, value.get "input" = some before ∧ cleaned.get "input" = some after ∧
    CleanedInput sha256 invalid before after
  others : ∃ before after, value = .object before ∧ cleaned = .object after ∧
    after.filter isOther = before.filter isOther
  continuation : cleaned.get "previous_response_id" = value.get "previous_response_id" ∨
    websocket = true ∧ cleaned.get "previous_response_id" = none

end Specification

section Items

variable {sha256 : String → Digest} {invalid : Option (List Digest)} {item left : Json}

theorem matched_iff : matched sha256 invalid item = true ↔
    supportedItem item = true ∧ (item.get "encrypted_content").isSome = true ∧
      (invalid.any fun known => !(encryptedDigest sha256 item).any (· ∈ known)) = false := by
  cases invalid <;> simp [matched, and_assoc]

theorem clean_unmatched (unmatched : matched sha256 invalid item = false) :
    clean sha256 invalid item = (some item, 0) := by
  unfold clean
  split
  · rfl
  · rename_i supported
    split
    · rfl
    · rename_i known
      have is : matched sha256 invalid item = true := by
        rw [matched_iff]
        simpa [Option.isNone_iff_eq_none, Option.isSome_iff_ne_none, and_assoc] using
          And.intro supported known
      rw [is] at unmatched
      cases unmatched

theorem clean_matched (is : matched sha256 invalid item = true) :
    clean sha256 invalid item =
      if itemType item ≠ some "reasoning" then (none, 1) else (stripReasoning item, 1) := by
  obtain ⟨supported, encrypted, known⟩ := matched_iff.mp is
  have present : (item.get "encrypted_content").isNone = false := by
    rw [← Option.not_isSome, encrypted]
    rfl
  unfold clean
  rw [supported, present, known]
  rfl

theorem matched_object (is : matched sha256 invalid item = true) :
    ∃ members, item = .object members := by
  cases item with
  | object members => exact ⟨members, rfl⟩
  | _ => simp [matched, Json.get] at is

theorem clean_count (item : Json) :
    (clean sha256 invalid item).2 = if matched sha256 invalid item then 1 else 0 := by
  cases is : matched sha256 invalid item with
  | false => rw [clean_unmatched is]; rfl
  | true =>
    rw [clean_matched is]
    split <;> rfl

theorem shown_members {members : List (String × Json)} (increasing : Increasing members) :
    (if (((Json.object members).remove "encrypted_content").get "content").any Json.isNull then
        ((Json.object members).remove "encrypted_content").remove "content"
      else (Json.object members).remove "encrypted_content") =
      .object (members.filter fun member => !ciphered member) := by
  have content : ((Json.object members).remove "encrypted_content").get "content" =
      members.lookup "content" := Json.get_remove_of_ne _ (by decide)
  rw [content]
  have null : ∀ member ∈ members, member.1 = "content" →
      (member.2.isNull = (members.lookup "content").any Json.isNull) := by
    intro member inside named
    have found : members.lookup "content" = some member.2 := by
      rw [← named]
      exact increasing.lookup_of_mem inside
    rw [found]
    rfl
  split
  · rename_i isNull
    show Json.object ((members.filter _).filter _) = _
    rw [List.filter_filter]
    congr 1
    refine List.filter_congr fun member inside => ?_
    by_cases named : member.1 = "content"
    · simp [ciphered, named, null member inside named, isNull]
    · simp [ciphered, named]
  · rename_i notNull
    show Json.object (members.filter _) = _
    congr 1
    refine List.filter_congr fun member inside => ?_
    by_cases named : member.1 = "content"
    · simp [ciphered, named, null member inside named, notNull]
    · simp [ciphered, named]

/-- Of a map whose keys are distinct more than one member is left when there is one besides the
type. -/
theorem more_than_type {members : List (String × Json)} (increasing : Increasing members)
    (typed : "type" ∈ members.map Prod.fst) :
    1 < members.length ↔ ∃ member ∈ members, member.1 ≠ "type" := by
  have nodup := increasing.nodup
  have count : (members.map Prod.fst).count "type" = 1 := List.count_eq_one_of_mem nodup typed
  have total : members.length =
      members.countP (fun member => member.1 = "type") +
        members.countP (fun member => ¬(member.1 = "type")) := by
    simpa using List.length_eq_countP_add_countP (fun member : String × Json => member.1 = "type")
  have one : members.countP (fun member => member.1 = "type") = 1 := by
    rw [← count, List.count, List.countP_map]
    rfl
  rw [total, one]
  have some_other : 0 < members.countP (fun member => ¬(member.1 = "type")) ↔
      ∃ member ∈ members, member.1 ≠ "type" := by
    simp [List.countP_pos_iff]
  rw [← some_other]
  omega

theorem itemType_key {members : List (String × Json)} {kind : String}
    (typed : itemType (.object members) = some kind) : members.lookup "type" = some (.string kind) := by
  obtain ⟨value, found, is⟩ := Option.bind_eq_some_iff.mp typed
  cases value with
  | string text =>
    cases is
    exact found
  | _ => cases is

theorem clean_cleaned (ordered : item.Ordered) :
    Cleaned sha256 invalid item (clean sha256 invalid item).1 := by
  cases is : matched sha256 invalid item with
  | false =>
    rw [clean_unmatched is]
    exact .other is
  | true =>
    obtain ⟨members, rfl⟩ := matched_object is
    rw [clean_matched is]
    split
    · rename_i typed
      exact .compaction is typed
    rename_i typed
    have reasoning : itemType (.object members) = some "reasoning" := not_not.mp typed
    have increasing := ordered.increasing
    have typeMember : ("type", Json.string "reasoning") ∈
        members.filter fun member => !ciphered member :=
      List.mem_filter.mpr ⟨mem_of_lookup (itemType_key reasoning), rfl⟩
    have length := more_than_type (increasing.filter _)
      (List.mem_map.mpr ⟨_, typeMember, rfl⟩)
    unfold stripReasoning
    dsimp only
    rw [shown_members increasing]
    dsimp only
    split
    · rename_i more
      obtain ⟨member, inside, other⟩ := length.mp more
      obtain ⟨inside, plain⟩ := List.mem_filter.mp inside
      exact .stripped is reasoning ⟨member, inside, other, by simpa using plain⟩
    · rename_i alone
      refine .bare is reasoning fun key value found => ?_
      by_contra other
      rw [not_or] at other
      refine alone (length.mpr ⟨(key, value), ?_, other.1⟩)
      exact List.mem_filter.mpr ⟨mem_of_lookup found, by simpa using other.2⟩

theorem Cleaned.unmatched (cleaned : Cleaned sha256 invalid item (some left)) :
    matched sha256 invalid left = false := by
  cases cleaned with
  | other unmatched => exact unmatched
  | stripped is typed more =>
    rename_i members
    have gone : (Json.object (members.filter fun member => !ciphered member)).get
        "encrypted_content" = none := by
      rw [Json.get, List.lookup_eq_none_iff]
      intro member there
      obtain ⟨-, plain⟩ := List.mem_filter.mp there
      simpa using fun named : "encrypted_content" = member.1 => by simp [ciphered, ← named] at plain
    simp [matched, gone]

end Items

section Input

variable {sha256 : String → Digest} {invalid : Option (List Digest)} {value cleaned : Json}
  {count : Nat} {websocket : Bool}

theorem cleans_all {items : List Json} (ordered : ∀ item ∈ items, item.Ordered) :
    List.Forall₂ (Cleaned sha256 invalid) items
      (items.map fun item => (clean sha256 invalid item).1) := by
  induction items with
  | nil => exact .nil
  | cons item rest ih =>
    have first := @clean_cleaned sha256 invalid item (ordered item List.mem_cons_self)
    exact .cons first (ih fun other member => ordered other (List.mem_cons_of_mem _ member))

theorem cleanInput_count (done : cleanInput sha256 invalid value = some (cleaned, count)) :
    count = (visitInput value).countP (matched sha256 invalid) := by
  have each : ∀ items : List Json, (items.map fun item => (clean sha256 invalid item).2).sum =
      items.countP (matched sha256 invalid) := by
    intro items
    induction items with
    | nil => rfl
    | cons item rest ih =>
      rw [List.map_cons, List.sum_cons, ih, clean_count, List.countP_cons]
      omega
  unfold cleanInput at done
  unfold visitInput
  split at done
  · rename_i items found
    obtain ⟨-, rfl⟩ := Prod.mk.inj (Option.some.inj done)
    show ((items.map (clean sha256 invalid)).map Prod.snd).sum = _
    rw [List.map_map]
    exact each items
  · rename_i members found
    obtain ⟨-, rfl⟩ := Prod.mk.inj (Option.some.inj done)
    simpa using each [.object members]
  · cases done

theorem sanitize_count (done : sanitize sha256 invalid websocket value = some (cleaned, count)) :
    count = (visitInput value).countP (matched sha256 invalid) := by
  unfold sanitize at done
  split at done
  · cases done
  · rename_i input counted found
    split at done
    · cases done
    · split at done
      · obtain ⟨-, rfl⟩ := Prod.mk.inj (Option.some.inj done)
        exact cleanInput_count found
      · obtain ⟨-, rfl⟩ := Prod.mk.inj (Option.some.inj done)
        exact cleanInput_count found

theorem sanitize_eq_none_iff : sanitize sha256 invalid websocket value = none ↔
    ∀ item ∈ visitInput value, matched sha256 invalid item = false := by
  have nothing : (∀ item ∈ visitInput value, matched sha256 invalid item = false) ↔
      (visitInput value).countP (matched sha256 invalid) = 0 := by
    simp [List.countP_eq_zero]
  rw [nothing]
  unfold sanitize
  split
  · rename_i missed
    have empty : visitInput value = [] := by
      unfold cleanInput at missed
      unfold visitInput
      split at missed
      · cases missed
      · cases missed
      · rfl
    simp [empty]
  · rename_i input counted found
    rw [← cleanInput_count found]
    split
    · rename_i zero
      simp [zero]
    · rename_i counts
      split <;> simp [counts]

theorem CleanedInput.unmatched {before after : Json}
    (input : CleanedInput sha256 invalid before after) (found : value.get "input" = some after) :
    ∀ item ∈ visitInput value, matched sha256 invalid item = false := by
  unfold visitInput
  rw [found]
  clear found
  intro item there
  cases input with
  | array each =>
    rename_i items lefts
    induction each with
    | nil => cases there
    | @cons item left rest lefts first others ih =>
      cases left with
      | none => exact ih there
      | some left =>
        rcases List.mem_cons.mp there with same | there
        · rw [same]
          exact first.unmatched
        · exact ih there
  | kept cleaned =>
    have after := cleaned.unmatched
    cases cleaned with
    | other _ =>
      rw [List.mem_singleton.mp there]
      exact after
    | stripped _ _ _ =>
      rw [List.mem_singleton.mp there]
      exact after
  | gone _ => cases there

theorem cleanInput_cleans (ordered : value.Ordered)
    (done : cleanInput sha256 invalid value = some (cleaned, count)) :
    ∃ before after members, value = .object members ∧ members.lookup "input" = some before ∧
      cleaned = value.insert "input" after ∧ CleanedInput sha256 invalid before after := by
  have object : ∀ input, value.get "input" = some input → ∃ members, value = .object members := by
    intro input found
    cases value with
    | object members => exact ⟨members, rfl⟩
    | _ => cases found
  unfold cleanInput at done
  split at done
  · rename_i items found
    obtain ⟨members, rfl⟩ := object _ found
    obtain ⟨rfl, -⟩ := Prod.mk.inj (Option.some.inj done)
    have each := @cleans_all sha256 invalid items fun item member =>
      (ordered.get found).items member
    have lefts : items.map (fun item => (clean sha256 invalid item).1) =
        (items.map (clean sha256 invalid)).map Prod.fst := by
      rw [List.map_map]
      rfl
    refine ⟨_, _, members, rfl, found, rfl, ?_⟩
    have all := CleanedInput.array each
    have present : (items.map fun item => (clean sha256 invalid item).1).reduceOption =
        (items.map (clean sha256 invalid)).filterMap Prod.fst := by
      rw [lefts]
      exact List.filterMap_map
    rw [present] at all
    exact all
  · rename_i item found
    obtain ⟨members, rfl⟩ := object _ found
    obtain ⟨rfl, -⟩ := Prod.mk.inj (Option.some.inj done)
    have one := @clean_cleaned sha256 invalid _ (ordered.get found)
    refine ⟨_, _, members, rfl, found, rfl, ?_⟩
    cases left : (clean sha256 invalid (.object item)).1 with
    | none =>
      rw [left] at one
      exact .gone one
    | some kept =>
      rw [left] at one
      exact .kept one
  · cases done

theorem insertMember_others (after : Json) (members : List (String × Json)) :
    (Json.insertMember "input" after members).filter isOther = members.filter isOther := by
  induction members with
  | nil => rfl
  | cons first rest ih =>
    obtain ⟨key, member⟩ := first
    unfold Json.insertMember
    split
    · rename_i same
      subst same
      rfl
    · rw [List.filter_cons, List.filter_cons, ih]

theorem remove_others (members : List (String × Json)) :
    (members.filter fun member => member.1 ≠ "previous_response_id").filter isOther =
      members.filter isOther := by
  rw [List.filter_filter]
  refine List.filter_congr fun member _ => ?_
  by_cases named : member.1 = "previous_response_id" <;> simp [isOther, named]

theorem sanitize_cleans (ordered : value.Ordered)
    (done : sanitize sha256 invalid websocket value = some (cleaned, count)) :
    CleanedBody sha256 invalid websocket value cleaned := by
  unfold sanitize at done
  split at done
  · cases done
  rename_i input counted found
  obtain ⟨before, after, members, rfl, there, rfl, cleans⟩ := cleanInput_cleans ordered found
  have now : ((Json.object members).insert "input" after).get "input" = some after :=
    Json.get_insert_self members "input" after
  split at done
  · cases done
  split at done
  · rename_i dropped
    obtain ⟨rfl, -⟩ := Prod.mk.inj (Option.some.inj done)
    have onSocket : websocket = true := (Bool.and_eq_true_iff.mp dropped).1
    constructor
    · refine ⟨before, after, there, ?_, cleans⟩
      rw [Json.get_remove_of_ne _ (by decide)]
      exact now
    · refine ⟨members, _, rfl, rfl, ?_⟩
      rw [remove_others]
      exact insertMember_others after members
    · exact .inr ⟨onSocket, Json.get_remove_self _ _⟩
  · obtain ⟨rfl, -⟩ := Prod.mk.inj (Option.some.inj done)
    constructor
    · exact ⟨before, after, there, now, cleans⟩
    · exact ⟨members, _, rfl, rfl, insertMember_others after members⟩
    · exact .inl (Json.get_insert_of_ne _ _ (by decide))

end Input

/-- `sanitize` gives nothing when nothing matches, and otherwise the body without what matches and
the number of items that did; of that it has nothing more to clean. -/
theorem sanitizeBody_exact (serde : SerdeJson) (documented : serde.Documented)
    (sha256 : String → Digest) (invalid : Option (List Digest)) (websocket : Bool) {body : Bytes}
    {value : Json} (read : serde.fromSlice body = some value) :
    (sanitizeBody serde sha256 invalid websocket body = none ↔
        ∀ item ∈ visitInput value, matched sha256 invalid item = false) ∧
      ∀ out count, sanitizeBody serde sha256 invalid websocket body = some (out, count) →
        (∃ cleaned, out = serde.toVec cleaned ∧
          CleanedBody sha256 invalid websocket value cleaned) ∧
        count = (visitInput value).countP (matched sha256 invalid) ∧
        ∀ socket, sanitizeBody serde sha256 invalid socket out = none := by
  have unfolded : sanitizeBody serde sha256 invalid websocket body =
      (sanitize sha256 invalid websocket value).map fun (cleaned, count) =>
        (serde.toVec cleaned, count) := by
    rw [sanitizeBody, read]
  rw [unfolded]
  refine ⟨Option.map_eq_none_iff.trans sanitize_eq_none_iff, ?_⟩
  intro out count done
  obtain ⟨⟨cleaned, counted⟩, sanitized, same⟩ := Option.map_eq_some_iff.mp done
  obtain ⟨rfl, rfl⟩ := Prod.mk.inj same
  have cleans := sanitize_cleans (documented.ordered body value read) sanitized
  refine ⟨⟨cleaned, rfl, cleans⟩, sanitize_count sanitized, fun socket => ?_⟩
  unfold sanitizeBody
  split
  · rfl
  · rename_i again found
    obtain ⟨before, after, -, now, input⟩ := cleans.input
    rw [documented.back cleaned again found, sanitize_eq_none_iff.mpr (input.unmatched now)]
    rfl

section Example

def ascii (text : String) : Bytes := text.toList.map fun c => UInt8.ofNat c.toNat

def compactionBody : Bytes :=
  ascii "\x7b\"input\":\x7b\"encrypted_content\":\"old\",\"type\":\"compaction\"\x7d\x7d"

def compactionValue : Json :=
  .object [
    ("input", .object [("encrypted_content", .string "old"), ("type", .string "compaction")])]

def emptiedBody : Bytes := ascii "\x7b\"input\":[]\x7d"

def compactionSerde : SerdeJson where
  fromSlice body :=
    if body = compactionBody then some compactionValue
    else if body = emptiedBody then some (.object [("input", .array [])])
    else none
  toVec value :=
    match value with
    | .object [("input", .array [])] => emptiedBody
    | _ => []

theorem compactionSerde_documented : compactionSerde.Documented where
  ordered := by
    intro body value read
    unfold compactionSerde at read
    dsimp only at read
    split at read
    · cases read
      refine .object (List.pairwise_singleton _ _) fun member there => ?_
      rw [List.mem_singleton.mp there]
      refine .object (List.pairwise_pair.mpr (by decide)) fun inner inside => ?_
      rcases List.mem_cons.mp inside with rfl | inside
      · exact .string _
      · rw [List.mem_singleton.mp inside]
        exact .string _
    · split at read
      · cases read
        refine .object (List.pairwise_singleton _ _) fun member there => ?_
        rw [List.mem_singleton.mp there]
        exact .array fun item inside => by cases inside
      · cases read
  back := by
    intro value again read
    unfold compactionSerde at read
    dsimp only at read
    split at read
    · cases read
      rfl
    · cases read

theorem sanitizeBody_exact_compaction :
    sanitizeBody compactionSerde (fun _ => [1]) (some [[1]]) false compactionBody =
        some (emptiedBody, 1) ∧
      ∀ socket, sanitizeBody compactionSerde (fun _ => [1]) (some [[1]]) socket emptiedBody = none := by
  have cleans := sanitizeBody_exact compactionSerde compactionSerde_documented (fun _ => [1])
    (some [[1]]) false (show compactionSerde.fromSlice compactionBody = some compactionValue from rfl)
  exact ⟨rfl, (cleans.2 emptiedBody 1 rfl).2.2⟩

end Example

end CodexGate.Recovery
