import CodexGate.Dispatch.OpenaiEdits

namespace CodexGate.Dispatch.Openai

open Foundation Foundation.JsonText

def usageOf (value : Json) : Option Json :=
  (value.get "stream_options").bind fun options => options.get "include_usage"

structure StreamRequest (value : Json) : Prop where
  model : ∃ model, value.get "model" = some (.string model)
  stream : value.get "stream" = some (.bool true)
  options : ∀ options, value.get "stream_options" = some options →
    options = .null ∨ ∃ members, options = .object members

def UsageSet (before after : Json) : Prop :=
  (∀ key, key ≠ "stream_options" → after.get key = before.get key) ∧
    ∃ options, after.get "stream_options" = some options ∧
      options.get "include_usage" = some (.bool true) ∧
      ∀ key, key ≠ "include_usage" →
        options.get key = (before.get "stream_options").bind fun options => options.get key

def Updates (serde : SerdeJson) (body : Bytes) (value : Json) : Prop :=
  ∃ out after, ensureIncludeUsage serde body = .ok out ∧ serde.fromSlice out = some after ∧
    UsageSet value after

def memberOf (key : Bytes) : Doc → Option Doc
  | .object members => members.spelled key
  | _ => none

def rootMember (body key : Bytes) : Option Doc :=
  (parse body).bind fun text => memberOf key text.value

/-- Either `include_usage` is set already, or the header can be read and no escape in a key hides
what has to be changed. -/
def Editable (serde : SerdeJson) (body : Bytes) (value : Json) : Prop :=
  usageOf value = some (.bool true) ∨
    (parseRequestInfo serde body).stream = true ∧
      match rootMember body (utf8Bytes "stream_options") with
      | some options => value.get "stream_options" ≠ some .null ∧
          (memberOf (utf8Bytes "include_usage") options = none → usageOf value = none)
      | none => ∀ key, key ≠ "include_usage" →
          ((value.get "stream_options").bind fun options => options.get key) = none

section Reading

variable {lexis : Lexis}

theorem get_object {members : Members} {pairs : List (String × Json)}
    (read : members.read lexis = some pairs) :
    ∃ value, (Doc.object members).read lexis = some value ∧
      ∀ key, value.get key = lastOf key pairs := by
  refine ⟨.object (collect pairs), ?_, fun key => lookup_collect key pairs⟩
  rw [Doc.read, read, Option.map_some]

theorem filter_paired {key : String} {entries : List (Spelling × Doc)}
    {pairs : List (String × Json)}
    (paired : List.Forall₂ (fun entry pair => entry.1.read lexis = some pair.1 ∧
      entry.2.read lexis = some pair.2) entries pairs) :
    List.Forall₂ (fun entry pair => entry.1.read lexis = some pair.1 ∧
      entry.2.read lexis = some pair.2)
      (entries.filter fun entry => entry.1.read lexis = some key)
      (pairs.filter fun pair => pair.1 = key) := by
  induction paired with
  | nil => exact .nil
  | @cons entry pair entries pairs head rest ih =>
    have named : entry.1.read lexis = some key ↔ pair.1 = key := by
      rw [head.1, Option.some.injEq]
    by_cases same : pair.1 = key
    · rw [List.filter_cons_of_pos (by simp [named, same]), List.filter_cons_of_pos (by simp [same])]
      exact .cons head ih
    · rw [List.filter_cons_of_neg (by simp [named, same]), List.filter_cons_of_neg (by simp [same])]
      exact ih

theorem field_read {key : String} {members : Members} {pairs : List (String × Json)}
    (read : members.read lexis = some pairs) {found : Option Doc}
    (field : field lexis key members.entries = some found) :
    Once key pairs ∧ lastOf key pairs = found.bind (Doc.read lexis) ∧
      ∀ doc, found = some doc → ∃ was, doc.read lexis = some was := by
  have paired := @filter_paired lexis key _ _ (Members.read_entries lexis read)
  unfold Openai.field at field
  rw [← lastOf_filter, Once]
  split at field
  · next none =>
    rw [none, List.forall₂_nil_left_iff] at paired
    cases field
    rw [paired]
    refine ⟨by simp, rfl, ?_⟩
    intro doc absent
    cases absent
  · next entry one =>
    rw [one, List.forall₂_cons_left_iff] at paired
    obtain ⟨pair, rest, head, others, filtered⟩ := paired
    rw [List.forall₂_nil_left_iff] at others
    subst others
    cases field
    have there : pair ∈ pairs.filter fun pair => pair.1 = key := by simp [filtered]
    have named : pair.1 = key := by simpa using List.of_mem_filter there
    rw [filtered]
    refine ⟨Nat.le_refl _, ?_, ?_⟩
    · rw [lastOf, lastOf, Option.none_or, if_pos named, Option.bind_some, head.2]
    · intro doc same
      cases same
      exact ⟨pair.2, head.2⟩
  · cases field

theorem field_entry {key : String} {members : Members} {found : Option Doc}
    (field : field lexis key members.entries = some found) {raw : Bytes} {value : Doc}
    (spelled : members.spelled raw = some value) (named : lexis.text raw = some key) :
    found = some value := by
  obtain ⟨spelling, same, member⟩ := Members.spelled_mem spelled
  have there : (spelling, value) ∈
      members.entries.filter fun entry => entry.1.read lexis = some key := by
    apply List.mem_filter.mpr ⟨member, ?_⟩
    rw [decide_eq_true_iff, Spelling.read, same]
    exact named
  unfold Openai.field at field
  split at field
  · next none =>
    rw [none] at there
    cases there
  · next entry one =>
    rw [one, List.mem_singleton] at there
    cases field
    rw [← there]
  · cases field

theorem word_noObject {word : Word} {members : List (String × Json)} :
    word.read lexis ≠ some (.object members) := by
  intro read
  unfold Word.read at read
  split at read
  · cases read
  · split at read
    · cases read
    · split at read
      · cases read
      · obtain ⟨text, -, same⟩ := Option.map_eq_some_iff.mp read
        cases same

theorem get_noObject {value : Json} (noObject : ∀ members, value ≠ .object members) (key : String) :
    value.get key = none := by
  cases value with
  | object members => exact absurd rfl (noObject members)
  | _ => rfl

theorem word_get {word : Word} {value : Json} (read : word.read lexis = some value) (key : String) :
    value.get key = none := by
  apply get_noObject
  intro members same
  rw [same] at read
  exact word_noObject read

theorem object_of_read {doc : Doc} {was : List (String × Json)}
    (read : doc.read lexis = some (.object was)) :
    (∃ gap, doc = .emptyObject gap) ∨ ∃ members, doc = .object members := by
  cases doc with
  | word word => exact absurd read word_noObject
  | text spelling =>
    rw [Doc.read] at read
    obtain ⟨text, -, same⟩ := Option.map_eq_some_iff.mp read
    cases same
  | emptyArray gap => cases read
  | array elements =>
    rw [Doc.read] at read
    obtain ⟨items, -, same⟩ := Option.map_eq_some_iff.mp read
    cases same
  | emptyObject gap => exact .inl ⟨gap, rfl⟩
  | object members => exact .inr ⟨members, rfl⟩

theorem null_noObject {doc : Doc} (read : doc.read lexis = some .null) :
    (∀ gap, doc ≠ .emptyObject gap) ∧ ∀ members, doc ≠ .object members := by
  constructor
  · rintro gap rfl
    cases read
  · rintro members rfl
    rw [Doc.read] at read
    obtain ⟨pairs, -, same⟩ := Option.map_eq_some_iff.mp read
    cases same

theorem optional_bool {found : Option Doc} {flag : Option Bool}
    (read : optional lexis optionBool found = some flag) :
    flag = some true ↔ found.bind (Doc.read lexis) = some (.bool true) := by
  cases found with
  | none =>
    cases read
    simp
  | some doc =>
    obtain ⟨value, reads, flagged⟩ := Option.bind_eq_some_iff.mp read
    rw [Option.bind_some, reads, Option.some.injEq]
    cases value with
    | null =>
      cases flagged
      simp
    | bool set =>
      cases flagged
      simp
    | _ => cases flagged

theorem derive_usage {found : Option Doc} {options : Option StreamOptions} {was : Json}
    (derived : StreamOptions.derive lexis found = some options)
    (reads : found.bind (Doc.read lexis) = some was)
    (kind : was = .null ∨ ∃ members, was = .object members) :
    options.bind StreamOptions.includeUsage = some true ↔
      was.get "include_usage" = some (.bool true) := by
  cases found with
  | none => cases reads
  | some doc =>
    rw [Option.bind_some] at reads
    cases doc with
    | word word =>
      rw [word_get (by exact reads)]
      rw [StreamOptions.derive] at derived
      split at derived
      · cases derived
        simp
      · cases derived
    | text spelling => cases derived
    | emptyArray gap => cases derived
    | array elements =>
      rw [Doc.read] at reads
      obtain ⟨items, -, same⟩ := Option.map_eq_some_iff.mp reads
      subst same
      rcases kind with kind | ⟨members, kind⟩
      · cases kind
      · cases kind
    | emptyObject gap =>
      cases derived
      cases reads
      simp [collect, Json.get]
    | object members =>
      rw [Doc.read] at reads
      obtain ⟨pairs, inner, same⟩ := Option.map_eq_some_iff.mp reads
      subst same
      rw [StreamOptions.derive] at derived
      obtain ⟨entries, read, same⟩ := Option.map_eq_some_iff.mp derived
      subst same
      rw [StreamOptions.ofEntries] at read
      obtain ⟨usage, there, read⟩ := Option.bind_eq_some_iff.mp read
      obtain ⟨flag, flagged, same⟩ := Option.bind_eq_some_iff.mp read
      cases same
      have last := (field_read inner there).2.1
      have get : (Json.object (collect pairs)).get "include_usage" = _ := lookup_collect _ pairs
      rw [get, last]
      exact optional_bool flagged

theorem derive_once {members : Members} {options : Option StreamOptions}
    {pairs : List (String × Json)} (read : members.read lexis = some pairs)
    (derived : StreamOptions.derive lexis (some (.object members)) = some options) :
    Once "include_usage" pairs := by
  rw [StreamOptions.derive] at derived
  obtain ⟨entries, taken, -⟩ := Option.map_eq_some_iff.mp derived
  rw [StreamOptions.ofEntries] at taken
  obtain ⟨usage, there, -⟩ := Option.bind_eq_some_iff.mp taken
  exact (field_read read there).1

end Reading

section Request

variable {serde : SerdeJson} (documented : SerdeJson.Documented serde) {text : Text}
  {value : Json} (read : serde.value text = some value)

theorem plain_streamOptions (documented : SerdeJson.Documented serde) :
    streamOptionsKey.read serde.lexis = some "stream_options" := by
  rw [Spelling.read, documented.plain _ (by decide)]
  decide

theorem plain_includeUsage (documented : SerdeJson.Documented serde) :
    includeUsageKey.read serde.lexis = some "include_usage" := by
  rw [Spelling.read, documented.plain _ (by decide)]
  decide

include read in
theorem read_value : text.value.read serde.lexis = some value ∧
    text.value.depth < serde.recursionLimit := by
  unfold SerdeJson.value at read
  split at read
  · next shallow => exact ⟨read, shallow⟩
  · cases read

include read in
theorem opened (request : StreamRequest value) : ∃ members pairs,
    text.value = .object members ∧ members.read serde.lexis = some pairs ∧
      members.depth + 1 < serde.recursionLimit ∧ ∀ key, value.get key = lastOf key pairs := by
  obtain ⟨reads, shallow⟩ := read_value read
  obtain ⟨model, has⟩ := request.model
  cases shape : text.value with
  | word word =>
    rw [shape, Doc.read] at reads
    rw [word_get reads] at has
    cases has
  | text spelling =>
    rw [shape, Doc.read] at reads
    obtain ⟨text, -, same⟩ := Option.map_eq_some_iff.mp reads
    rw [← same] at has
    cases has
  | emptyArray gap =>
    rw [shape] at reads
    cases reads
    cases has
  | array elements =>
    rw [shape, Doc.read] at reads
    obtain ⟨items, -, same⟩ := Option.map_eq_some_iff.mp reads
    rw [← same] at has
    cases has
  | emptyObject gap =>
    rw [shape] at reads
    cases reads
    cases has
  | object members =>
    rw [shape, Doc.read] at reads
    obtain ⟨pairs, found, same⟩ := Option.map_eq_some_iff.mp reads
    rw [shape, Doc.depth] at shallow
    refine ⟨members, pairs, rfl, found, shallow, ?_⟩
    intro key
    rw [← same]
    exact lookup_collect key pairs

include documented read in
theorem streams_header {members : Members} (shape : text.value = .object members)
    (streams : (parseRequestInfo serde text.bytes).stream = true) : ∃ found options,
      field serde.lexis "stream_options" members.entries = some found ∧
      StreamOptions.derive serde.lexis found = some options ∧
      (parseRequestInfo serde text.bytes).includeUsage =
        options.bind StreamOptions.includeUsage := by
  have header := documented.header text value read
  rw [shape, OpenAiHeader.derive] at header
  unfold parseRequestInfo at streams ⊢
  cases derived : serde.header text.bytes with
  | none =>
    rw [derived] at streams
    cases streams
  | some v =>
    rw [derived] at header
    obtain ⟨model, -, header⟩ := Option.bind_eq_some_iff.mp header.symm
    obtain ⟨stream, -, header⟩ := Option.bind_eq_some_iff.mp header
    obtain ⟨found, there, header⟩ := Option.bind_eq_some_iff.mp header
    rw [OpenAiHeader.ofFields] at header
    obtain ⟨named, -, header⟩ := Option.bind_eq_some_iff.mp header
    obtain ⟨streamed, -, header⟩ := Option.bind_eq_some_iff.mp header
    obtain ⟨options, asked, same⟩ := Option.bind_eq_some_iff.mp header
    cases same
    exact ⟨found, options, there, asked, rfl⟩

include documented read in
theorem header_usage (request : StreamRequest value)
    (streams : (parseRequestInfo serde text.bytes).stream = true) :
    (parseRequestInfo serde text.bytes).includeUsage = some true ↔
      usageOf value = some (.bool true) := by
  obtain ⟨members, pairs, shape, reads, -, get⟩ := opened read request
  obtain ⟨found, options, there, derived, flag⟩ := streams_header documented read shape streams
  obtain ⟨-, last, stands⟩ := field_read reads there
  rw [flag, usageOf, get, last]
  cases found with
  | none =>
    cases derived
    simp
  | some doc =>
    obtain ⟨was, reads⟩ := stands doc rfl
    have given : value.get "stream_options" = some was := by
      rw [get, last, Option.bind_some, reads]
    rw [derive_usage derived (by exact reads) (request.options was given), Option.bind_some, reads,
      Option.bind_some]

theorem fromSlice_bytes (text : Text) : serde.fromSlice text.bytes = serde.value text := by
  rw [SerdeJson.fromSlice, parse_bytes, Option.bind_some]

theorem value_edited (before after : Gap) {members : Members} {pairs : List (String × Json)}
    (shallow : members.depth + 1 < serde.recursionLimit)
    (reads : members.read serde.lexis = some pairs) :
    ∃ value, serde.fromSlice (Text.bytes ⟨before, .object members, after⟩) = some value ∧
      ∀ key, value.get key = lastOf key pairs := by
  obtain ⟨value, read, get⟩ := get_object reads
  refine ⟨value, ?_, get⟩
  rw [fromSlice_bytes, SerdeJson.value, if_pos (by exact shallow)]
  exact read

theorem updates_iff {body out : Bytes} {value after : Json}
    (sent : ensureIncludeUsage serde body = .ok out) (reads : serde.fromSlice out = some after) :
    Updates serde body value ↔ UsageSet value after := by
  constructor
  · rintro ⟨other, received, same, reads', set⟩
    rw [sent] at same
    cases same
    rw [reads] at reads'
    cases reads'
    exact set
  · intro set
    exact ⟨out, after, sent, reads, set⟩

theorem newOptions_read (documented : SerdeJson.Documented serde) :
    newOptions.read serde.lexis = some (.object [("include_usage", .bool true)]) := by
  have key := plain_includeUsage documented
  have flag : trueDoc.read serde.lexis = some (.bool true) := rfl
  rw [newOptions, Doc.read, Members.read, show (bare includeUsageKey).key = includeUsageKey from rfl,
    key, Option.bind_some, flag]
  rfl

theorem newOptions_get {key : String} (different : key ≠ "include_usage") :
    (Json.object [("include_usage", .bool true)]).get key = none := by
  have other : (key == "include_usage") = false := by simpa using different
  simp [Json.get, List.lookup_cons, other]

theorem updates_refused {body : Bytes} {value : Json} {error : String}
    (sent : ensureIncludeUsage serde body = .error error) : ¬Updates serde body value := by
  rintro ⟨out, after, same, -⟩
  rw [sent] at same
  cases same

include documented read in
theorem updates_missing (request : StreamRequest value)
    (streams : (parseRequestInfo serde text.bytes).stream = true)
    (unset : usageOf value ≠ some (.bool true)) {members : Members}
    (shape : text.value = .object members)
    (missing : members.spelled streamOptionsKey.bytes = none) :
    Updates serde text.bytes value ↔ ∀ key, key ≠ "include_usage" →
      ((value.get "stream_options").bind fun options => options.get key) = none := by
  obtain ⟨members', pairs, shape', reads, shallow, get⟩ := opened read request
  cases shape.symm.trans shape'
  have off : (parseRequestInfo serde text.bytes).includeUsage ≠ some true :=
    fun on => unset ((header_usage documented read request streams).mp on)
  have sent := ensure_missing serde shape streams off missing
  have limit := documented.limit
  have appended : (members.snoc (bare streamOptionsKey) newOptions).read serde.lexis = _ :=
    Members.read_snoc serde.lexis reads (plain_streamOptions documented)
      (newOptions_read documented)
  obtain ⟨after, received, gets⟩ := @value_edited serde text.before text.after
    (members.snoc (bare streamOptionsKey) newOptions) _ (by
      rw [Members.depth_snoc, show newOptions.depth = 1 from rfl]
      omega) appended
  rw [updates_iff sent received]
  constructor
  · rintro ⟨-, options, there, -, others⟩ key different
    rw [gets, lastOf_append] at there
    cases there
    rw [← others key different, newOptions_get different]
  · intro nothing
    refine ⟨?_, .object [("include_usage", .bool true)], ?_, rfl, ?_⟩
    · intro key different
      rw [gets, get, lastOf_append]
      simp [lastOf, Ne.symm different]
    · rw [gets, lastOf_append]
      rfl
    · intro key different
      rw [nothing key different, newOptions_get different]

structure SetRead (lexis : Lexis) (options : Doc) (was now : Json) : Prop where
  read : (setIncludeUsage options).read lexis = some now
  depth : (setIncludeUsage options).depth ≤ max options.depth 1
  spelled : memberOf includeUsageKey.bytes options ≠ none →
    now.get "include_usage" = some (.bool true)
  unspelled : memberOf includeUsageKey.bytes options = none →
    now.get "include_usage" = (was.get "include_usage").or (some (.bool true))
  others : ∀ key, key ≠ "include_usage" → now.get key = was.get key

theorem setIncludeUsage_emptyObject (documented : SerdeJson.Documented serde) (gap : Gap) :
    ∃ now, SetRead serde.lexis (.emptyObject gap) (.object []) now := by
  refine ⟨.object [("include_usage", .bool true)], newOptions_read documented, Nat.le_refl _, ?_,
    fun _ => rfl, ?_⟩
  · intro spelled
    exact absurd rfl spelled
  · intro key different
    exact newOptions_get different

theorem setIncludeUsage_object (documented : SerdeJson.Documented serde) {members : Members}
    {pairs : List (String × Json)} (reads : members.read serde.lexis = some pairs)
    (once : Once "include_usage" pairs) :
    ∃ now, SetRead serde.lexis (.object members) (.object (collect pairs)) now := by
  have get : ∀ key, (Json.object (collect pairs)).get key = lastOf key pairs :=
    fun key => lookup_collect key pairs
  have key := plain_includeUsage documented
  have flag : trueDoc.read serde.lexis = some (.bool true) := rfl
  cases there : members.spelled includeUsageKey.bytes with
  | some old =>
    have set : setIncludeUsage (.object members) =
        .object (members.replace includeUsageKey.bytes trueDoc) := by
      rw [setIncludeUsage, there, Option.isSome_some, if_pos rfl]
    obtain ⟨front, name, was, back, named, -, shape, replaced⟩ :=
      Members.read_replace serde.lexis there reads
    cases key.symm.trans named
    subst shape
    obtain ⟨now, read, gets⟩ := get_object (replaced trueDoc (.bool true) flag)
    refine ⟨now, by rw [set, read], ?_, ?_, ?_, ?_⟩
    · rw [set, Doc.depth, Doc.depth]
      have kept := @Members.depth_replace includeUsageKey.bytes trueDoc members.depth members
        (Nat.le_refl _) (Nat.zero_le _)
      omega
    · intro _
      rw [gets, once.lastOf]
    · intro unspelled
      rw [memberOf, there] at unspelled
      cases unspelled
    · intro key different
      rw [gets, get, lastOf_other different, lastOf_other different]
  | none =>
    have set : setIncludeUsage (.object members) =
        .object (.more (bare includeUsageKey) trueDoc Gap.none members) := by
      rw [setIncludeUsage, there, Option.isSome_none, if_neg (by decide)]
    have added : (Members.more (bare includeUsageKey) trueDoc Gap.none members).read serde.lexis =
        some (("include_usage", .bool true) :: pairs) := by
      rw [Members.read, show (bare includeUsageKey).key = includeUsageKey from rfl, key,
        Option.bind_some, flag, Option.bind_some, reads, Option.map_some]
    obtain ⟨now, read, gets⟩ := get_object added
    refine ⟨now, by rw [set, read], ?_, ?_, ?_, ?_⟩
    · rw [set, Doc.depth, Doc.depth, Members.depth, show trueDoc.depth = 0 from rfl]
      omega
    · intro spelled
      exact absurd there spelled
    · intro _
      rw [gets, get]
      rfl
    · intro key different
      rw [gets, get, lastOf, if_neg (Ne.symm different), Option.or_none]

theorem setIncludeUsage_read (documented : SerdeJson.Documented serde) {options : Doc}
    {derived : Option StreamOptions} {was : List (String × Json)}
    (header : StreamOptions.derive serde.lexis (some options) = some derived)
    (read : options.read serde.lexis = some (.object was)) :
    ∃ now, SetRead serde.lexis options (.object was) now := by
  rcases object_of_read read with ⟨gap, rfl⟩ | ⟨members, rfl⟩
  · cases read
    exact setIncludeUsage_emptyObject documented gap
  · rw [Doc.read] at read
    obtain ⟨pairs, reads, same⟩ := Option.map_eq_some_iff.mp read
    cases same
    exact setIncludeUsage_object documented reads (derive_once reads header)

include documented read in
theorem updates_found (request : StreamRequest value)
    (streams : (parseRequestInfo serde text.bytes).stream = true)
    (unset : usageOf value ≠ some (.bool true)) {members : Members}
    (shape : text.value = .object members) {options : Doc}
    (found : members.spelled streamOptionsKey.bytes = some options) :
    Updates serde text.bytes value ↔ value.get "stream_options" ≠ some .null ∧
      (memberOf includeUsageKey.bytes options = none → usageOf value = none) := by
  obtain ⟨members', pairs, shape', reads, shallow, get⟩ := opened read request
  cases shape.symm.trans shape'
  have off : (parseRequestInfo serde text.bytes).includeUsage ≠ some true :=
    fun on => unset ((header_usage documented read request streams).mp on)
  obtain ⟨field, derived, there, header, -⟩ := streams_header documented read shape streams
  obtain ⟨once, last, -⟩ := field_read reads there
  obtain ⟨front, name, was, back, named, old, whole, replaced⟩ :=
    Members.read_replace serde.lexis found reads
  cases (plain_streamOptions documented).symm.trans named
  subst whole
  have given : value.get "stream_options" = some was := by rw [get, once.lastOf]
  rcases request.options was given with rfl | ⟨inner, rfl⟩
  · obtain ⟨other, noObject⟩ := null_noObject old
    have refused : ¬Updates serde text.bytes value :=
      updates_refused (ensure_refused serde shape streams off found other noObject)
    constructor
    · exact fun updates => absurd updates refused
    · rintro ⟨notNull, -⟩
      exact absurd given notNull
  · have same := field_entry there found named
    subst same
    obtain ⟨now, set⟩ := setIncludeUsage_read documented header old
    have sent := ensure_found serde shape streams off found (object_of_read old)
    have limit := documented.limit
    have depth := Members.depth_spelled found
    have kept := @Members.depth_replace streamOptionsKey.bytes (setIncludeUsage options)
      (serde.recursionLimit - 2) members (by omega) (by
        have deep := set.depth
        omega)
    obtain ⟨after, received, gets⟩ := @value_edited serde text.before text.after
      (members.replace streamOptionsKey.bytes (setIncludeUsage options)) _ (by omega)
      (replaced _ now set.read)
    have usage : usageOf value = (Json.object inner).get "include_usage" := by
      rw [usageOf, given, Option.bind_some]
    have outcome : UsageSet value after ↔ now.get "include_usage" = some (.bool true) := by
      constructor
      · rintro ⟨-, set', there', usage', -⟩
        rw [gets, once.lastOf] at there'
        cases there'
        exact usage'
      · intro flag
        refine ⟨?_, now, ?_, flag, ?_⟩
        · intro key different
          rw [gets, get, lastOf_other different, lastOf_other different]
        · rw [gets, once.lastOf]
        · intro key different
          rw [given, Option.bind_some]
          exact set.others key different
    rw [updates_iff sent received, outcome]
    constructor
    · intro flag
      refine ⟨?_, ?_⟩
      · rw [given]
        intro same
        cases same
      · intro unspelled
        have left := set.unspelled unspelled
        rw [flag, ← usage] at left
        cases old' : usageOf value with
        | none => rfl
        | some flag =>
          rw [old'] at left unset
          exact absurd left.symm unset
    · rintro ⟨-, hidden⟩
      by_cases unspelled : memberOf includeUsageKey.bytes options = none
      · rw [set.unspelled unspelled, ← usage, hidden unspelled, Option.none_or]
      · exact set.spelled unspelled

theorem updates_unchanged {serde : SerdeJson} {body : Bytes} {value : Json}
    (reads : serde.fromSlice body = some value) (same : ensureIncludeUsage serde body = .ok body) :
    Updates serde body value ↔ usageOf value = some (.bool true) := by
  constructor
  · rintro ⟨out, after, sent, received, -, options, there, usage, -⟩
    rw [same] at sent
    cases sent
    rw [reads] at received
    cases received
    rw [usageOf, there, Option.bind_some, usage]
  · intro usage
    obtain ⟨options, there, flag⟩ := Option.bind_eq_some_iff.mp usage
    refine ⟨body, value, same, reads, fun _ _ => rfl, options, there, flag, ?_⟩
    intro key _
    rw [there, Option.bind_some]

/-- The edit is the update it should be for exactly the editable bodies. -/
theorem ensureIncludeUsage_updates_iff (documented : SerdeJson.Documented serde) {body : Bytes}
    {value : Json} (reads : serde.fromSlice body = some value) (request : StreamRequest value) :
    Updates serde body value ↔ Editable serde body value := by
  obtain ⟨text, parsed, read⟩ := Option.bind_eq_some_iff.mp reads
  have written := bytes_of_parse parsed
  subst written
  rw [Editable]
  by_cases usage : usageOf value = some (.bool true)
  · have unchanged : ensureIncludeUsage serde text.bytes = .ok text.bytes := by
      unfold ensureIncludeUsage
      by_cases streams : (parseRequestInfo serde text.bytes).stream = true
      · simp [streams, (header_usage documented read request streams).mpr usage]
      · simp [streams]
    rw [updates_unchanged reads unchanged]
    simp [usage]
  · by_cases streams : (parseRequestInfo serde text.bytes).stream = true
    · obtain ⟨members, pairs, shape, -⟩ := opened read request
      have member : rootMember text.bytes (utf8Bytes "stream_options") =
          members.spelled streamOptionsKey.bytes := by
        rw [rootMember, parsed, Option.bind_some, shape]
        rfl
      rw [member]
      cases spelled : members.spelled streamOptionsKey.bytes with
      | none =>
        rw [updates_missing documented read request streams usage shape spelled]
        simp [usage, streams]
      | some options =>
        rw [updates_found documented read request streams usage shape spelled]
        simp only [usage, streams, false_or, true_and]
        rfl
    · have unchanged : ensureIncludeUsage serde text.bytes = .ok text.bytes := by
        unfold ensureIncludeUsage
        simp [streams]
      rw [updates_unchanged reads unchanged]
      simp [usage, streams]

end Request

def plainLexis : Lexis where
  text raw := if raw.all SerdeJson.isPlain then
    some (String.ofList (raw.map fun byte => Char.ofNat byte.toNat)) else none
  number _ := none

def plainSerde : SerdeJson where
  lexis := plainLexis
  recursionLimit := 128
  header body := (parse body).bind fun text => OpenAiHeader.derive plainLexis text.value

theorem plainSerde_documented : SerdeJson.Documented plainSerde where
  limit := by decide
  plain _ plain := if_pos plain
  header text _ _ := by
    change (parse text.bytes).bind _ = _
    rw [parse_bytes, Option.bind_some]
    rfl

def streamBody : Bytes := utf8Bytes "\x7b\"model\":\"m\",\"stream\":true\x7d"

def streamValue : Json := .object [("model", .string "m"), ("stream", .bool true)]

theorem ensureIncludeUsage_updates_stream :
    Updates plainSerde streamBody streamValue ↔ Editable plainSerde streamBody streamValue := by
  apply ensureIncludeUsage_updates_iff plainSerde_documented
  · rfl
  · refine ⟨⟨"m", rfl⟩, rfl, ?_⟩
    intro options found
    cases found

def nullOptionsBody : Bytes :=
  utf8Bytes "\x7b\"model\":\"m\",\"stream\":true,\"stream_options\":null\x7d"

def nullOptionsValue : Json :=
  .object [("model", .string "m"), ("stream", .bool true), ("stream_options", .null)]

/-- Stream options that are null make the edit fail. -/
theorem ensureIncludeUsage_null :
    SerdeJson.Documented plainSerde ∧ StreamRequest nullOptionsValue ∧
      plainSerde.fromSlice nullOptionsBody = some nullOptionsValue ∧
      ensureIncludeUsage plainSerde nullOptionsBody =
        .error "stream_options is not an object" ∧
      ¬Updates plainSerde nullOptionsBody nullOptionsValue := by
  have refused : ensureIncludeUsage plainSerde nullOptionsBody =
      .error "stream_options is not an object" := by
    rfl
  refine ⟨plainSerde_documented, ⟨⟨"m", rfl⟩, rfl, ?_⟩, rfl, refused, updates_refused refused⟩
  intro options found
  cases found
  exact .inl rfl

end CodexGate.Dispatch.Openai
