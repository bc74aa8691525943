import CodexGate.Foundation.JsonText

namespace CodexGate.Foundation.JsonText

structure Lexis where
  text : Bytes → Option String
  number : Bytes → Option String

def nullBytes : Bytes := [110, 117, 108, 108]
def trueBytes : Bytes := [116, 114, 117, 101]
def falseBytes : Bytes := [102, 97, 108, 115, 101]

def collect (pairs : List (String × Json)) : List (String × Json) :=
  pairs.foldl (fun members pair => Json.insertMember pair.1 pair.2 members) []

section Reading

variable (lexis : Lexis)

def Word.read (word : Word) : Option Json :=
  if word.bytes = nullBytes then some .null
  else if word.bytes = trueBytes then some (.bool true)
  else if word.bytes = falseBytes then some (.bool false)
  else (lexis.number word.bytes).map .number

def Spelling.read (spelling : Spelling) : Option String := lexis.text spelling.bytes

mutual

def Doc.read : Doc → Option Json
  | .word word => word.read lexis
  | .text spelling => (spelling.read lexis).map .string
  | .emptyArray _ => some (.array [])
  | .array elements => elements.read.map .array
  | .emptyObject _ => some (.object [])
  | .object members => members.read.map fun pairs => .object (collect pairs)

def Elements.read : Elements → Option (List Json)
  | .last _ value _ => value.read.map fun value => [value]
  | .more _ value _ rest => value.read.bind fun value => rest.read.map (value :: ·)

def Members.read : Members → Option (List (String × Json))
  | .last label value _ => (label.key.read lexis).bind fun key =>
    value.read.map fun value => [(key, value)]
  | .more label value _ rest => (label.key.read lexis).bind fun key =>
    value.read.bind fun value => rest.read.map ((key, value) :: ·)

end

end Reading

mutual

def Doc.depth : Doc → Nat
  | .word _ | .text _ => 0
  | .emptyArray _ | .emptyObject _ => 1
  | .array elements => elements.depth + 1
  | .object members => members.depth + 1

def Elements.depth : Elements → Nat
  | .last _ value _ => value.depth
  | .more _ value _ rest => max value.depth rest.depth

def Members.depth : Members → Nat
  | .last _ value _ => value.depth
  | .more _ value _ rest => max value.depth rest.depth

end

def Gap.none : Gap := ⟨[], by simp⟩

namespace Members

def spelled (key : Bytes) : Members → Option Doc
  | .last label value _ => if label.key.bytes = key then some value else none
  | .more label value _ rest => if label.key.bytes = key then some value else rest.spelled key

def replace (key : Bytes) (value : Doc) : Members → Members
  | .last label old after =>
    if label.key.bytes = key then .last label value after else .last label old after
  | .more label old after rest =>
    if label.key.bytes = key then .more label value after rest
    else .more label old after (rest.replace key value)

def snoc (label : Label) (value : Doc) : Members → Members
  | .last first old after => .more first old after (.last label value Gap.none)
  | .more first old after rest => .more first old after (rest.snoc label value)

def entries : Members → List (Spelling × Doc)
  | .last label value _ => [(label.key, value)]
  | .more label value _ rest => (label.key, value) :: rest.entries

def ahead (key : Bytes) : Members → Bytes
  | .last label _ _ => label.onto []
  | .more label value after rest =>
    if label.key.bytes = key then label.onto []
    else label.onto (value.onto (after.bytes ++ comma :: rest.ahead key))

def behind (key : Bytes) : Members → Bytes → Bytes
  | .last _ _ after, rest => after.bytes ++ rest
  | .more label _ after others, rest =>
    if label.key.bytes = key then after.bytes ++ comma :: others.onto rest
    else others.behind key rest

theorem onto_replace {key : Bytes} {members : Members} {old : Doc}
    (found : members.spelled key = some old) (value : Doc) (rest : Bytes) :
    (members.replace key value).onto rest =
      members.ahead key ++ value.onto (members.behind key rest) := by
  fun_induction spelled key members with
  | case1 label value' after same =>
    rw [replace, if_pos same, ahead, behind, Members.onto, ← Label.onto_append, List.nil_append]
  | case2 label value' after different => cases found
  | case3 label value' after others same =>
    rw [replace, if_pos same, ahead, if_pos same, behind, if_pos same, Members.onto,
      ← Label.onto_append, List.nil_append]
  | case4 label value' after others different ih =>
    rw [replace, if_neg different, ahead, if_neg different, behind, if_neg different, Members.onto,
      ih found, ← Label.onto_append, ← Doc.onto_append, List.append_assoc, List.cons_append]

theorem replace_spelled {key : Bytes} {members : Members} {old : Doc}
    (found : members.spelled key = some old) : members.replace key old = members := by
  fun_induction spelled key members with
  | case1 label value after same =>
    cases found
    rw [replace, if_pos same]
  | case2 label value after different => cases found
  | case3 label value after others same =>
    cases found
    rw [replace, if_pos same]
  | case4 label value after others different ih => rw [replace, if_neg different, ih found]

theorem onto_spelled {key : Bytes} {members : Members} {old : Doc}
    (found : members.spelled key = some old) (rest : Bytes) :
    members.onto rest = members.ahead key ++ old.onto (members.behind key rest) := by
  rw [← onto_replace found old rest, replace_spelled found]

theorem spelled_mem {key : Bytes} {members : Members} {value : Doc}
    (found : members.spelled key = some value) :
    ∃ spelling, spelling.bytes = key ∧ (spelling, value) ∈ members.entries := by
  fun_induction spelled key members with
  | case1 label value' after same =>
    cases found
    exact ⟨label.key, same, List.mem_cons_self⟩
  | case2 label value' after different => cases found
  | case3 label value' after others same =>
    cases found
    exact ⟨label.key, same, List.mem_cons_self⟩
  | case4 label value' after others different ih =>
    obtain ⟨spelling, same, member⟩ := ih found
    exact ⟨spelling, same, List.mem_cons_of_mem _ member⟩

theorem onto_snoc (members : Members) (label : Label) (value : Doc) (rest : Bytes) :
    (members.snoc label value).onto rest = members.onto (comma :: label.onto (value.onto rest)) := by
  fun_induction snoc label value members with
  | case1 first old after => rfl
  | case2 first old after others ih => rw [Members.onto, Members.onto, ih]

theorem depth_spelled {key : Bytes} {members : Members} {value : Doc}
    (found : members.spelled key = some value) : value.depth ≤ members.depth := by
  fun_induction spelled key members with
  | case1 label value' after same =>
    cases found
    exact Nat.le_refl _
  | case2 label value' after different => cases found
  | case3 label value' after others same =>
    cases found
    exact Nat.le_max_left _ _
  | case4 label value' after others different ih => exact (ih found).trans (Nat.le_max_right _ _)

theorem depth_replace {key : Bytes} {value : Doc} {bound : Nat} (members : Members)
    (old : members.depth ≤ bound) (new : value.depth ≤ bound) :
    (members.replace key value).depth ≤ bound := by
  fun_induction replace key value members with
  | case1 label old' after same => exact new
  | case2 label old' after different => exact old
  | case3 label old' after others same =>
    rw [Members.depth] at old ⊢
    exact max_le new ((Nat.le_max_right _ _).trans old)
  | case4 label old' after others different ih =>
    rw [Members.depth] at old ⊢
    exact max_le ((Nat.le_max_left _ _).trans old) (ih ((Nat.le_max_right _ _).trans old))

theorem depth_snoc (members : Members) (label : Label) (value : Doc) :
    (members.snoc label value).depth = max members.depth value.depth := by
  fun_induction snoc label value members with
  | case1 first old after => rfl
  | case2 first old after others ih => rw [Members.depth, Members.depth, ih, Nat.max_assoc]

section

variable (lexis : Lexis)

theorem read_replace {key : Bytes} {members : Members} {old : Doc} {pairs : List (String × Json)}
    (found : members.spelled key = some old) (read : members.read lexis = some pairs) :
    ∃ front name was back, lexis.text key = some name ∧ old.read lexis = some was ∧
      pairs = front ++ (name, was) :: back ∧ ∀ value now, value.read lexis = some now →
        (members.replace key value).read lexis = some (front ++ (name, now) :: back) := by
  fun_induction spelled key members generalizing pairs with
  | case1 label value after same =>
    cases found
    rw [Members.read] at read
    obtain ⟨name, named, read⟩ := Option.bind_eq_some_iff.mp read
    obtain ⟨was, value, rfl⟩ := Option.map_eq_some_iff.mp read
    refine ⟨[], name, was, [], same ▸ named, value, rfl, ?_⟩
    intro new now reads
    rw [replace, if_pos same, Members.read, named, Option.bind_some, reads]
    rfl
  | case2 label value after different => cases found
  | case3 label value after others same =>
    cases found
    rw [Members.read] at read
    obtain ⟨name, named, read⟩ := Option.bind_eq_some_iff.mp read
    obtain ⟨was, value, read⟩ := Option.bind_eq_some_iff.mp read
    obtain ⟨back, later, rfl⟩ := Option.map_eq_some_iff.mp read
    refine ⟨[], name, was, back, same ▸ named, value, rfl, ?_⟩
    intro new now reads
    rw [replace, if_pos same, Members.read, named, Option.bind_some, reads, Option.bind_some, later]
    rfl
  | case4 label value after others different ih =>
    rw [Members.read] at read
    obtain ⟨first, named, read⟩ := Option.bind_eq_some_iff.mp read
    obtain ⟨head, value, read⟩ := Option.bind_eq_some_iff.mp read
    obtain ⟨pairs, later, rfl⟩ := Option.map_eq_some_iff.mp read
    obtain ⟨front, name, was, back, spelled, old, rfl, replaced⟩ := ih found later
    refine ⟨(first, head) :: front, name, was, back, spelled, old, rfl, ?_⟩
    intro new now reads
    rw [replace, if_neg different, Members.read, named, Option.bind_some, value, Option.bind_some,
      replaced new now reads]
    rfl

theorem read_snoc {members : Members} {label : Label} {value : Doc} {pairs : List (String × Json)}
    {name : String} {now : Json} (read : members.read lexis = some pairs)
    (named : label.key.read lexis = some name) (reads : value.read lexis = some now) :
    (members.snoc label value).read lexis = some (pairs ++ [(name, now)]) := by
  fun_induction snoc label value members generalizing pairs with
  | case1 first old after =>
    rw [Members.read] at read
    obtain ⟨key, found, read⟩ := Option.bind_eq_some_iff.mp read
    obtain ⟨was, value, rfl⟩ := Option.map_eq_some_iff.mp read
    simp only [Members.read, found, value, named, reads, Option.bind_some, Option.map_some,
      List.cons_append, List.nil_append]
  | case2 first old after others ih =>
    rw [Members.read] at read
    obtain ⟨key, found, read⟩ := Option.bind_eq_some_iff.mp read
    obtain ⟨was, value, read⟩ := Option.bind_eq_some_iff.mp read
    obtain ⟨back, later, rfl⟩ := Option.map_eq_some_iff.mp read
    simp only [Members.read, found, value, ih later, Option.bind_some, Option.map_some,
      List.cons_append]

theorem read_entries {members : Members} {pairs : List (String × Json)}
    (read : members.read lexis = some pairs) :
    List.Forall₂ (fun entry pair => entry.1.read lexis = some pair.1 ∧
      entry.2.read lexis = some pair.2) members.entries pairs := by
  fun_induction entries members generalizing pairs with
  | case1 label value after =>
    rw [Members.read] at read
    obtain ⟨key, found, read⟩ := Option.bind_eq_some_iff.mp read
    obtain ⟨was, value, rfl⟩ := Option.map_eq_some_iff.mp read
    exact .cons ⟨found, value⟩ .nil
  | case2 label value after others ih =>
    rw [Members.read] at read
    obtain ⟨key, found, read⟩ := Option.bind_eq_some_iff.mp read
    obtain ⟨was, value, read⟩ := Option.bind_eq_some_iff.mp read
    obtain ⟨back, later, rfl⟩ := Option.map_eq_some_iff.mp read
    exact .cons ⟨found, value⟩ (ih later)

end

end Members

def lastOf (key : String) : List (String × Json) → Option Json
  | [] => none
  | (name, value) :: rest => (lastOf key rest).or (if name = key then some value else none)

theorem lastOf_append (key : String) (pairs more : List (String × Json)) :
    lastOf key (pairs ++ more) = (lastOf key more).or (lastOf key pairs) := by
  induction pairs with
  | nil => rw [List.nil_append, lastOf, Option.or_none]
  | cons pair rest ih =>
    obtain ⟨name, value⟩ := pair
    rw [List.cons_append, lastOf, lastOf, ih, Option.or_assoc]

def Once (key : String) (pairs : List (String × Json)) : Prop :=
  (pairs.filter fun pair => pair.1 = key).length ≤ 1

theorem lastOf_filter (key : String) (pairs : List (String × Json)) :
    lastOf key (pairs.filter fun pair => pair.1 = key) = lastOf key pairs := by
  induction pairs with
  | nil => rfl
  | cons pair rest ih =>
    obtain ⟨name, value⟩ := pair
    by_cases same : name = key
    · rw [List.filter_cons_of_pos (by simp [same]), lastOf, lastOf, ih]
    · rw [List.filter_cons_of_neg (by simp [same]), lastOf, if_neg same, Option.or_none, ih]

theorem Once.lastOf {key : String} {front back : List (String × Json)} {was : Json}
    (once : Once key (front ++ (key, was) :: back)) (now : Json) :
    lastOf key (front ++ (key, now) :: back) = some now := by
  have nothing : (back.filter fun pair => pair.1 = key) = [] := by
    rw [Once, List.filter_append, List.filter_cons_of_pos (by simp), List.length_append,
      List.length_cons] at once
    exact List.eq_nil_of_length_eq_zero (by omega)
  have none : JsonText.lastOf key back = none := by
    rw [← lastOf_filter, nothing]
    rfl
  rw [lastOf_append, JsonText.lastOf, none, if_pos rfl]
  rfl

theorem lastOf_other {key name : String} (different : key ≠ name) (value : Json)
    (front back : List (String × Json)) :
    lastOf key (front ++ (name, value) :: back) = lastOf key (front ++ back) := by
  rw [lastOf_append, lastOf_append, lastOf, if_neg (Ne.symm different), Option.or_none]

theorem lookup_collect (key : String) (pairs : List (String × Json)) :
    (collect pairs).lookup key = lastOf key pairs := by
  have extended : ∀ members : List (String × Json),
      (pairs.foldl (fun members pair => Json.insertMember pair.1 pair.2 members) members).lookup
        key = (lastOf key pairs).or (members.lookup key) := by
    induction pairs with
    | nil => exact fun members => rfl
    | cons pair rest ih =>
      obtain ⟨name, value⟩ := pair
      intro members
      rw [List.foldl_cons, ih, lastOf, Option.or_assoc]
      congr 1
      by_cases same : name = key
      · rw [if_pos same, same, Json.lookup_insertMember_self, Option.some_or]
      · rw [if_neg same, Json.lookup_insertMember_of_ne _ _ (Ne.symm same), Option.none_or]
  have whole := extended []
  rwa [List.lookup_nil, Option.or_none] at whole

end CodexGate.Foundation.JsonText
