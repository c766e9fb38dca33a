import StackBroker.Proofs.CallerParameters
import StackBroker.Proofs.Decisions
import StackBroker.StringMap.Keys

/-!
What parameters decode to. An object holds one value under each of its names, the last one
that was written (`Json.Holds`). If all of them are strings, these are the parameters
(`Parameters.decode_eq_ok_iff_strings`). Else the least name whose value is no string is told:
the entries are looked at in the order of their keys, so the first condition that is not met
is that of the least name (`Parameters.firstUnmet_entries`). With the name, or alone where there
is no object, it is told what the value is, a kind and words for each form of values
(`Json.Called`), in the message of the refusal (`Parameters.decode_eq_error_iff`). All of this
depends on what the object holds alone, and so the order in which it was written does not
matter (`decoding_exact`).
-/
namespace StackBroker

/-! ### Values and what they are called -/

/-- An object holds a value under a name: of the members with that name the last counts. -/
def Json.Holds (members : List (String × Json)) (name : String) (value : Json) : Prop :=
  ∃ before after, members = before ++ (name,value) :: after ∧ ∀ later ∈ after, later.1 ≠ name

theorem Json.holds_iff {members : List (String × Json)} {name : String} {value : Json} :
    Holds members name value ↔ (StringMap.ofList members).get? name = some value :=
  StringMap.get?_ofList_eq_some_iff.symm

/-- What a value is called where it is refused: its kind, and the words for it. -/
inductive Json.Called : Json → Json.Kind → String → Prop where
  | null : Called .null .null "null"
  | bool (value : Bool) : Called (.bool value) .boolean "a boolean"
  | number (value : Number) : Called (.number value) .number "a number"
  | string (text : String) : Called (.string text) .string "a string"
  | array (items : List Json) : Called (.array items) .array "an array"
  | object (members : List (String × Json)) : Called (.object members) .object "an object"

theorem Json.called_kind (value : Json) : value.Called value.kind value.kind.text := by
  cases value with
  | null => exact .null
  | bool value => exact .bool value
  | number value => exact .number value
  | string text => exact .string text
  | array items => exact .array items
  | object members => exact .object members

theorem Json.called_iff {value : Json} {kind : Json.Kind} {words : String} :
    value.Called kind words ↔ value.kind = kind ∧ kind.text = words := by
  constructor
  · intro called
    cases called <;> exact ⟨rfl,rfl⟩
  · rintro ⟨rfl,rfl⟩
    exact value.called_kind

namespace Parameters
variable {members others : List (String × Json)} {raw : Option Json} {reason : BadParameters} {words : String}

/-! ### Objects of strings -/

/-- An object holds the strings of a map under their names, and nothing else. -/
def HoldsStrings (members : List (String × Json)) (given : StringMap String) : Prop :=
  ∀ name value, Json.Holds members name value ↔ ∃ text, given.get? name = some text ∧ .string text = value

theorem holdsStrings_iff {given : StringMap String} :
    HoldsStrings members given ↔ StringMap.ofList members = given.mapValues .string := by
  simp only [HoldsStrings,Json.holds_iff,← Option.map_eq_some_iff,← StringMap.get?_mapValues]
  constructor
  · exact fun same => StringMap.ext_get? fun name => Option.ext fun value => same name value
  · rintro same name value
    rw [same]

/-- Parameters are decoded from nothing, from null and from objects of strings. -/
theorem decode_eq_ok_iff_strings {given : StringMap String} : decode raw = .ok given ↔
    (raw = none ∨ raw = some .null) ∧ given = .empty ∨
      ∃ members, raw = some (.object members) ∧ HoldsStrings members given := by
  rw [decode_eq_ok_iff]
  constructor
  · intro gives
    cases gives with
    | absent => exact .inl ⟨.inl rfl,rfl⟩
    | null => exact .inl ⟨.inr rfl,rfl⟩
    | @object members _ strings => exact .inr ⟨members,rfl,holdsStrings_iff.mpr strings⟩
  · rintro (⟨rfl | rfl,rfl⟩ | ⟨members,rfl,strings⟩)
    · exact .absent
    · exact .null
    · exact .object (holdsStrings_iff.mp strings)

/-- The object of a map of strings gives the map back. -/
theorem decode_ofStrings (map : StringMap String) : decode (some (.ofStrings map)) = .ok map := by
  rw [Json.ofStrings,Json.ofMap,decode_object,StringMap.ofList_entries]

/-! ### The least name whose value is no string -/

/-- Under a name an object holds a value that is no string, and under every lesser name a
    string. -/
structure LeastUnfit (members : List (String × Json)) (name : String) (value : Json) : Prop where
  held : Json.Holds members name value
  unfit : ∀ text, value ≠ .string text
  below : ∀ lesser other, Json.Holds members lesser other → lesser < name → ∃ text, other = .string text

theorem firstUnmet_entries : FirstUnmet ((StringMap.ofList members).entries.map entryCondition) reason ↔
    ∃ name value, LeastUnfit members name value ∧ reason = .notString name value.kind := by
  have sorted := (StringMap.ofList members).ascending
  constructor
  · rintro ⟨before,condition,after,split,passed,unmet,rfl⟩
    obtain ⟨lesser,rest,entries,rfl,rest'⟩ := List.map_eq_append_iff.mp split
    obtain ⟨⟨name,value⟩,greater,rfl,rfl,rfl⟩ := List.map_eq_cons_iff.mp rest'
    refine ⟨name,value,⟨?_,fun text string => unmet ⟨text,string⟩,?_⟩,rfl⟩
    · rw [Json.holds_iff,← StringMap.mem_entries_iff,entries]
      exact List.mem_append_right lesser List.mem_cons_self
    · intro other found held smaller
      rw [Json.holds_iff,← StringMap.mem_entries_iff,entries] at held
      rw [entries] at sorted
      obtain ⟨-,upper,-⟩ := List.pairwise_append.mp sorted
      -- what comes after the name in the order of the keys is greater than it
      rcases List.mem_append.mp held with early | late
      · exact passed _ (List.mem_map_of_mem early)
      · rcases List.mem_cons.mp late with same | later
        · cases same
          exact absurd smaller (String.lt_irrefl name)
        · exact absurd smaller (String.lt_asymm ((List.pairwise_cons.mp upper).1 _ later))
  · rintro ⟨name,value,⟨held,unfit,below⟩,rfl⟩
    rw [Json.holds_iff,← StringMap.mem_entries_iff] at held
    obtain ⟨lesser,greater,entries⟩ := List.append_of_mem held
    rw [entries] at sorted
    obtain ⟨-,-,apart⟩ := List.pairwise_append.mp sorted
    refine ⟨lesser.map entryCondition,entryCondition (name,value),greater.map entryCondition,?_,?_,?_,rfl⟩
    · rw [entries,List.map_append,List.map_cons]
    · intro condition early
      obtain ⟨⟨other,found⟩,among,rfl⟩ := List.mem_map.mp early
      have smaller : other < name := apart _ among _ List.mem_cons_self
      have holds : (other,found) ∈ (StringMap.ofList members).entries := by
        rw [entries]
        exact List.mem_append_left _ among
      exact below other found (Json.holds_iff.mpr (StringMap.mem_entries_iff.mp holds)) smaller
    · rintro ⟨text,string⟩
      exact unfit text string

/-- Why parameters are refused, and in which words: they are no object, or in their object a
    value is no string, of which the one with the least name is told. -/
inductive Refused : Option Json → BadParameters → String → Prop where
  | notObject {value : Json} {kind : Json.Kind} {words : String} (called : value.Called kind words)
    (given : value ≠ .null) (other : ∀ members, value ≠ .object members) :
    Refused (some value) (.notObject kind) ("expected an object, got " ++ words)
  | notString {members : List (String × Json)} {name : String} {value : Json} {kind : Json.Kind} {words : String}
    (least : LeastUnfit members name value) (called : value.Called kind words) :
    Refused (some (.object members)) (.notString name kind) ("'" ++ name ++ "' must be a string, got " ++ words)

theorem decode_eq_error_iff : decode raw = .error reason ∧ reason.message = words ↔ Refused raw reason words := by
  rw [(tells raw).eq_error_iff]
  constructor
  · rintro ⟨first,rfl⟩
    cases raw with
    | none => exact absurd first (not_firstUnmet_nil reason)
    | some value =>
      cases value with
      | null => exact absurd first (not_firstUnmet_nil reason)
      | object members =>
        obtain ⟨name,value,least,rfl⟩ := firstUnmet_entries.mp first
        exact .notString least value.called_kind
      | bool | number | string | array =>
        rcases firstUnmet_cons.mp first with ⟨-,rfl⟩ | ⟨met,-⟩
        · exact .notObject (Json.called_kind _) (by simp) (by simp)
        · exact met.elim
  · intro refused
    cases refused with
    | notString least called =>
      obtain ⟨rfl,rfl⟩ := Json.called_iff.mp called
      exact ⟨firstUnmet_entries.mpr ⟨_,_,least,rfl⟩,rfl⟩
    | notObject called given other =>
      cases called with
      | null => exact absurd rfl given
      | object members => exact absurd rfl (other members)
      | bool | number | string | array => exact ⟨firstUnmet_cons.mpr (.inl ⟨False.elim,rfl⟩),rfl⟩

open Broker (Refusal callerParameters)

/-- Where callers may set parameters, they are told why theirs are refused. -/
theorem callerParameters_eq_error_iff {refusal : Refusal} {text : String} :
    callerParameters true raw = .error refusal ∧ refusal.message = text ↔
      ∃ reason words, Refused raw reason words ∧ refusal = .invalidParameters reason ∧
        text = "Invalid parameters: " ++ words := by
  simp only [callerParameters,if_pos,← decode_eq_error_iff]
  cases decode raw with
  | ok given =>
    constructor
    · rintro ⟨refused,-⟩
      cases refused
    · rintro ⟨reason,words,⟨failed,-⟩,-⟩
      cases failed
  | error reason =>
    constructor
    · rintro ⟨refused,rfl⟩
      obtain rfl := Except.error.inj refused
      exact ⟨reason,reason.message,⟨rfl,rfl⟩,rfl,rfl⟩
    · rintro ⟨_,_,⟨failed,rfl⟩,rfl,rfl⟩
      cases failed
      exact ⟨rfl,rfl⟩

/-! ### Exactness -/

/-- Exactly nothing, null and objects of strings can be decoded. -/
theorem exists_decode_iff : (∃ given, decode raw = .ok given) ↔ raw = none ∨ raw = some .null ∨ ∃ members,
    raw = some (.object members) ∧ ∀ name value, Json.Holds members name value → ∃ text, value = .string text := by
  rw [(tells raw).exists_eq_ok_iff]
  cases raw with
  | none => exact ⟨fun _ => .inl rfl,fun _ => allMet_nil⟩
  | some value =>
    cases value with
    | null => exact ⟨fun _ => .inr (.inl rfl),fun _ => allMet_nil⟩
    | object members =>
      have each : AllMet ((StringMap.ofList members).entries.map entryCondition) ↔
          ∀ name value, Json.Holds members name value → ∃ text, value = .string text := by
        rw [AllMet,List.forall_mem_map,Prod.forall]
        simp only [Json.holds_iff,StringMap.mem_entries_iff,entryCondition]
      simp [conditions,each]
    | bool | number | string | array => simp [conditions,AllMet]

/-- What is decoded has the names that the object has. -/
theorem mem_keys_of_decode {given : StringMap String} (decoded : decode (some (.object members)) = .ok given)
    (name : String) : name ∈ given.keys ↔ name ∈ members.map Prod.fst := by
  rw [← StringMap.mem_keys_ofList,decode_object.mp decoded]
  simp [StringMap.mem_keys_iff]

/-- Objects that make the same map are decoded in the same way. -/
theorem decode_congr (same : StringMap.ofList members = StringMap.ofList others) :
    decode (some (.object members)) = decode (some (.object others)) := by
  rw [decode,decode,same]

/-- What parameters are decoded to, why they are refused and in which words, and that the order in
    which they are written does not matter. -/
structure DecodingExact : Prop where
  accepted : ∀ raw, (∃ given, decode raw = .ok given) ↔ raw = none ∨ raw = some .null ∨ ∃ members,
    raw = some (.object members) ∧ ∀ name value, Json.Holds members name value → ∃ text, value = .string text
  decoded : ∀ raw given, decode raw = .ok given ↔ (raw = none ∨ raw = some .null) ∧ given = .empty ∨
    ∃ members, raw = some (.object members) ∧ HoldsStrings members given
  keys : ∀ members given, decode (some (.object members)) = .ok given →
    ∀ name, name ∈ given.keys ↔ name ∈ members.map Prod.fst
  refused : ∀ raw reason words, decode raw = .error reason ∧ reason.message = words ↔ Refused raw reason words
  told : ∀ raw refusal text, callerParameters true raw = .error refusal ∧ refusal.message = text ↔
    ∃ reason words, Refused raw reason words ∧ refusal = .invalidParameters reason ∧
      text = "Invalid parameters: " ++ words
  back : ∀ map, decode (some (.ofStrings map)) = .ok map
  order : ∀ members others, (members.map Prod.fst).Nodup → members.Perm others →
    decode (some (.object members)) = decode (some (.object others))
  /-- Of members with one name the order counts, but not where they stand among the others. -/
  repeated : ∀ members others : List (String × Json),
    (∀ name, members.filter (·.1 == name) = others.filter (·.1 == name)) →
      decode (some (.object members)) = decode (some (.object others))

theorem decoding_exact : DecodingExact where
  accepted _ := exists_decode_iff
  decoded _ _ := decode_eq_ok_iff_strings
  keys _ _ := mem_keys_of_decode
  refused _ _ _ := decode_eq_error_iff
  told _ _ _ := callerParameters_eq_error_iff
  back := decode_ofStrings
  order _ _ distinct reordered := decode_congr (StringMap.ofList_perm distinct reordered)
  repeated _ _ same := decode_congr (StringMap.ofList_congr same)

/-- Of two values that are no strings the one with the lesser name is told, wherever it stands
    and whatever was written under that name before; and a number is told to be one. -/
theorem decoding_exact_scrambled :
    let members : List (String × Json) := [("c",.null),("b",.array []),("a",.string "x"),("b",.bool true)]
    let others : List (String × Json) := [("b",.array []),("b",.bool true),("a",.string "x"),("c",.null)]
    (∀ name, members.filter (·.1 == name) = others.filter (·.1 == name)) ∧
      decode (some (.object members)) = .error (.notString "b" .boolean) ∧
      decode (some (.object others)) = .error (.notString "b" .boolean) ∧
      (BadParameters.notString "b" .boolean).message = "'b' must be a string, got a boolean" ∧
      decode (some (.ofInt 5)) = .error (.notObject .number) ∧
      (BadParameters.notObject .number).message = "expected an object, got a number" := by
  intro members others
  have same (name : String) : members.filter (·.1 == name) = others.filter (·.1 == name) := by
    by_cases b : "b" = name
    · subst b
      rfl
    · by_cases c : "c" = name
      · subst c
        rfl
      · simp [members,others,List.filter_cons,b,c]
  have least : LeastUnfit members "b" (.bool true) := by
    refine ⟨⟨[("c",.null),("b",.array []),("a",.string "x")],[],rfl,by simp⟩,by simp,?_⟩
    intro lesser other held smaller
    have member := StringMap.mem_of_mem_ofList (StringMap.mem_of_lookup (Json.holds_iff.mp held))
    simp only [members,List.mem_cons,List.not_mem_nil,or_false,Prod.mk.injEq] at member
    rcases member with ⟨rfl,rfl⟩ | ⟨rfl,rfl⟩ | ⟨rfl,rfl⟩ | ⟨rfl,rfl⟩
    · exact absurd smaller (by decide)
    · exact absurd smaller (by decide)
    · exact ⟨"x",rfl⟩
    · exact absurd smaller (by decide)
  obtain ⟨told,worded⟩ := (decoding_exact.refused _ _ _).mpr (.notString least (.bool true))
  obtain ⟨number,wordedNumber⟩ := (decoding_exact.refused _ _ _).mpr
    (.notObject (.number (.integer 5)) (by simp) (by simp))
  exact ⟨same,told,(decoding_exact.repeated members others same).symm.trans told,worded,number,wordedNumber⟩

end Parameters
end StackBroker
