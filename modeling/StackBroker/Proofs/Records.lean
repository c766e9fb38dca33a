import StackBroker.Json.Record
import StackBroker.StringMap.Lookup

/-!
Reading what was written. A reader conveys what a writer writes if it takes exactly the
values that fit and finds in each what is to be seen of it (`Codec.Conveys`). The two
may be of different types: a record is conveyed field by field, a field that the reader
does not know is skipped, and one that is left out stays as it was in the blank record
(`Record.Carries`, `conveys_record`). What holds of everything that is read, wherever it
comes from, goes through records in the same way (`Codec.Ensures`, `ensures_record`).
-/
namespace StackBroker.Json
variable {α β γ δ : Type}

/-! ### Nodes of values -/

namespace Node

mutual
/-- A value has no defects. -/
theorem intact_ofJson : ∀ value : Json, (ofJson value).intact = true
  | .null | .bool _ | .number _ | .string _ => rfl
  | .array items => by rw [ofJson,intact,allIntact_ofItems items,Bool.and_self]
  | .object members => by rw [ofJson,intact,membersIntact_ofMembers members,Bool.and_self]

theorem allIntact_ofItems : ∀ items : List Json, allIntact (ofItems items) = true
  | [] => rfl
  | item :: rest => by rw [ofItems,allIntact,intact_ofJson item,allIntact_ofItems rest,Bool.and_self]

theorem membersIntact_ofMembers : ∀ members : List (String × Json), membersIntact (ofMembers members) = true
  | [] => rfl
  | (_,value) :: rest => by
    rw [ofMembers,membersIntact,intact_ofJson value,membersIntact_ofMembers rest,Bool.and_self]
end

theorem ofJson_eq_null {value : Json} : ofJson value = .null ↔ value = .null := by
  cases value <;> simp [ofJson]

end Node

/-! ### Reading one after the other -/

namespace Codec

theorem readItems_cons_eq_ok {read : Node → Except Fault α} {node : Node} {rest : List Node} {found : List α} :
    readItems read (node :: rest) = .ok found ↔
      ∃ first others, read node = .ok first ∧ readItems read rest = .ok others ∧ found = first :: others := by
  rw [readItems]
  cases read node with
  | error fault => simp [Bind.bind,Except.bind]
  | ok first =>
    cases readItems read rest with
    | error fault => simp [Bind.bind,Except.bind]
    | ok others => simp [Bind.bind,Except.bind,eq_comm]

/-- Items are read as values if each is read as the value in its place. -/
theorem readItems_eq_ok_iff {read : Node → Except Fault α} {nodes : List Node} {found : List α} :
    readItems read nodes = .ok found ↔ nodes.map read = found.map .ok := by
  induction nodes generalizing found with
  | nil => cases found <;> simp [readItems]
  | cons node rest ih =>
    rw [readItems_cons_eq_ok]
    constructor
    · rintro ⟨first,others,here,there,rfl⟩
      rw [List.map_cons,List.map_cons,here,ih.mp there]
    · intro same
      cases found with
      | nil => cases same
      | cons first others =>
        obtain ⟨here,there⟩ := List.cons.inj same
        exact ⟨first,others,here,ih.mpr there,rfl⟩

/-- Items can be read if each of them can. -/
theorem exists_readItems_iff {read : Node → Except Fault α} {nodes : List Node} :
    (∃ found, readItems read nodes = .ok found) ↔ ∀ node ∈ nodes, ∃ value, read node = .ok value := by
  induction nodes with
  | nil => simp [readItems]
  | cons node rest ih =>
    simp only [readItems_cons_eq_ok,List.forall_mem_cons,← ih]
    constructor
    · rintro ⟨_,first,others,here,there,rfl⟩
      exact ⟨⟨first,here⟩,others,there⟩
    · rintro ⟨⟨first,here⟩,others,there⟩
      exact ⟨first :: others,first,others,here,there,rfl⟩

theorem readItems_append_eq_ok {read : Node → Except Fault α} {first second : List Node} {found : List α} :
    readItems read (first ++ second) = .ok found ↔
      ∃ before after, readItems read first = .ok before ∧ readItems read second = .ok after ∧ found = before ++ after := by
  induction first generalizing found with
  | nil => simp [readItems]
  | cons node rest ih =>
    rw [List.cons_append,readItems_cons_eq_ok]
    constructor
    · rintro ⟨value,others,here,there,rfl⟩
      obtain ⟨before,after,left,right,rfl⟩ := ih.mp there
      exact ⟨value :: before,after,readItems_cons_eq_ok.mpr ⟨value,before,here,left,rfl⟩,right,rfl⟩
    · rintro ⟨before,after,left,right,rfl⟩
      obtain ⟨value,others,here,there,rfl⟩ := readItems_cons_eq_ok.mp left
      exact ⟨value,others ++ after,here,ih.mpr ⟨others,after,there,right,rfl⟩,rfl⟩

/-- What was read item by item comes from the items. -/
theorem exists_of_mem_readItems {read : Node → Except Fault α} {nodes : List Node} {found : List α} {value : α}
    (items : readItems read nodes = .ok found) (member : value ∈ found) : ∃ node ∈ nodes, read node = .ok value := by
  induction nodes generalizing found with
  | nil =>
    cases items
    cases member
  | cons node rest ih =>
    obtain ⟨first,others,here,there,rfl⟩ := readItems_cons_eq_ok.mp items
    rcases List.mem_cons.mp member with rfl | later
    · exact ⟨node,List.mem_cons_self,here⟩
    · obtain ⟨source,inside,read⟩ := ih there later
      exact ⟨source,List.mem_cons_of_mem _ inside,read⟩

theorem readMembers_cons_eq_ok {read : Node → Except Fault α} {name : Option String} {node : Node}
    {rest : List (Option String × Node)} {found : List (String × α)} :
    readMembers read ((name,node) :: rest) = .ok found ↔
      ∃ key first others, name = some key ∧ read node = .ok first ∧ readMembers read rest = .ok others ∧
        found = (key,first) :: others := by
  cases name with
  | none => simp [readMembers]
  | some key =>
    rw [readMembers]
    cases read node with
    | error fault => simp [Bind.bind,Except.bind]
    | ok first =>
      cases readMembers read rest with
      | error fault => simp [Bind.bind,Except.bind]
      | ok others => simp [Bind.bind,Except.bind,eq_comm]

theorem list_read_eq_ok {codec : Codec α} {node : Node} {found : List α} :
    (list codec).read node = .ok found ↔ ∃ items, node = .array items true ∧ readItems codec.read items = .ok found := by
  cases node with
  | array items closed =>
    cases read : readItems codec.read items with
    | error fault => simp [list,read]
    | ok values => cases closed <;> simp [list,read]
  | _ => simp [list]

theorem map_read_eq_ok {codec : Codec α} {node : Node} {found : StringMap α} :
    (map codec).read node = .ok found ↔
      ∃ members entries, node = .object members true ∧ readMembers codec.read members = .ok entries ∧
        StringMap.ofList entries = found := by
  cases node with
  | object members closed =>
    cases read : readMembers codec.read members with
    | error fault => simp [map,read]
    | ok entries => cases closed <;> simp [map,read]
  | _ => simp [map]

theorem option_read_eq_ok {codec : Codec α} {node : Node} {found : Option α} :
    (option codec).read node = .ok found ↔
      (node = .null ∧ found = none) ∨ (node ≠ .null ∧ ∃ value, codec.read node = .ok value ∧ found = some value) := by
  cases node with
  | null => simp [option,eq_comm]
  | _ =>
    simp only [option,reduceCtorEq,false_and,false_or,ne_eq,not_false_eq_true,true_and]
    cases codec.read _ <;> simp [Except.map,eq_comm]

theorem readText_eq_ok {codec : Codec α} {text : String} {found : α} :
    codec.readText text = .ok found ↔ codec.read (scanText text).root = .ok found ∧ (scanText text).clean = true := by
  rw [readText,readDocument]
  cases codec.read (scanText text).root with
  | error fault => simp
  | ok value => cases (scanText text).clean <;> simp

/-! ### Conveying values -/

/-- A reader takes what a writer writes exactly if it fits, and finds in it what is
    seen of it. -/
def Conveys (source : Codec α) (target : Codec β) (fits : α → Prop) (see : α → β) : Prop :=
  ∀ value shown, target.readJson (source.write value) = .ok shown ↔ fits value ∧ see value = shown

/-- Reading undoes writing for exactly the values that fit; anything else that is
    written is refused. -/
def Restores (codec : Codec α) (fits : α → Prop) : Prop := codec.Conveys codec fits id

theorem restores_string : string.Restores fun _ => True := fun value shown => by
  simp [readJson,string,Node.ofJson]

theorem restores_bool : bool.Restores fun _ => True := fun value shown => by
  simp [readJson,bool,Node.ofJson]

/-- A finite number comes back bit for bit. -/
theorem restores_binary64 : binary64.Restores fun value => value.isFinite = true := by
  intro value shown
  cases finite : value.isFinite <;> simp [readJson,binary64,finite,Node.ofJson,Number.toBinary64]

variable {source : Codec α} {target : Codec β} {fits : α → Prop} {see : α → β}

theorem Conveys.congr {fits' : α → Prop} {see' : α → β} (conveys : source.Conveys target fits see)
    (same : ∀ value, fits value ↔ fits' value) (seen : ∀ value, see value = see' value) :
    source.Conveys target fits' see' := fun value shown => by
  rw [conveys value shown,same,seen]

theorem Conveys.list (conveys : source.Conveys target fits see) :
    source.list.Conveys target.list (fun values => ∀ value ∈ values, fits value) (List.map see) := by
  intro values shown
  have items : readItems target.read (Node.ofItems (values.map source.write)) = .ok shown ↔
      (∀ value ∈ values, fits value) ∧ values.map see = shown := by
    induction values generalizing shown with
    | nil => simp [Node.ofItems,readItems]
    | cons value rest ih =>
      rw [List.map_cons,Node.ofItems,readItems_cons_eq_ok,List.forall_mem_cons,List.map_cons]
      constructor
      · rintro ⟨first,others,head,tail,rfl⟩
        obtain ⟨here,rfl⟩ := (conveys value first).mp head
        obtain ⟨there,rfl⟩ := (ih others).mp tail
        exact ⟨⟨here,there⟩,rfl⟩
      · rintro ⟨⟨here,there⟩,rfl⟩
        exact ⟨_,_,(conveys value _).mpr ⟨here,rfl⟩,(ih _).mpr ⟨there,rfl⟩,rfl⟩
  rw [readJson,list_read_eq_ok,← items]
  exact ⟨fun ⟨_,same,read⟩ => by cases same; exact read,fun read => ⟨_,rfl,read⟩⟩

theorem Conveys.map (conveys : source.Conveys target fits see) :
    source.map.Conveys target.map (fun values => ∀ entry ∈ values.entries, fits entry.2) (StringMap.mapValues see) := by
  intro values shown
  have members : ∀ (entries : List (String × α)) found,
      readMembers target.read (Node.ofMembers (entries.map fun entry => (entry.1,source.write entry.2))) = .ok found ↔
        (∀ entry ∈ entries, fits entry.2) ∧ entries.map (fun entry => (entry.1,see entry.2)) = found := by
    intro entries
    induction entries with
    | nil => simp [Node.ofMembers,readMembers]
    | cons entry rest ih =>
      intro found
      rw [List.map_cons,Node.ofMembers,readMembers_cons_eq_ok,List.forall_mem_cons,List.map_cons]
      constructor
      · rintro ⟨key,first,others,named,head,tail,rfl⟩
        obtain rfl := Option.some.inj named
        obtain ⟨here,rfl⟩ := (conveys entry.2 first).mp head
        obtain ⟨there,rfl⟩ := (ih others).mp tail
        exact ⟨⟨here,there⟩,rfl⟩
      · rintro ⟨⟨here,there⟩,rfl⟩
        exact ⟨_,_,_,rfl,(conveys entry.2 _).mpr ⟨here,rfl⟩,(ih _).mpr ⟨there,rfl⟩,rfl⟩
  rw [readJson,map_read_eq_ok]
  constructor
  · rintro ⟨_,entries,same,read,rfl⟩
    cases same
    obtain ⟨all,rfl⟩ := (members values.entries entries).mp read
    exact ⟨all,(StringMap.ofList_entries (values.mapValues see)).symm⟩
  · rintro ⟨all,rfl⟩
    exact ⟨_,_,rfl,(members values.entries _).mpr ⟨all,rfl⟩,StringMap.ofList_entries (values.mapValues see)⟩

/-- An optional value is conveyed if null is kept for what is missing. -/
theorem Conveys.option (conveys : source.Conveys target fits see) (apart : ∀ value, source.write value ≠ .null) :
    source.option.Conveys target.option (fun value => ∀ found ∈ value, fits found) (Option.map see) := by
  intro value shown
  rw [readJson,option_read_eq_ok,ne_eq,Node.ofJson_eq_null]
  cases value with
  | none => simp [Codec.option,eq_comm]
  | some found =>
    have written : source.option.write (some found) = source.write found := rfl
    rw [written]
    constructor
    · rintro (⟨null,-⟩ | ⟨-,first,read,rfl⟩)
      · exact absurd null (apart found)
      · obtain ⟨here,rfl⟩ := (conveys found first).mp read
        exact ⟨by simpa using here,rfl⟩
    · rintro ⟨here,rfl⟩
      exact .inr ⟨apart found,_,(conveys found _).mpr ⟨here found rfl,rfl⟩,rfl⟩

variable {codec : Codec α}

theorem Restores.list (restores : codec.Restores fits) : codec.list.Restores fun values => ∀ value ∈ values, fits value :=
  Conveys.congr (Conveys.list restores) (fun _ => .rfl) List.map_id

theorem Restores.map (restores : codec.Restores fits) :
    codec.map.Restores fun values => ∀ entry ∈ values.entries, fits entry.2 :=
  Conveys.congr (Conveys.map restores) (fun _ => .rfl) fun _ => StringMap.ext_entries (List.map_id _)

theorem Restores.option (restores : codec.Restores fits) (apart : ∀ value, codec.write value ≠ .null) :
    codec.option.Restores fun value => ∀ found ∈ value, fits found :=
  Conveys.congr (Conveys.option restores apart) (fun _ => .rfl) fun value => congrFun Option.map_id value

theorem restores_strings : strings.Restores fun _ => True :=
  Conveys.congr restores_string.list (fun _ => by simp) fun _ => rfl

end Codec

/-! ### Conveying records -/

theorem Field.make_read_eq_ok {name : String} {required : Bool} {codec : Codec β} {get : α → β} {set : β → α → α}
    {leftOut : β → Bool} {node : Node} {before after : α} :
    (Field.make name required codec get set leftOut).read node before = .ok after ↔
      ∃ value, codec.read node = .ok value ∧ set value before = after := by
  simp only [Field.make]
  cases codec.read node <;> simp [Except.map]

namespace Record

/-- Reading a member skips one that no field has, and updates the record by one that a
    field has for the first time. -/
theorem readMembers_cons_eq_ok {fields : List (Field α)} {seen names : List String} {before after : α}
    {name : Option String} {node : Node} {rest : List (Option String × Node)} :
    readMembers fields seen before ((name,node) :: rest) = .ok (names,after) ↔ ∃ key, name = some key ∧
      (fields.find? (·.name == key) = none ∧ node.intact = true ∧
          readMembers fields seen before rest = .ok (names,after) ∨
        ∃ field next, fields.find? (·.name == key) = some field ∧ key ∉ seen ∧ field.read node before = .ok next ∧
          readMembers fields (key :: seen) next rest = .ok (names,after)) := by
  cases name with
  | none => simp [readMembers]
  | some key =>
    rw [readMembers]
    simp only [Option.some.injEq,exists_eq_left']
    generalize fields.find? (·.name == key) = target
    cases target with
    | none => cases node.intact <;> simp
    | some field =>
      by_cases old : key ∈ seen
      · simp [old]
      · cases read : field.read node before <;> simp [old,read]

/-- What some fields of a record are written as turns one record of the reader into
    another, if it fits. Fields that the reader does not know are skipped; one that is
    left out changes nothing. -/
inductive Carries (targets : List (Field β)) (record : α) : List (Field α) → β → Prop → β → Prop where
  | done {before : β} : Carries targets record [] before True before
  | skip {field : Field α} {rest : List (Field α)} {before after : β} {fits : Prop}
    (unknown : targets.find? (·.name == field.name) = none) (later : Carries targets record rest before fits after) :
    Carries targets record (field :: rest) before fits after
  | read {field : Field α} {rest : List (Field α)} {target : Field β} {before between after : β} {here fits : Prop}
    (known : targets.find? (·.name == field.name) = some target)
    (absent : field.write record = none → here ∧ before = between)
    (present : ∀ value, field.write record = some value →
      ∀ next, target.read (.ofJson value) before = .ok next ↔ here ∧ between = next)
    (later : Carries targets record rest between fits after) :
    Carries targets record (field :: rest) before (here ∧ fits) after

namespace Carries
variable {targets : List (Field β)} {record : α} {rest : List (Field α)} {before after : β} {fits : Prop}

/-- A field is carried by setting the field of its name to what is seen of it, which
    changes nothing where it is left out. -/
theorem make {name : String} {required required' : Bool} {source : Codec γ} {target : Codec δ} {holds : γ → Prop}
    {see : γ → δ} {get : α → γ} {set : γ → α → α} {leftOut : γ → Bool} {get' : β → δ} {set' : δ → β → β}
    {leftOut' : δ → Bool} (conveys : source.Conveys target holds see)
    (known : targets.find? (·.name == name) = some (Field.make name required' target get' set' leftOut'))
    (idle : leftOut (get record) = true → holds (get record) ∧ before = set' (see (get record)) before)
    (later : Carries targets record rest (set' (see (get record)) before) fits after) :
    Carries targets record (Field.make name required source get set leftOut :: rest) before
      (holds (get record) ∧ fits) after := by
  refine .read known ?_ ?_ later
  · intro absent
    exact idle (by simpa [Field.make] using absent)
  · intro value written next
    obtain rfl : source.write (get record) = value := by
      simp only [Field.make] at written
      split at written
      · cases written
      · exact Option.some.inj written
    have read := conveys (get record)
    simp only [Codec.readJson] at read
    rw [Field.make_read_eq_ok]
    constructor
    · rintro ⟨shown,found,rfl⟩
      obtain ⟨here,rfl⟩ := (read shown).mp found
      exact ⟨here,rfl⟩
    · rintro ⟨here,rfl⟩
      exact ⟨_,(read _).mpr ⟨here,rfl⟩,rfl⟩

section Fields
variable {name : String} {required required' : Bool} {source : Codec γ} {target : Codec δ} {holds : γ → Prop}
  {see : γ → δ} {get : α → γ} {set : γ → α → α} {get' : β → δ} {set' : δ → β → β} {leftOut' : δ → Bool}

/-- A field that is always written. -/
theorem always (conveys : source.Conveys target holds see)
    (known : targets.find? (·.name == name) = some (Field.make name required' target get' set' leftOut'))
    (later : Carries targets record rest (set' (see (get record)) before) fits after) :
    Carries targets record (Field.make name required source get set (fun _ => false) :: rest) before
      (holds (get record) ∧ fits) after :=
  make conveys known nofun later

/-- A field that is left out where it has one value, which the reader has already. -/
theorem sparse {leftOut : γ → Bool} {unset : γ} (conveys : source.Conveys target holds see)
    (known : targets.find? (·.name == name) = some (Field.make name required' target get' set' leftOut'))
    (alone : leftOut (get record) = true → get record = unset)
    (idle : holds unset ∧ before = set' (see unset) before)
    (later : Carries targets record rest (set' (see (get record)) before) fits after) :
    Carries targets record (Field.make name required source get set leftOut :: rest) before
      (holds (get record) ∧ fits) after :=
  make conveys known (fun left => by rw [alone left]; exact idle) later

/-- A text that is left out where it is empty. -/
theorem text {get : α → String} {set : String → α → α} {get' : β → String} {set' : String → β → β}
    {leftOut' : String → Bool}
    (known : targets.find? (·.name == name) = some (Field.make name required' Codec.string get' set' leftOut'))
    (idle : before = set' "" before) (later : Carries targets record rest (set' (get record) before) fits after) :
    Carries targets record (Field.make name required Codec.string get set String.isEmpty :: rest) before
      (True ∧ fits) after :=
  sparse Codec.restores_string known String.isEmpty_iff.mp ⟨trivial,idle⟩ later

end Fields

end Carries

/-- Reading members gives at least the names that came and that some field has. -/
theorem mem_of_readMembers {fields : List (Field α)} {members : List (Option String × Node)} {seen names : List String}
    {before after : α} (read : readMembers fields seen before members = .ok (names,after)) {name : String}
    (came : name ∈ seen ∨ (∃ node, (some name,node) ∈ members) ∧ ∃ field ∈ fields, field.name = name) :
    name ∈ names := by
  induction members generalizing seen before with
  | nil =>
    cases read
    simpa using came
  | cons member rest ih =>
    obtain ⟨label,node⟩ := member
    obtain ⟨key,rfl,⟨unknown,-,rest⟩ | ⟨target,next,-,-,-,rest⟩⟩ := readMembers_cons_eq_ok.mp read
    · refine ih rest (came.imp_right ?_)
      rintro ⟨⟨other,here⟩,field,member,rfl⟩
      rcases List.mem_cons.mp here with same | later
      · obtain ⟨rfl,-⟩ : field.name = key ∧ other = node := by simpa using same
        exact absurd (List.find?_eq_none.mp unknown field member) (by simp)
      · exact ⟨⟨other,later⟩,field,member,rfl⟩
    · refine ih rest ?_
      rcases came with old | ⟨⟨other,here⟩,field⟩
      · exact .inl (List.mem_cons_of_mem _ old)
      · rcases List.mem_cons.mp here with same | later
        · cases same
          exact .inl List.mem_cons_self
        · exact .inr ⟨⟨other,later⟩,field⟩

/-- A record is read from what another is written as exactly if it fits. -/
theorem readMembers_members {targets : List (Field β)} {record : α} {fields : List (Field α)} {before after found : β}
    {fits : Prop} (carries : Carries targets record fields before fits after)
    (distinct : (fields.map Field.name).Nodup) {seen : List String} (fresh : ∀ field ∈ fields, field.name ∉ seen) :
    (∃ names, readMembers targets seen before (Node.ofMembers (members fields record)) = .ok (names,found)) ↔
      fits ∧ after = found := by
  -- The induction is on the fields; what is seen grows by their names, none of which comes again.
  induction carries generalizing seen with
  | done => simp [members,Node.ofMembers,readMembers]
  | @skip field rest before after fits unknown later ih =>
    obtain ⟨-,others⟩ := List.nodup_cons.mp distinct
    have continued := ih others fun other member => fresh other (List.mem_cons_of_mem _ member)
    cases written : field.write record with
    | none => simpa [members,List.filterMap_cons,written] using continued
    | some value =>
      simpa [members,List.filterMap_cons,written,Node.ofMembers,readMembers,unknown,Node.intact_ofJson] using continued
  | @read field rest target before between after here fits known absent present later ih =>
    obtain ⟨apart,others⟩ := List.nodup_cons.mp distinct
    cases written : field.write record with
    | none =>
      obtain ⟨holds,rfl⟩ := absent written
      have continued := ih others fun other member => fresh other (List.mem_cons_of_mem _ member)
      simpa [members,List.filterMap_cons,written,holds] using continued
    | some value =>
      have unseen : field.name ∉ seen := fresh field List.mem_cons_self
      have unread : ∀ other ∈ rest, other.name ∉ field.name :: seen := fun other member => by
        have differ : other.name ≠ field.name := fun same =>
          apart (List.mem_map.mpr ⟨other,member,same⟩)
        simpa [differ] using fresh other (List.mem_cons_of_mem _ member)
      have continued := ih others unread
      have grown : members (field :: rest) record = (field.name,value) :: members rest record := by
        simp [members,written]
      rw [grown,Node.ofMembers,and_assoc,← continued]
      simp only [readMembers_cons_eq_ok,Option.some.injEq,exists_eq_left',known,reduceCtorEq,false_and,false_or,
        unseen,not_false_eq_true,true_and]
      constructor
      · rintro ⟨names,_,next,rfl,read,rest⟩
        obtain ⟨holds,rfl⟩ := (present value written next).mp read
        exact ⟨holds,names,rest⟩
      · rintro ⟨holds,names,rest⟩
        exact ⟨names,target,between,rfl,(present value written between).mpr ⟨holds,rfl⟩,rest⟩

/-- A name comes in every written form of a record. -/
def Writes (fields : List (Field α)) (name : String) : Prop :=
  ∀ record, ∃ value, (name,value) ∈ members fields record

theorem Writes.here {name : String} {codec : Codec γ} {get : α → γ} {set : γ → α → α} {rest : List (Field α)} :
    Writes (Field.needed name codec get set :: rest) name :=
  fun record => ⟨codec.write (get record),by simp [members,Field.needed,Field.make]⟩

theorem Writes.later {name : String} {field : Field α} {rest : List (Field α)} (writes : Writes rest name) :
    Writes (field :: rest) name := fun record => by
  obtain ⟨value,written⟩ := writes record
  refine ⟨value,?_⟩
  rw [members,List.filterMap_cons]
  split
  · exact written
  · exact List.mem_cons_of_mem _ written

/-- The names of the fields that have to be there. -/
def needed (fields : List (Field α)) : List String := (fields.filter (·.required)).map (·.name)

theorem mem_ofMembers {name : String} {value : Json} {written : List (String × Json)} (member : (name,value) ∈ written) :
    (some name,Node.ofJson value) ∈ Node.ofMembers written := by
  induction written with
  | nil => cases member
  | cons head rest ih =>
    rcases List.mem_cons.mp member with rfl | later
    · exact List.mem_cons_self
    · exact List.mem_cons_of_mem _ (ih later)

end Record

theorem record_write_ne_null {blank : α} {fields : List (Field α)} (record : α) :
    (Codec.record blank fields).write record ≠ .null := nofun

/-- Records are conveyed if their fields have different names, the reader gets what it
    needs, and the fields that are carried one after the other turn its blank record into
    what is seen. -/
theorem conveys_record {blank : α} {fields : List (Field α)} {blank' : β} {targets : List (Field β)} {fits : α → Prop}
    {see : α → β} (distinct : (fields.map Field.name).Nodup)
    (needs : ∀ name ∈ Record.needed targets, Record.Writes fields name)
    {here : α → Prop} (carries : ∀ record, Record.Carries targets record fields blank' (here record) (see record))
    (same : ∀ record, here record ↔ fits record) :
    (Codec.record blank fields).Conveys (Codec.record blank' targets) fits see := by
  intro record shown
  have unread : ∀ field ∈ fields, field.name ∉ ([] : List String) := fun _ _ => List.not_mem_nil
  rw [← same,← Record.readMembers_members (carries record) distinct unread]
  -- Only the names are left to check: whatever was written has those that are needed.
  have form : (Codec.record blank' targets).readJson ((Codec.record blank fields).write record) =
      Record.read blank' targets (.object (Node.ofMembers (Record.members fields record)) true) := rfl
  rw [form,Record.read]
  cases read : Record.readMembers targets [] blank' (Node.ofMembers (Record.members fields record)) with
  | error fault => simp
  | ok found =>
    obtain ⟨names,after⟩ := found
    have present : Record.present targets names = true := by
      rw [Record.present,List.all_eq_true]
      intro target member
      cases required : target.required with
      | false => rfl
      | true =>
        have needed : target.name ∈ Record.needed targets :=
          List.mem_map_of_mem (List.mem_filter.mpr ⟨member,required⟩)
        obtain ⟨value,written⟩ := needs target.name needed record
        have came := Record.mem_of_readMembers read
          (.inr ⟨⟨_,Record.mem_ofMembers written⟩,target,member,rfl⟩)
        simpa using came
    simp [present]

/-! ### Records of two texts -/

section Texts
variable {blank : α} {first second : String} {get get' : α → String} {set set' : String → α → α}

theorem find?_first_text : [Field.optional first Codec.string get set,.optional second Codec.string get' set'].find?
    (·.name == first) = some (.optional first Codec.string get set) := List.find?_cons_of_pos (beq_self_eq_true first)

theorem find?_second_text (apart : first ≠ second) :
    [Field.optional first Codec.string get set,.optional second Codec.string get' set'].find? (·.name == second) =
      some (.optional second Codec.string get' set') := by
  rw [List.find?_cons_of_neg]
  · exact List.find?_cons_of_pos (beq_self_eq_true second)
  · exact fun same => apart (beq_iff_eq.mp same)

/-- Records of two texts that are always written come back if these are all there is
    to them. -/
theorem restores_texts (apart : first ≠ second)
    (rebuilt : ∀ record, set' (get' record) (set (get record) blank) = record) :
    (Codec.record blank [.optional first Codec.string get set,.optional second Codec.string get' set']).Restores
      fun _ => True := by
  have distinct : ([Field.optional first Codec.string get set,.optional second Codec.string get' set'].map
      Field.name).Nodup := by simpa [Field.optional,Field.make] using apart
  refine Codec.Conveys.congr (conveys_record distinct (List.forall_mem_nil _)
    (fun _ => .always Codec.restores_string find?_first_text <|
      .always Codec.restores_string (find?_second_text apart) .done)
    fun _ => .rfl) (fun _ => ?_) rebuilt
  simp only [and_self]

end Texts

/-! ### What is read, wherever it comes from -/

/-- All values that a codec reads have a property. -/
def Codec.Ensures (codec : Codec α) (property : α → Prop) : Prop :=
  ∀ node value, codec.read node = .ok value → property value

namespace Codec
variable {codec : Codec α} {property : α → Prop}

theorem ensures_binary64 : binary64.Ensures (fun value => value.isFinite = true) := by
  intro node value read
  simp only [binary64] at read
  split at read
  · split at read
    · rename_i finite
      cases read
      exact finite
    · cases read
  · cases read

theorem Ensures.list (ensures : codec.Ensures property) :
    codec.list.Ensures (fun values => ∀ value ∈ values, property value) := by
  intro node values read
  obtain ⟨items,-,found⟩ := list_read_eq_ok.mp read
  clear read
  induction items generalizing values with
  | nil =>
    cases found
    nofun
  | cons item rest ih =>
    obtain ⟨first,others,here,there,rfl⟩ := readItems_cons_eq_ok.mp found
    exact List.forall_mem_cons.mpr ⟨ensures item first here,ih others there⟩

theorem Ensures.map (ensures : codec.Ensures property) :
    codec.map.Ensures (fun values => ∀ entry ∈ values.entries, property entry.2) := by
  intro node values read
  obtain ⟨members,entries,-,found,rfl⟩ := map_read_eq_ok.mp read
  have all : ∀ entry ∈ entries, property entry.2 := by
    clear read
    induction members generalizing entries with
    | nil =>
      cases found
      nofun
    | cons member rest ih =>
      obtain ⟨key,first,others,-,here,there,rfl⟩ := readMembers_cons_eq_ok.mp found
      exact List.forall_mem_cons.mpr ⟨ensures _ first here,ih others there⟩
  exact fun entry member => all entry (StringMap.mem_of_mem_ofList member)

theorem Ensures.option (ensures : codec.Ensures property) :
    codec.option.Ensures (fun value => ∀ found ∈ value, property found) := by
  intro node value read found member
  obtain rfl : value = some found := member
  rcases option_read_eq_ok.mp read with ⟨-,none⟩ | ⟨-,first,here,same⟩
  · cases none
  · obtain rfl := Option.some.inj same
    exact ensures node found here

end Codec

/-- A property stays when a field is read. -/
def Field.Keeps (property : α → Prop) (field : Field α) : Prop :=
  ∀ node before after, property before → field.read node before = .ok after → property after

theorem Field.Keeps.made {name : String} {required : Bool} {codec : Codec β} {get : α → β} {set : β → α → α}
    {leftOut : β → Bool} {property : α → Prop} {holds : β → Prop} (ensures : codec.Ensures holds)
    (keeps : ∀ value before, holds value → property before → property (set value before)) :
    (Field.make name required codec get set leftOut).Keeps property := by
  intro node before after start read
  obtain ⟨value,found,rfl⟩ := Field.make_read_eq_ok.mp read
  exact keeps value before (ensures node value found) start

/-- A property stays with a field that has nothing to do with it. -/
theorem Field.Keeps.other {name : String} {required : Bool} {codec : Codec β} {get : α → β} {set : β → α → α}
    {leftOut : β → Bool} {property : α → Prop}
    (keeps : ∀ value before, property before → property (set value before)) :
    (Field.make name required codec get set leftOut).Keeps property := by
  have anything : codec.Ensures fun _ => True := fun _ _ _ => trivial
  exact .made anything fun value before _ => keeps value before

namespace Record
variable {fields : List (Field α)} {property : α → Prop}

theorem readMembers_keeps (keeps : ∀ field ∈ fields, field.Keeps property) {members : List (Option String × Node)}
    {seen names : List String} {before after : α} (start : property before)
    (read : readMembers fields seen before members = .ok (names,after)) : property after := by
  induction members generalizing seen before with
  | nil =>
    cases read
    exact start
  | cons member rest ih =>
    obtain ⟨label,node⟩ := member
    obtain ⟨key,rfl,⟨-,-,rest⟩ | ⟨field,next,known,-,here,rest⟩⟩ := readMembers_cons_eq_ok.mp read
    · exact ih start rest
    · exact ih (keeps field (List.mem_of_find?_eq_some known) node before next start here) rest

/-- A property stays if only one field might change it, and the members no longer have
    one for it. -/
theorem readMembers_keeps_but {key : String} (keeps : ∀ field ∈ fields, field.name ≠ key → field.Keeps property)
    {members : List (Option String × Node)} {seen names : List String} {before after : α}
    (covered : key ∈ seen ∨ ∀ node, (some key,node) ∉ members) (start : property before)
    (read : readMembers fields seen before members = .ok (names,after)) : property after := by
  induction members generalizing seen before with
  | nil =>
    cases read
    exact start
  | cons member rest ih =>
    obtain ⟨label,node⟩ := member
    have ahead : key ∈ seen ∨ ∀ node, (some key,node) ∉ rest :=
      covered.imp_right fun absent other later => absent other (List.mem_cons_of_mem _ later)
    obtain ⟨name,rfl,⟨-,-,rest⟩ | ⟨field,next,known,fresh,here,rest⟩⟩ := readMembers_cons_eq_ok.mp read
    · exact ih ahead start rest
    · obtain rfl : field.name = name := by simpa using List.find?_some known
      have differ : field.name ≠ key := by
        rintro rfl
        rcases covered with old | absent
        · exact fresh old
        · exact absent node List.mem_cons_self
      have kept := keeps field (List.mem_of_find?_eq_some known) differ node before next start here
      exact ih (ahead.imp_left (List.mem_cons_of_mem _)) kept rest

/-- A property that one field brings about and the others keep holds once a member for
    that field was read. -/
theorem readMembers_brings {key : String} {target : Field α} {content : Node}
    (known : fields.find? (·.name == key) = some target)
    (brings : ∀ before after, target.read content before = .ok after → property after)
    (keeps : ∀ field ∈ fields, field.name ≠ key → field.Keeps property) {members : List (Option String × Node)}
    {seen names : List String} {before after : α} (member : (some key,content) ∈ members)
    (read : readMembers fields seen before members = .ok (names,after)) : property after := by
  induction members generalizing seen before with
  | nil => cases member
  | cons head rest ih =>
    obtain ⟨label,node⟩ := head
    obtain ⟨name,rfl,taken⟩ := readMembers_cons_eq_ok.mp read
    rcases List.mem_cons.mp member with same | later
    · obtain ⟨rfl,rfl⟩ : key = name ∧ content = node := by simpa using same
      rcases taken with ⟨unknown,-,-⟩ | ⟨field,next,found,-,here,rest⟩
      · rw [unknown] at known
        cases known
      · obtain rfl : field = target := Option.some.inj (found.symm.trans known)
        exact readMembers_keeps_but keeps (.inl List.mem_cons_self) (brings before next here) rest
    · rcases taken with ⟨-,-,rest⟩ | ⟨field,next,-,-,-,rest⟩
      · exact ih later rest
      · exact ih later rest

theorem readItems_keeps (keeps : ∀ field ∈ fields, field.Keeps property) {closed : Bool} {items : List Node}
    {before after : α} (start : property before) (read : readItems closed fields items before = .ok after) :
    property after := by
  induction fields generalizing items before with
  | nil =>
    cases items with
    | nil =>
      cases closed with
      | true =>
        cases read
        exact start
      | false => cases read
    | cons item rest => cases read
  | cons field fields ih =>
    obtain ⟨first,others⟩ := List.forall_mem_cons.mp keeps
    cases items with
    | nil =>
      simp only [readItems] at read
      split at read
      · cases read
      · split at read
        · cases read
        · exact ih others start read
    | cons item rest =>
      simp only [readItems] at read
      split at read
      · cases read
      · rename_i next here
        exact ih others (first item before next start here) read

end Record

theorem record_read_object {blank : α} {fields : List (Field α)} {members : List (Option String × Node)}
    {closed : Bool} {value : α} (read : (Codec.record blank fields).read (.object members closed) = .ok value) :
    ∃ names, Record.readMembers fields [] blank members = .ok (names,value) := by
  simp only [Codec.record,Record.read] at read
  split at read
  · cases read
  · rename_i names found inner
    split at read
    · cases read
    · split at read
      · cases read
        exact ⟨names,inner⟩
      · cases read

/-! ### Parts of records that were read from objects -/

/-- Of some fields only that of one name changes some part of a record. -/
def Record.Alone (fields : List (Field α)) (key : String) (get : α → γ) : Prop :=
  ∀ field ∈ fields, field.name ≠ key → ∀ value, field.Keeps fun record => get record = value

namespace Record.Alone
variable {fields : List (Field α)} {name key : String} {get : α → γ} {required : Bool} {codec : Codec δ} {part : α → δ}
  {set : δ → α → α} {leftOut : δ → Bool}

theorem done : Alone [] key get := nofun

theorem here (rest : Alone fields key get) : Alone (.make key required codec part set leftOut :: fields) key get :=
  List.forall_mem_cons.mpr ⟨fun differ => absurd rfl differ,rest⟩

theorem other (rest : Alone fields key get) (kept : ∀ value record, get (set value record) = get record := by intros; rfl) :
    Alone (.make name required codec part set leftOut :: fields) key get :=
  List.forall_mem_cons.mpr ⟨fun _ _ => .other fun value record same => (kept value record).trans same,rest⟩

end Record.Alone

/-- A part of a record that was read from an object is what the member for it holds, and
    that of the blank record where there is none. -/
theorem read_part {blank value : α} {fields : List (Field α)} {members : List (Option String × Node)} {closed : Bool}
    {key : String} {required : Bool} {codec : Codec β} {get : α → β} {set : β → α → α} {leftOut : β → Bool}
    (read : (Codec.record blank fields).read (.object members closed) = .ok value)
    (known : fields.find? (·.name == key) = some (.make key required codec get set leftOut))
    (sets : ∀ part record, get (set part record) = part) (alone : Record.Alone fields key get) :
    (∀ content, (some key,content) ∈ members → codec.read content = .ok (get value)) ∧
      ((∀ content, (some key,content) ∉ members) → get value = get blank) := by
  obtain ⟨names,inner⟩ := record_read_object read
  refine ⟨fun content member => ?_,fun absent => ?_⟩
  · have keeps : ∀ field ∈ fields, field.name ≠ key → field.Keeps fun record => codec.read content = .ok (get record) :=
      fun field inside differ node before after start step => by
        have same : get after = get before := alone field inside differ (get before) node before after rfl step
        simpa only [same] using start
    have brings : ∀ before after, (Field.make key required codec get set leftOut).read content before = .ok after →
        codec.read content = .ok (get after) := fun before after step => by
      obtain ⟨part,found,rfl⟩ := Field.make_read_eq_ok.mp step
      rw [found,sets]
    exact Record.readMembers_brings known brings keeps member inner
  · have keeps : ∀ field ∈ fields, field.name ≠ key → field.Keeps fun record => get record = get blank :=
      fun field inside differ => alone field inside differ (get blank)
    exact Record.readMembers_keeps_but keeps (.inr absent) rfl inner

/-! ### What every record that was read is like -/

/-- What holds of the blank record and stays with every field holds of all records. -/
theorem ensures_record {blank : α} {fields : List (Field α)} {property : α → Prop} (start : property blank)
    (keeps : ∀ field ∈ fields, field.Keeps property) : (Codec.record blank fields).Ensures property := by
  intro node value read
  simp only [Codec.record,Record.read] at read
  split at read
  · split at read
    · cases read
    · rename_i found
      split at read
      · cases read
      · split at read
        · cases read
          exact Record.readMembers_keeps keeps start found
        · cases read
  · exact Record.readItems_keeps keeps start read
  · cases read

end StackBroker.Json
