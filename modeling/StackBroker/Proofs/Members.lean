import StackBroker.Proofs.Records

/-!
What the members of an object do to the record that is read from it. A part of the record
is held by the member of its name (`Held`). Members of other names are passed over, and the
same is read wherever they are put (`Padded.read_eq`); apart from these every member has to
bear the name of a part, and none twice (`WellNamed`, `wellNamed_of_read`, `exists_record_read`).
If the record has only one part, the nodes that it can be read from are exactly those that
have the part or lack it (`SolePart`, `record_sole_read_eq_ok`).
-/
namespace StackBroker.Json
variable {α β : Type}

/-! ### Parts and their members -/

/-- A part is what the member of a name holds, and unset where there is no such member. -/
def Held (codec : Codec β) (members : List (Option String × Node)) (name : String) (part unset : β) : Prop :=
  (∀ content, (some name,content) ∈ members → codec.read content = .ok part) ∧
    ((∀ content, (some name,content) ∉ members) → part = unset)

/-- The parts of a record whose fields are made one beside the other are held by its members. -/
theorem held_of_read {blank value : α} {fields : List (Field α)} {members : List (Option String × Node)} {closed : Bool}
    {key : String} {required : Bool} {codec : Codec β} {get : α → β} {set : β → α → α} {leftOut : β → Bool}
    (read : (Codec.record blank fields).read (.object members closed) = .ok value)
    (known : fields.find? (·.name == key) = some (.make key required codec get set leftOut))
    (sets : ∀ part record, get (set part record) = part := by intros; rfl)
    (alone : Record.Alone fields key get := by repeat first | exact .done | refine .here ?_ | refine .other ?_) :
    Held codec members key (get value) (get blank) := read_part read known sets alone

/-- A part is held once at most. -/
theorem Held.unique {codec : Codec β} {members : List (Option String × Node)} {name : String} {part other unset : β}
    (held : Held codec members name part unset) (heldOther : Held codec members name other unset) : part = other := by
  by_cases present : ∃ content, (some name,content) ∈ members
  · obtain ⟨content,member⟩ := present
    exact Except.ok.inj ((held.1 content member).symm.trans (heldOther.1 content member))
  · have absent : ∀ content, (some name,content) ∉ members := fun content member => present ⟨content,member⟩
    rw [held.2 absent,heldOther.2 absent]

/-- A field takes whatever some members hold for it. -/
def Field.Takes (members : List (Option String × Node)) (field : Field α) : Prop :=
  ∀ content, (some field.name,content) ∈ members → ∀ before, ∃ after, field.read content before = .ok after

theorem Held.takes {codec : Codec β} {members : List (Option String × Node)} {name : String} {part unset : β}
    {required : Bool} {get : α → β} {set : β → α → α} {leftOut : β → Bool} (held : Held codec members name part unset) :
    (Field.make name required codec get set leftOut).Takes members := by
  intro content member before
  exact ⟨set part before,Field.make_read_eq_ok.mpr ⟨part,held.1 content member,rfl⟩⟩

/-! ### Members that no field takes -/

/-- A member that is passed over where fields of some names are read: it has another name,
    and its value is looked at only to see where it ends. -/
def Passed (names : List String) (member : Option String × Node) : Prop :=
  ∃ name, member.1 = some name ∧ name ∉ names ∧ member.2.intact = true

/-- Members that fields of some names can be read from as far as names go: each is passed
    over or bears one of the names, and none of these comes twice. -/
structure WellNamed (names : List String) (members : List (Option String × Node)) : Prop where
  each : ∀ member ∈ members, Passed names member ∨ ∃ name ∈ names, member.1 = some name
  once : members.Pairwise fun one other => ∀ name ∈ names, one.1 = some name → other.1 ≠ some name

/-- A node with members put into it that are passed over, anywhere and in any number. -/
inductive Padded (names : List String) (node : Node) : Node → Prop where
  | same : Padded names node node
  | member {before after : List (Option String × Node)} {member : Option String × Node} {closed : Bool}
    (padded : Padded names node (.object (before ++ after) closed)) (passed : Passed names member) :
    Padded names node (.object (before ++ member :: after) closed)

namespace Record
variable {fields : List (Field α)} {seen names : List String} {before after : α}

theorem find?_eq_none_iff {name : String} :
    fields.find? (·.name == name) = none ↔ name ∉ fields.map Field.name := by simp

theorem name_of_find? {name : String} {field : Field α} (known : fields.find? (·.name == name) = some field) :
    field ∈ fields ∧ field.name = name :=
  ⟨List.mem_of_find?_eq_some known,by simpa using List.find?_some known⟩

theorem readMembers_passed {member : Option String × Node} (passed : Passed (fields.map Field.name) member)
    (rest : List (Option String × Node)) :
    readMembers fields seen before (member :: rest) = readMembers fields seen before rest := by
  obtain ⟨label,node⟩ := member
  obtain ⟨name,rfl,unknown,intact⟩ := passed
  rw [readMembers,find?_eq_none_iff.mpr unknown]
  exact if_pos intact

theorem readMembers_passed_append {passed : List (Option String × Node)}
    (all : ∀ member ∈ passed, Passed (fields.map Field.name) member) (rest : List (Option String × Node)) :
    readMembers fields seen before (passed ++ rest) = readMembers fields seen before rest := by
  induction passed with
  | nil => rfl
  | cons member others ih =>
    obtain ⟨here,there⟩ := List.forall_mem_cons.mp all
    rw [List.cons_append,readMembers_passed here,ih there]

theorem readMembers_of_all_passed {members : List (Option String × Node)}
    (all : ∀ member ∈ members, Passed (fields.map Field.name) member) :
    readMembers fields seen before members = .ok (seen,before) := by
  rw [← List.append_nil members,readMembers_passed_append all,readMembers]

/-- Wherever a member is put that is passed over, the same is read. -/
theorem readMembers_insert {member : Option String × Node} (passed : Passed (fields.map Field.name) member)
    (first rest : List (Option String × Node)) :
    readMembers fields seen before (first ++ member :: rest) = readMembers fields seen before (first ++ rest) := by
  -- What stands before it may change the record and what is seen, on both sides alike.
  induction first generalizing seen before with
  | nil => exact readMembers_passed passed rest
  | cons head others ih =>
    obtain ⟨label,node⟩ := head
    cases label with
    | none => rfl
    | some name => simp only [List.cons_append,readMembers,ih]

/-- Once every field has come, members can only be passed over. -/
theorem readMembers_of_all_seen {members : List (Option String × Node)} (all : ∀ field ∈ fields, field.name ∈ seen)
    (read : readMembers fields seen before members = .ok (names,after)) :
    (∀ member ∈ members, Passed (fields.map Field.name) member) ∧ after = before := by
  induction members with
  | nil =>
    cases read
    exact ⟨List.forall_mem_nil _,rfl⟩
  | cons member rest ih =>
    obtain ⟨label,node⟩ := member
    obtain ⟨name,rfl,⟨unknown,intact,later⟩ | ⟨field,next,known,fresh,-⟩⟩ := readMembers_cons_eq_ok.mp read
    · obtain ⟨others,rfl⟩ := ih later
      exact ⟨List.forall_mem_cons.mpr ⟨⟨name,rfl,find?_eq_none_iff.mp unknown,intact⟩,others⟩,rfl⟩
    · obtain ⟨inside,rfl⟩ := name_of_find? known
      exact absurd (all field inside) fresh

/-- Members that were read are well named, and bear no name that had been seen. -/
theorem wellNamed_of_readMembers {members : List (Option String × Node)}
    (read : readMembers fields seen before members = .ok (names,after)) :
    WellNamed (fields.map Field.name) members ∧
      ∀ member ∈ members, ∀ name ∈ fields.map Field.name, name ∈ seen → member.1 ≠ some name := by
  induction members generalizing seen before with
  | nil => exact ⟨⟨List.forall_mem_nil _,.nil⟩,List.forall_mem_nil _⟩
  | cons member rest ih =>
    obtain ⟨label,node⟩ := member
    obtain ⟨key,rfl,⟨unknown,intact,later⟩ | ⟨field,next,known,fresh,-,later⟩⟩ := readMembers_cons_eq_ok.mp read
    · have unnamed : key ∉ fields.map Field.name := find?_eq_none_iff.mp unknown
      obtain ⟨⟨each,once⟩,unseen⟩ := ih later
      refine ⟨⟨?_,?_⟩,?_⟩
      · exact List.forall_mem_cons.mpr ⟨.inl ⟨key,rfl,unnamed,intact⟩,each⟩
      · refine List.pairwise_cons.mpr ⟨fun other _ name named same => ?_,once⟩
        exact absurd (Option.some.inj same ▸ named) unnamed
      · refine List.forall_mem_cons.mpr ⟨fun name named _ same => ?_,unseen⟩
        exact unnamed (Option.some.inj same ▸ named)
    · obtain ⟨inside,rfl⟩ := name_of_find? known
      have named : field.name ∈ fields.map Field.name := List.mem_map_of_mem inside
      obtain ⟨⟨each,once⟩,unseen⟩ := ih later
      refine ⟨⟨?_,?_⟩,?_⟩
      · exact List.forall_mem_cons.mpr ⟨.inr ⟨field.name,named,rfl⟩,each⟩
      · refine List.pairwise_cons.mpr ⟨fun other member name _ same => ?_,once⟩
        obtain rfl : field.name = name := Option.some.inj same
        exact unseen other member field.name named List.mem_cons_self
      · refine List.forall_mem_cons.mpr ⟨fun name _ old same => ?_,fun other member name named old => ?_⟩
        · exact fresh (Option.some.inj same ▸ old)
        · exact unseen other member name named (List.mem_cons_of_mem _ old)

/-- Members that are well named can be read if the fields take what they hold. -/
theorem exists_readMembers {members : List (Option String × Node)} (wellNamed : WellNamed (fields.map Field.name) members)
    (unseen : ∀ member ∈ members, ∀ name ∈ fields.map Field.name, name ∈ seen → member.1 ≠ some name)
    (takes : ∀ field ∈ fields, field.Takes members) (before : α) :
    ∃ names after, readMembers fields seen before members = .ok (names,after) := by
  induction members generalizing seen before with
  | nil => exact ⟨seen,before,rfl⟩
  | cons member rest ih =>
    obtain ⟨label,node⟩ := member
    obtain ⟨here,each⟩ := List.forall_mem_cons.mp wellNamed.each
    obtain ⟨apart,once⟩ := List.pairwise_cons.mp wellNamed.once
    obtain ⟨fresh,unseenRest⟩ := List.forall_mem_cons.mp unseen
    have takesRest : ∀ field ∈ fields, field.Takes rest :=
      fun field inside content member => takes field inside content (List.mem_cons_of_mem _ member)
    rcases here with passed | ⟨key,named,rfl⟩
    · rw [readMembers_passed passed]
      exact ih ⟨each,once⟩ unseenRest takesRest before
    · obtain ⟨field,known⟩ : ∃ field, fields.find? (·.name == key) = some field :=
        Option.ne_none_iff_exists'.mp fun none => find?_eq_none_iff.mp none named
      obtain ⟨inside,rfl⟩ := name_of_find? known
      obtain ⟨next,updated⟩ := takes field inside node List.mem_cons_self before
      have unseenNext : ∀ member ∈ rest, ∀ name ∈ fields.map Field.name, name ∈ field.name :: seen →
          member.1 ≠ some name := by
        intro other member name named' old
        rcases List.mem_cons.mp old with rfl | old
        · exact apart other member field.name named rfl
        · exact unseenRest other member name named' old
      obtain ⟨names,after,later⟩ := ih ⟨each,once⟩ unseenNext takesRest next
      refine ⟨names,after,readMembers_cons_eq_ok.mpr ⟨field.name,rfl,.inr ⟨field,next,known,?_,updated,later⟩⟩⟩
      exact fun old => fresh field.name named old rfl

end Record

theorem Padded.read_eq {blank : α} {fields : List (Field α)} {node other : Node}
    (padded : Padded (fields.map Field.name) node other) :
    (Codec.record blank fields).read other = (Codec.record blank fields).read node := by
  induction padded with
  | same => rfl
  | member _ passed ih =>
    rw [← ih]
    simp only [Codec.record,Record.read,Record.readMembers_insert passed]

/-- An object is read as a record without needed fields if it is closed after members
    that can be read. -/
theorem record_object_read_eq_ok {blank value : α} {fields : List (Field α)} (free : ∀ field ∈ fields, field.required = false)
    {members : List (Option String × Node)} {closed : Bool} :
    (Codec.record blank fields).read (.object members closed) = .ok value ↔
      closed = true ∧ ∃ names, Record.readMembers fields [] blank members = .ok (names,value) := by
  have allThere (names : List String) : Record.present fields names = true :=
    List.all_eq_true.mpr fun field member => by simp [free field member]
  cases read : Record.readMembers fields [] blank members with
  | error fault => simp [Codec.record,Record.read,read]
  | ok found =>
    obtain ⟨names,record⟩ := found
    cases closed <;> simp [Codec.record,Record.read,read,allThere]

/-- An object that is read as a record without needed fields is closed, and well named. -/
theorem wellNamed_of_read {blank value : α} {fields : List (Field α)} (free : ∀ field ∈ fields, field.required = false)
    {members : List (Option String × Node)} {closed : Bool}
    (read : (Codec.record blank fields).read (.object members closed) = .ok value) :
    closed = true ∧ WellNamed (fields.map Field.name) members := by
  obtain ⟨whole,names,came⟩ := (record_object_read_eq_ok free).mp read
  exact ⟨whole,(Record.wellNamed_of_readMembers came).1⟩

/-- If the fields take what well named members hold, a record is read from these. -/
theorem exists_record_read {blank : α} {fields : List (Field α)} (free : ∀ field ∈ fields, field.required = false)
    {members : List (Option String × Node)} (wellNamed : WellNamed (fields.map Field.name) members)
    (takes : ∀ field ∈ fields, field.Takes members) :
    ∃ value, (Codec.record blank fields).read (.object members true) = .ok value := by
  have unseen : ∀ member ∈ members, ∀ name ∈ fields.map Field.name, name ∈ [] → member.1 ≠ some name := by simp
  obtain ⟨names,value,came⟩ := Record.exists_readMembers wellNamed unseen takes blank
  exact ⟨value,(record_object_read_eq_ok free).mpr ⟨rfl,names,came⟩⟩

/-! ### Records of one part -/

/-- The node of the only part of a record, which an object holds under its name and an
    array as its item, if it holds anything. -/
inductive SolePart (name : String) : Node → Option Node → Prop where
  | member (first rest : List (Option String × Node)) {part : Node} (leading : ∀ member ∈ first, Passed [name] member)
    (trailing : ∀ member ∈ rest, Passed [name] member) :
    SolePart name (.object (first ++ (some name,part) :: rest) true) (some part)
  | noMember {members : List (Option String × Node)} (all : ∀ member ∈ members, Passed [name] member) :
    SolePart name (.object members true) none
  | item {part : Node} : SolePart name (.array [part] true) (some part)
  | noItem : SolePart name (.array [] true) none

section SolePart
variable {target : Field α} {before after blank value : α}

/-- The members of a record of one part are passed over but for one that updates it. -/
theorem Record.solePart_of_readMembers {members : List (Option String × Node)} {names : List String}
    (read : readMembers [target] [] before members = .ok (names,after)) :
    SolePart target.name (.object members true) none ∧ after = before ∨
      ∃ part, SolePart target.name (.object members true) (some part) ∧ target.read part before = .ok after := by
  induction members with
  | nil =>
    cases read
    exact .inl ⟨.noMember (List.forall_mem_nil _),rfl⟩
  | cons member rest ih =>
    obtain ⟨label,node⟩ := member
    obtain ⟨name,rfl,⟨unknown,intact,later⟩ | ⟨field,next,known,-,here,later⟩⟩ := readMembers_cons_eq_ok.mp read
    · have passed : Passed [target.name] (some name,node) := ⟨name,rfl,find?_eq_none_iff.mp unknown,intact⟩
      rcases ih later with ⟨sole,rfl⟩ | ⟨part,sole,updated⟩
      · cases sole with
        | noMember all => exact .inl ⟨.noMember (List.forall_mem_cons.mpr ⟨passed,all⟩),rfl⟩
      · refine .inr ⟨part,?_,updated⟩
        cases sole with
        | member first rest leading trailing =>
          exact .member ((some name,node) :: first) rest (List.forall_mem_cons.mpr ⟨passed,leading⟩) trailing
    · obtain ⟨inside,rfl⟩ := name_of_find? known
      obtain rfl : field = target := List.mem_singleton.mp inside
      obtain ⟨others,rfl⟩ := readMembers_of_all_seen (by simp) later
      exact .inr ⟨node,.member [] rest (List.forall_mem_nil _) others,here⟩

/-- An array is read as a record of one part if it holds that part or nothing. -/
theorem Record.readItems_sole_eq_ok (free : target.required = false) {items : List Node} {closed : Bool} :
    readItems closed [target] items before = .ok after ↔
      closed = true ∧ (items = [] ∧ after = before ∨ ∃ item, items = [item] ∧ target.read item before = .ok after) := by
  cases items with
  | nil => cases closed <;> simp [readItems,free,eq_comm]
  | cons item rest =>
    cases update : target.read item before with
    | error fault => simp [readItems,update]
    | ok updated => cases rest <;> cases closed <;> simp [readItems,update]

/-- A record of one part that may be missing is read from a node that has the part, or
    stays blank where it is missing. -/
theorem record_sole_read_eq_ok (free : target.required = false) {node : Node} :
    (Codec.record blank [target]).read node = .ok value ↔ SolePart target.name node none ∧ value = blank ∨
      ∃ part, SolePart target.name node (some part) ∧ target.read part blank = .ok value := by
  have allFree : ∀ field ∈ [target], field.required = false := List.forall_mem_singleton.mpr free
  constructor
  · intro read
    cases node with
    | object members closed =>
      obtain ⟨rfl,names,inner⟩ := (record_object_read_eq_ok allFree).mp read
      exact Record.solePart_of_readMembers inner
    | array items closed =>
      obtain ⟨rfl,⟨rfl,rfl⟩ | ⟨item,rfl,updated⟩⟩ := (Record.readItems_sole_eq_ok free).mp read
      · exact .inl ⟨.noItem,rfl⟩
      · exact .inr ⟨item,.item,updated⟩
    | null | bool | number | string | buried | broken => cases read
  · rintro (⟨sole,rfl⟩ | ⟨part,sole,updated⟩)
    · cases sole with
      | noMember all =>
        exact (record_object_read_eq_ok allFree).mpr ⟨rfl,[],Record.readMembers_of_all_passed all⟩
      | noItem => exact (Record.readItems_sole_eq_ok free).mpr ⟨rfl,.inl ⟨rfl,rfl⟩⟩
    · cases sole with
      | member first rest leading trailing =>
        refine (record_object_read_eq_ok allFree).mpr ⟨rfl,[target.name],?_⟩
        rw [Record.readMembers_passed_append leading]
        refine Record.readMembers_cons_eq_ok.mpr ⟨target.name,rfl,.inr ⟨target,value,by simp,by simp,updated,?_⟩⟩
        exact Record.readMembers_of_all_passed trailing
      | item => exact (Record.readItems_sole_eq_ok free).mpr ⟨rfl,.inr ⟨part,rfl,updated⟩⟩

end SolePart

/-- A node has one part at most: it is what a record reads that takes the part as it is. -/
theorem SolePart.unique {name : String} {node : Node} {first second : Option Node} (one : SolePart name node first)
    (other : SolePart name node second) : first = second := by
  have read {part : Option Node} (sole : SolePart name node part) :
      (Codec.record none [⟨name,false,fun node _ => .ok (some node),fun _ => none⟩]).read node = .ok part := by
    refine (record_sole_read_eq_ok rfl).mpr ?_
    cases part with
    | none => exact .inl ⟨sole,rfl⟩
    | some part => exact .inr ⟨part,sole,rfl⟩
  exact Except.ok.inj ((read one).symm.trans (read other))

end StackBroker.Json
