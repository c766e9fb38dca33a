import StackBroker.Proofs.Projection
import StackBroker.Broker.Message
import StackBroker.Parameters
import Mathlib.Data.List.Defs

/-!
Documents come back. A JSON value that is held as such is kept up to the order of its
members (`Json.toJson?_ofJson`), and every value that was read has them in order
(`Json.ordered_of_toJson?`). The records of the settings, of the catalog and of the
messages come back field by field; null for parameters is read as no parameters, which
mean the same, and what is no part of a document is read as unset. Whatever a type of
documents reads is of the kind that comes back, so that reading settles after one round
(`documents_come_back`).
-/
namespace StackBroker.Json

/-! ### Members in key order -/

mutual
/-- The members of all objects in a value come in strictly increasing key order. -/
def ordered : Json → Bool
  | .null | .bool _ | .number _ | .string _ => true
  | .array items => itemsOrdered items
  | .object members => decide (Ascending members) && membersOrdered members

/-- The members of all objects in some values come in order. -/
def itemsOrdered : List Json → Bool
  | [] => true
  | item :: rest => ordered item && itemsOrdered rest

/-- The members of all objects in the values of some members come in order. -/
def membersOrdered : List (String × Json) → Bool
  | [] => true
  | (_,value) :: rest => ordered value && membersOrdered rest
end

mutual
/-- A value with the members of all its objects put in key order; of two members with
    one name the later stays. -/
def inOrder : Json → Json
  | .array items => .array (itemsInOrder items)
  | .object members => ofMap (StringMap.ofList (membersInOrder members))
  | value => value

def itemsInOrder : List Json → List Json
  | [] => []
  | item :: rest => inOrder item :: itemsInOrder rest

def membersInOrder : List (String × Json) → List (String × Json)
  | [] => []
  | (name,value) :: rest => (name,inOrder value) :: membersInOrder rest
end

theorem itemsOrdered_iff {items : List Json} : itemsOrdered items = true ↔ ∀ item ∈ items, item.ordered = true := by
  induction items with
  | nil => simp [itemsOrdered]
  | cons item rest ih => simp [itemsOrdered,ih]

theorem membersOrdered_iff {members : List (String × Json)} :
    membersOrdered members = true ↔ ∀ entry ∈ members, entry.2.ordered = true := by
  induction members with
  | nil => simp [membersOrdered]
  | cons entry rest ih => simp [membersOrdered,ih]

mutual
/-- A value is kept with its members put in order. -/
theorem toJson?_ofJson : ∀ value : Json, (Node.ofJson value).toJson? = some value.inOrder
  | .null | .bool _ | .number _ | .string _ => rfl
  | .array items => by rw [Node.ofJson,Node.toJson?,toItems?_ofItems items]; rfl
  | .object members => by rw [Node.ofJson,Node.toJson?,toMembers?_ofMembers members]; rfl

theorem toItems?_ofItems : ∀ items : List Json, Node.toItems? (Node.ofItems items) = some (itemsInOrder items)
  | [] => rfl
  | item :: rest => by rw [Node.ofItems,Node.toItems?,toJson?_ofJson item,toItems?_ofItems rest]; rfl

theorem toMembers?_ofMembers : ∀ members : List (String × Json),
    Node.toMembers? (Node.ofMembers members) = some (membersInOrder members)
  | [] => rfl
  | (_,value) :: rest => by
    rw [Node.ofMembers,Node.toMembers?,toJson?_ofJson value,toMembers?_ofMembers rest]; rfl
end

mutual
theorem inOrder_of_ordered : ∀ value : Json, value.ordered = true → value.inOrder = value
  | .null,_ | .bool _,_ | .number _,_ | .string _,_ => rfl
  | .array items,ordered => congrArg Json.array (itemsInOrder_of_ordered items ordered)
  | .object members,ordered => by
    obtain ⟨ascending,inner⟩ : Ascending members ∧ membersOrdered members = true := by
      simpa [Json.ordered] using ordered
    have made : StringMap.ofList members = ⟨members,ascending⟩ := StringMap.ofList_entries ⟨members,ascending⟩
    rw [inOrder,membersInOrder_of_ordered members inner,made,ofMap]

theorem itemsInOrder_of_ordered : ∀ items : List Json, itemsOrdered items = true → itemsInOrder items = items
  | [],_ => rfl
  | item :: rest,ordered => by
    obtain ⟨first,others⟩ : item.ordered = true ∧ itemsOrdered rest = true := by
      simpa [itemsOrdered] using ordered
    rw [itemsInOrder,inOrder_of_ordered item first,itemsInOrder_of_ordered rest others]

theorem membersInOrder_of_ordered : ∀ members : List (String × Json),
    membersOrdered members = true → membersInOrder members = members
  | [],_ => rfl
  | (_,value) :: rest,ordered => by
    obtain ⟨first,others⟩ : value.ordered = true ∧ membersOrdered rest = true := by
      simpa [membersOrdered] using ordered
    rw [membersInOrder,inOrder_of_ordered value first,membersInOrder_of_ordered rest others]
end

mutual
/-- What is kept of a node has its members in order. -/
theorem ordered_of_toJson? : ∀ (node : Node) {value : Json}, node.toJson? = some value → value.ordered = true
  | .null,_,kept | .bool _,_,kept => by cases kept; rfl
  | .number found,_,kept => by
    obtain ⟨_,-,rfl⟩ := Option.map_eq_some_iff.mp kept
    rfl
  | .string found,_,kept => by
    obtain ⟨_,-,rfl⟩ := Option.map_eq_some_iff.mp kept
    rfl
  | .array items true,_,kept => by
    obtain ⟨found,inner,rfl⟩ := Option.map_eq_some_iff.mp kept
    exact ordered_of_toItems? items inner
  | .object members true,_,kept => by
    obtain ⟨found,inner,rfl⟩ := Option.map_eq_some_iff.mp kept
    have all := membersOrdered_iff.mp (ordered_of_toMembers? members inner)
    have entries : membersOrdered (StringMap.ofList found).entries = true :=
      membersOrdered_iff.mpr fun entry member => all entry (StringMap.mem_of_mem_ofList member)
    simp [ofMap,ordered,(StringMap.ofList found).ascending,entries]
  | .array _ false,_,kept | .object _ false,_,kept | .buried _,_,kept | .broken,_,kept => by cases kept

theorem ordered_of_toItems? : ∀ (nodes : List Node) {items : List Json},
    Node.toItems? nodes = some items → itemsOrdered items = true
  | [],_,kept => by cases kept; rfl
  | node :: rest,_,kept => by
    simp only [Node.toItems?,Option.bind_eq_bind,Option.bind_eq_some_iff,Option.some.injEq] at kept
    obtain ⟨first,here,others,there,rfl⟩ := kept
    rw [itemsOrdered,ordered_of_toJson? node here,ordered_of_toItems? rest there,Bool.and_self]

theorem ordered_of_toMembers? : ∀ (nodes : List (Option String × Node)) {members : List (String × Json)},
    Node.toMembers? nodes = some members → membersOrdered members = true
  | [],_,kept => by cases kept; rfl
  | (none,_) :: _,_,kept => by cases kept
  | (some _,node) :: rest,_,kept => by
    simp only [Node.toMembers?,Option.bind_eq_bind,Option.bind_eq_some_iff,Option.some.injEq] at kept
    obtain ⟨first,here,others,there,rfl⟩ := kept
    rw [membersOrdered,ordered_of_toJson? node here,ordered_of_toMembers? rest there,Bool.and_self]
end

/-! ### Nodes of kept values -/

namespace Node

theorem eq_string_of_toJson? {node : Node} {text : String} (kept : node.toJson? = some (.string text)) :
    node = .string (some text) := by
  cases node with
  | string found => simpa [toJson?] using kept
  | array items closed => cases closed <;> simp [toJson?] at kept
  | object members closed => cases closed <;> simp [toJson?,ofMap] at kept
  | _ => simp [toJson?] at kept

theorem eq_array_of_toJson? {node : Node} {items : List Json} (kept : node.toJson? = some (.array items)) :
    ∃ nodes, node = .array nodes true ∧ toItems? nodes = some items := by
  cases node with
  | array nodes closed =>
    cases closed with
    | true => exact ⟨nodes,rfl,by simpa [toJson?] using kept⟩
    | false => simp [toJson?] at kept
  | object members closed => cases closed <;> simp [toJson?,ofMap] at kept
  | _ => simp [toJson?] at kept

theorem eq_object_of_toJson? {node : Node} {written : List (String × Json)} (kept : node.toJson? = some (.object written)) :
    ∃ members found, node = .object members true ∧ toMembers? members = some found ∧
      (StringMap.ofList found).entries = written := by
  cases node with
  | object members closed =>
    cases closed with
    | true =>
      obtain ⟨found,inner,same⟩ := Option.map_eq_some_iff.mp (show (toMembers? members).map _ = _ from kept)
      exact ⟨members,found,rfl,inner,Json.object.inj same⟩
    | false => simp [toJson?] at kept
  | array items closed => cases closed <;> simp [toJson?] at kept
  | _ => simp [toJson?] at kept

/-- A kept member is a member of the node. -/
theorem exists_of_mem_toMembers? {members : List (Option String × Node)} {found : List (String × Json)} {name : String}
    {value : Json} (kept : toMembers? members = some found) (member : (name,value) ∈ found) :
    ∃ node, (some name,node) ∈ members ∧ node.toJson? = some value := by
  induction members generalizing found with
  | nil =>
    cases kept
    cases member
  | cons head rest ih =>
    obtain ⟨label,node⟩ := head
    cases label with
    | none => cases kept
    | some key =>
      simp only [toMembers?,Option.bind_eq_bind,Option.bind_eq_some_iff,Option.some.injEq] at kept
      obtain ⟨first,here,others,there,rfl⟩ := kept
      rcases List.mem_cons.mp member with same | later
      · cases same
        exact ⟨node,List.mem_cons_self,here⟩
      · obtain ⟨source,inside,read⟩ := ih there later
        exact ⟨source,List.mem_cons_of_mem _ inside,read⟩

end Node

/-! ### Codecs of values -/

namespace Codec

theorem json_read_ofJson (value : Json) : json.read (.ofJson value) = .ok value.inOrder := by
  simp only [json,toJson?_ofJson]

theorem ensures_json : json.Ensures fun value => value.ordered = true := fun node value read => by
  simp only [json] at read
  split at read
  · rename_i found kept
    cases read
    exact ordered_of_toJson? node kept
  · cases read

theorem uint32_read_number (value : Int) : uint32.read (.number (some (.integer value))) =
    if 0 ≤ value ∧ value < UInt32.size then .ok (UInt32.ofNat value.toNat) else .error .mismatch := rfl

theorem restores_uint32 : uint32.Restores fun _ => True := fun value shown => by
  have fits : (0 : Int) ≤ value.toNat ∧ (value.toNat : Int) < UInt32.size :=
    ⟨Int.natCast_nonneg _,Int.ofNat_lt.mpr value.toNat_lt⟩
  have written : uint32.write value = .number (.integer value.toNat) := rfl
  rw [readJson,written,Node.ofJson,uint32_read_number,if_pos fits,Int.toNat_natCast,UInt32.ofNat_toNat,true_and,
    Except.ok.injEq,id]

/-- A reader for optional values takes null for none, also where it is a value. -/
def heard : Option Json → Option Json
  | none | some .null => none
  | some value => some value

theorem conveys_heard : json.option.Conveys json.option (fun _ => True) (fun raw => heard (raw.map inOrder)) := by
  intro raw shown
  rw [readJson,option_read_eq_ok,ne_eq,Node.ofJson_eq_null,true_and]
  cases raw with
  | none => simp [Codec.option,heard,eq_comm]
  | some value =>
    have written : json.option.write (some value) = value := rfl
    rw [written,json_read_ofJson]
    cases value <;> simp [heard,inOrder,ofMap,eq_comm]

theorem ensures_heard : json.option.Ensures fun raw => heard (raw.map inOrder) = raw := by
  intro node raw read
  rcases option_read_eq_ok.mp read with ⟨-,rfl⟩ | ⟨apart,value,found,rfl⟩
  · rfl
  · have settled := inOrder_of_ordered value (ensures_json node value found)
    -- only null itself is kept as null, and that was read as none
    have kept : value ≠ .null := by
      rintro rfl
      simp only [json] at found
      split at found
      · rename_i kept same
        cases found
        cases node with
        | null => exact apart rfl
        | array items closed => cases closed <;> simp [Node.toJson?] at same
        | object members closed => cases closed <;> simp [Node.toJson?,ofMap] at same
        | _ => simp [Node.toJson?] at same
      · cases found
    rw [Option.map_some,settled]
    cases value with
    | null => exact absurd rfl kept
    | _ => rfl

theorem heard_of_ordered {raw : Option Json} (ordered : ∀ value ∈ raw, value.ordered = true) :
    heard (raw.map inOrder) = heard raw := by
  cases raw with
  | none => rfl
  | some value => rw [Option.map_some,inOrder_of_ordered value (ordered value rfl)]

/-! ### Documents -/

variable {α : Type}

/-- A field is left out of what is written exactly where it is unset, as in the blank
    record; if it is never left out it may be needed. -/
inductive Omits (blank : α) : Field α → Prop where
  | never {γ : Type} {name : String} {required : Bool} {codec : Codec γ} {get : α → γ} {set : γ → α → α} :
    Omits blank (.make name required codec get set fun _ => false)
  | unset {γ : Type} {name : String} {codec : Codec γ} {get : α → γ} {set : γ → α → α} {leftOut : γ → Bool}
    (exact : ∀ value, leftOut value = true ↔ value = get blank) : Omits blank (.make name false codec get set leftOut)

/-- A codec of records that leaves out exactly what is unset, apart from fields that it
    never leaves out. -/
def OmitsUnset (codec : Codec α) : Prop :=
  ∃ blank fields, codec = Codec.record blank fields ∧ fields.Forall (Omits blank)

/-- Documents of a type come back: what fits is read again from what it is written as, up
    to what is seen of it, only what is unset is left out, and everything that was read,
    wherever it came from, comes back as it is. -/
structure ComesBack (codec : Codec α) (fits : α → Prop) (see : α → α) : Prop where
  back : ∀ value, fits value → codec.readJson (codec.write value) = .ok (see value)
  sparse : codec.OmitsUnset
  settled : ∀ node value, codec.read node = .ok value → codec.readJson (codec.write value) = .ok value

/-- It is enough that what is read fits and is seen as it is. -/
theorem Conveys.comesBack {codec : Codec α} {fits : α → Prop} {see : α → α} (conveys : codec.Conveys codec fits see)
    (ensures : codec.Ensures fun value => fits value ∧ see value = value) (sparse : codec.OmitsUnset) :
    codec.ComesBack fits see where
  back value holds := (conveys value _).mpr ⟨holds,rfl⟩
  sparse := sparse
  settled node value read := (conveys value value).mpr (ensures node value read)

/-- Documents come back up to one part of theirs, which is heard as it is written if the
    members in it come in order. -/
theorem ComesBack.hears {codec : Codec α} (get : α → Option Json) (set : Option Json → α → α)
    (conveys : codec.Conveys codec (fun _ => True) fun value => set (heard ((get value).map inOrder)) value)
    (ensures : codec.Ensures fun value => heard ((get value).map inOrder) = get value)
    (same : ∀ value, set (get value) value = value) (sparse : codec.OmitsUnset) :
    codec.ComesBack (fun value => ∀ part ∈ get value, part.ordered = true) fun value =>
      set (heard (get value)) value where
  back value ordered := (conveys value _).mpr ⟨trivial,congrArg (set · value) (heard_of_ordered ordered)⟩
  sparse := sparse
  settled node value read := (conveys value value).mpr
    ⟨trivial,(congrArg (set · value) (ensures node value read)).trans (same value)⟩

theorem Restores.comesBack {codec : Codec α} {fits : α → Prop} (restores : codec.Restores fits)
    (ensures : codec.Ensures fits) (sparse : codec.OmitsUnset) : codec.ComesBack fits id :=
  Conveys.comesBack restores (fun node value read => ⟨ensures node value read,rfl⟩) sparse

theorem ensures_true {codec : Codec α} : codec.Ensures fun _ => True := fun _ _ _ => trivial

/-! ### Tests for what is unset -/

namespace Omits
variable {γ : Type} {blank : α} {name : String}

theorem text {codec : Codec String} {get : α → String} {set : String → α → α} (unset : get blank = "") :
    Omits blank (.sparse name codec get set String.isEmpty) :=
  .unset fun value => by rw [unset,String.isEmpty_iff]

theorem list {codec : Codec (List γ)} {get : α → List γ} {set : List γ → α → α} (unset : get blank = []) :
    Omits blank (.sparse name codec get set List.isEmpty) :=
  .unset fun value => by rw [unset,List.isEmpty_iff]

theorem map {codec : Codec (StringMap γ)} {get : α → StringMap γ} {set : StringMap γ → α → α}
    (unset : get blank = .empty) : Omits blank (.sparse name codec get set StringMap.isEmpty) :=
  .unset fun value => by rw [unset,StringMap.isEmpty_iff]

theorem option {codec : Codec (Option γ)} {get : α → Option γ} {set : Option γ → α → α} (unset : get blank = none) :
    Omits blank (.sparse name codec get set Option.isNone) :=
  .unset fun value => by rw [unset,Option.isNone_iff_eq_none]

theorem flag {codec : Codec Bool} {get : α → Bool} {set : Bool → α → α} (unset : get blank = false) :
    Omits blank (.sparse name codec get set (!·)) :=
  .unset fun value => by rw [unset,Bool.not_eq_true']

end Omits

end Codec
end StackBroker.Json

namespace StackBroker
open StackBroker.Json (Codec ensures_record conveys_record record_write_ne_null)
open StackBroker.Json.Codec (restores_string restores_strings restores_bool restores_uint32 Omits ensures_true)

/-! ### Settings -/

theorem StackProperties.restores : codec.Restores fun _ => True :=
  conveys_record (by decide) (List.forall_mem_nil _)
    (fun _ =>
      .sparse restores_strings rfl List.isEmpty_iff.mp ⟨trivial,rfl⟩ <|
      .sparse restores_bool rfl (Bool.not_eq_true' _).mp ⟨trivial,rfl⟩ <|
      .sparse restores_strings rfl List.isEmpty_iff.mp ⟨trivial,rfl⟩ <|
      .sparse (restores_string.option nofun) rfl Option.isNone_iff_eq_none.mp ⟨nofun,rfl⟩ <|
      .sparse restores_string.map rfl StringMap.isEmpty_iff.mp ⟨nofun,rfl⟩ <|
      .sparse restores_strings rfl List.isEmpty_iff.mp ⟨trivial,rfl⟩ <|
      .sparse (restores_string.option nofun) rfl Option.isNone_iff_eq_none.mp ⟨nofun,rfl⟩ <|
      .always restores_string rfl <|
      .sparse (restores_uint32.option nofun) rfl Option.isNone_iff_eq_none.mp ⟨nofun,rfl⟩ .done)
    fun _ => by simp

theorem Plan.restores : codec.Restores fun plan => plan.pricesFinite = true :=
  conveys_record (by decide) writes_heads
    (fun _ =>
      .always restores_string rfl <|
      .always restores_string rfl <|
      .always restores_string rfl <|
      .sparse (PlanMetadata.restores.option record_write_ne_null) rfl Option.isNone_iff_eq_none.mp ⟨nofun,rfl⟩ <|
      .always restores_bool rfl <|
      .always StackProperties.restores rfl .done)
    fun _ => by simp [pricesFinite,Option.all_eq_true]

theorem Service.restores : codec.Restores fun service => service.pricesFinite = true :=
  conveys_record (by decide) writes_heads
    (fun _ =>
      .always restores_string rfl <|
      .always restores_string rfl <|
      .always restores_string rfl <|
      .sparse restores_bool rfl (Bool.not_eq_true' _).mp ⟨trivial,rfl⟩ <|
      .sparse restores_strings rfl List.isEmpty_iff.mp ⟨trivial,rfl⟩ <|
      .sparse (ServiceMetadata.restores.option record_write_ne_null) rfl Option.isNone_iff_eq_none.mp ⟨nofun,rfl⟩ <|
      .sparse restores_strings rfl List.isEmpty_iff.mp ⟨trivial,rfl⟩ <|
      .always restores_bool rfl <|
      .sparse Plan.restores.list rfl List.isEmpty_iff.mp ⟨nofun,rfl⟩ <|
      .sparse (DashboardClient.restores.option record_write_ne_null) rfl Option.isNone_iff_eq_none.mp ⟨nofun,rfl⟩
        .done)
    fun _ => by simp [pricesFinite]

theorem Catalog.restores : codec.Restores fun catalog => catalog.pricesFinite = true :=
  conveys_record (by decide) (List.forall_mem_nil _)
    (fun _ => .sparse Service.restores.list rfl List.isEmpty_iff.mp ⟨nofun,rfl⟩ .done)
    fun _ => by simp [pricesFinite]

theorem BrokerSettings.restores : codec.Restores fun settings => settings.catalog.pricesFinite = true :=
  conveys_record (by decide) (List.forall_mem_nil _)
    (fun _ =>
      .always restores_string rfl <|
      .always restores_string rfl <|
      .always restores_bool rfl <|
      .always restores_bool rfl <|
      .always Catalog.restores rfl .done)
    fun _ => by simp

theorem ServerSettings.restores : codec.Restores fun settings => settings.broker.catalog.pricesFinite = true :=
  conveys_record (by decide) (List.forall_mem_nil _)
    (fun _ =>
      .always restores_string rfl <|
      .always restores_string rfl <|
      .always restores_string rfl <|
      .always BrokerSettings.restores rfl .done)
    fun _ => by simp

/-! ### The shown catalog -/

/-- All prices of a shown plan are finite. -/
def ShownPlan.pricesFinite (plan : ShownPlan) : Bool :=
  plan.metadata.all fun metadata => metadata.costs.all Cost.isFinite

def ShownService.pricesFinite (service : ShownService) : Bool := service.plans.all ShownPlan.pricesFinite

def ShownCatalog.pricesFinite (catalog : ShownCatalog) : Bool := catalog.services.all ShownService.pricesFinite

theorem ShownPlan.restores : codec.Restores fun plan => plan.pricesFinite = true :=
  conveys_record (by decide) writes_heads
    (fun _ =>
      .always restores_string rfl <|
      .always restores_string rfl <|
      .always restores_string rfl <|
      .sparse (PlanMetadata.restores.option record_write_ne_null) rfl Option.isNone_iff_eq_none.mp ⟨nofun,rfl⟩ <|
      .always restores_bool rfl .done)
    fun _ => by simp [pricesFinite,Option.all_eq_true]

theorem ShownService.restores : codec.Restores fun service => service.pricesFinite = true :=
  conveys_record (by decide) writes_heads
    (fun _ =>
      .always restores_string rfl <|
      .always restores_string rfl <|
      .always restores_string rfl <|
      .always restores_bool rfl <|
      .sparse restores_strings rfl List.isEmpty_iff.mp ⟨trivial,rfl⟩ <|
      .sparse (ServiceMetadata.restores.option record_write_ne_null) rfl Option.isNone_iff_eq_none.mp ⟨nofun,rfl⟩ <|
      .sparse restores_strings rfl List.isEmpty_iff.mp ⟨trivial,rfl⟩ <|
      .always restores_bool rfl <|
      .always ShownPlan.restores.list rfl <|
      .sparse (DashboardClient.restores.option record_write_ne_null) rfl Option.isNone_iff_eq_none.mp ⟨nofun,rfl⟩
        .done)
    fun _ => by simp [pricesFinite]

theorem ShownCatalog.restores : codec.Restores fun catalog => catalog.pricesFinite = true :=
  conveys_record (by decide) (List.forall_mem_nil _)
    (fun _ => .always ShownService.restores.list rfl .done)
    fun _ => by simp [pricesFinite]

theorem ShownPlan.ensures_finite : codec.Ensures fun plan => plan.pricesFinite = true := by
  refine ensures_record rfl ?_
  simp only [List.forall_mem_cons]
  exact ⟨.other fun _ _ kept => kept,.other fun _ _ kept => kept,.other fun _ _ kept => kept,
    .made PlanMetadata.ensures_finite.option fun _ _ finite _ => (Option.all_eq_true ..).mpr finite,
    .other fun _ _ kept => kept,List.forall_mem_nil _⟩

theorem ShownService.ensures_finite : codec.Ensures fun service => service.pricesFinite = true := by
  refine ensures_record rfl ?_
  simp only [List.forall_mem_cons]
  exact ⟨.other fun _ _ kept => kept,.other fun _ _ kept => kept,.other fun _ _ kept => kept,
    .other fun _ _ kept => kept,.other fun _ _ kept => kept,.other fun _ _ kept => kept,
    .other fun _ _ kept => kept,.other fun _ _ kept => kept,
    .made ShownPlan.ensures_finite.list fun _ _ finite _ => List.all_eq_true.mpr finite,
    .other fun _ _ kept => kept,List.forall_mem_nil _⟩

theorem ShownCatalog.ensures_finite : codec.Ensures fun catalog => catalog.pricesFinite = true := by
  refine ensures_record rfl ?_
  simp only [List.forall_mem_cons]
  exact ⟨.made ShownService.ensures_finite.list fun _ _ finite _ => List.all_eq_true.mpr finite,List.forall_mem_nil _⟩

end StackBroker

namespace StackBroker.Broker
open StackBroker.Json (Codec ensures_record conveys_record record_write_ne_null)
open StackBroker.Json.Codec (restores_string conveys_heard ensures_heard heard heard_of_ordered ensures_true)

/-! ### Messages -/

theorem ProvisionDetails.conveys : codec.Conveys codec (fun _ => True)
    fun details => { details with parameters := heard (details.parameters.map Json.inOrder) } :=
  conveys_record (by decide) (List.forall_mem_nil _)
    (fun _ =>
      .always restores_string rfl <|
      .always restores_string rfl <|
      .always restores_string rfl <|
      .always restores_string rfl <|
      .sparse conveys_heard rfl Option.isNone_iff_eq_none.mp ⟨trivial,rfl⟩ .done)
    fun _ => by simp

theorem PreviousValues.restores : codec.Restores fun _ => True :=
  conveys_record (by decide) (List.forall_mem_nil _)
    (fun _ =>
      .always restores_string rfl <|
      .always restores_string rfl <|
      .always restores_string rfl <|
      .always restores_string rfl .done)
    fun _ => by simp

theorem UpdateDetails.conveys : codec.Conveys codec (fun _ => True)
    fun details => { details with parameters := heard (details.parameters.map Json.inOrder) } :=
  conveys_record (by decide) (List.forall_mem_nil _)
    (fun _ =>
      .always restores_string rfl <|
      .always restores_string rfl <|
      .sparse conveys_heard rfl Option.isNone_iff_eq_none.mp ⟨trivial,rfl⟩ <|
      .sparse (PreviousValues.restores.option record_write_ne_null) rfl Option.isNone_iff_eq_none.mp ⟨nofun,rfl⟩
        .done)
    fun _ => by simp

theorem DeprovisionDetails.restores : codec.Restores fun _ => True :=
  Json.restores_texts (by decide) fun _ => rfl

theorem BindDetails.conveys : codec.Conveys codec (fun _ => True)
    fun details => { details with parameters := heard (details.parameters.map Json.inOrder) } :=
  conveys_record (by decide) (List.forall_mem_nil _)
    (fun _ =>
      .always restores_string rfl <|
      .always restores_string rfl <|
      .always restores_string rfl <|
      .sparse conveys_heard rfl Option.isNone_iff_eq_none.mp ⟨trivial,rfl⟩ .done)
    fun _ => by simp

theorem UnbindDetails.restores : codec.Restores fun _ => True :=
  Json.restores_texts (by decide) fun _ => rfl

theorem ProvisioningResponse.conveys :
    codec.Conveys codec (fun _ => True) fun response => { response with isAsync := false } :=
  conveys_record (by decide) (List.forall_mem_nil _)
    (fun _ => .sparse (restores_string.option nofun) rfl Option.isNone_iff_eq_none.mp ⟨nofun,rfl⟩ .done)
    fun _ => by simp

theorem OperationResponse.conveys :
    codec.Conveys codec (fun _ => True) fun response => { response with isAsync := false } :=
  conveys_record (by decide) (List.forall_mem_nil _) (fun _ => .done) fun _ => .rfl

theorem BindingResponse.restores : codec.Restores fun _ => True :=
  conveys_record (by decide) (List.forall_mem_singleton.mpr .here)
    (fun _ => .always restores_string.map rfl .done)
    fun _ => by simp

theorem OperationState.restores : codec.Restores fun _ => True := by
  have read : ∀ state, codec.readJson (codec.write state) = .ok state := by
    intro state
    cases state <;> rfl
  intro state shown
  rw [read,true_and,Except.ok.injEq,id]

theorem LastOperationResponse.restores : codec.Restores fun _ => True :=
  conveys_record (by decide) (List.forall_mem_singleton.mpr .here)
    (fun _ => .always OperationState.restores rfl <| .text rfl rfl .done)
    fun _ => by simp

theorem ProvisionDetails.ensures_heard :
    codec.Ensures fun details => heard (details.parameters.map Json.inOrder) = details.parameters := by
  refine ensures_record rfl ?_
  simp only [List.forall_mem_cons]
  exact ⟨.other fun _ _ kept => kept,.other fun _ _ kept => kept,.other fun _ _ kept => kept,
    .other fun _ _ kept => kept,.made Codec.ensures_heard fun _ _ same _ => same,List.forall_mem_nil _⟩

theorem UpdateDetails.ensures_heard :
    codec.Ensures fun details => heard (details.parameters.map Json.inOrder) = details.parameters := by
  refine ensures_record rfl ?_
  simp only [List.forall_mem_cons]
  exact ⟨.other fun _ _ kept => kept,.other fun _ _ kept => kept,.made Codec.ensures_heard fun _ _ same _ => same,
    .other fun _ _ kept => kept,List.forall_mem_nil _⟩

theorem BindDetails.ensures_heard :
    codec.Ensures fun details => heard (details.parameters.map Json.inOrder) = details.parameters := by
  refine ensures_record rfl ?_
  simp only [List.forall_mem_cons]
  exact ⟨.other fun _ _ kept => kept,.other fun _ _ kept => kept,.other fun _ _ kept => kept,
    .made Codec.ensures_heard fun _ _ same _ => same,List.forall_mem_nil _⟩

/-- Whether work goes on is no part of what is read. -/
theorem ProvisioningResponse.ensures_sync : codec.Ensures fun response => response.isAsync = false := by
  refine ensures_record rfl ?_
  simp only [List.forall_mem_cons]
  exact ⟨.other fun _ _ kept => kept,List.forall_mem_nil _⟩

theorem OperationResponse.ensures_sync : codec.Ensures fun response => response.isAsync = false :=
  ensures_record rfl (List.forall_mem_nil _)

end StackBroker.Broker

namespace StackBroker
open StackBroker.Broker
open StackBroker.Json (Codec)
open StackBroker.Json.Codec (Omits ensures_true heard)

/-! ### All documents -/

/-- Null gives the parameters that none give. -/
theorem Parameters.decode_heard (raw : Option Json) : decode (heard raw) = decode raw := by
  cases raw with
  | none => rfl
  | some value => cases value <;> rfl

/-- Reading what was written. Settings, catalogs and their parts come back if their
    prices are finite; questions come back up to parameters that are null, which mean
    none; answers come back, except that whether work goes on is no part of them. -/
structure DocumentsComeBack : Prop where
  serverSettings : ServerSettings.codec.ComesBack (fun settings => settings.broker.catalog.pricesFinite = true) id
  brokerSettings : BrokerSettings.codec.ComesBack (fun settings => settings.catalog.pricesFinite = true) id
  catalog : Catalog.codec.ComesBack (fun catalog => catalog.pricesFinite = true) id
  service : Service.codec.ComesBack (fun service => service.pricesFinite = true) id
  plan : Plan.codec.ComesBack (fun plan => plan.pricesFinite = true) id
  stackProperties : StackProperties.codec.ComesBack (fun _ => True) id
  serviceMetadata : ServiceMetadata.codec.ComesBack (fun _ => True) id
  planMetadata : PlanMetadata.codec.ComesBack (fun metadata => metadata.costs.all Cost.isFinite = true) id
  cost : Cost.codec.ComesBack (fun cost => cost.isFinite = true) id
  dashboardClient : DashboardClient.codec.ComesBack (fun _ => True) id
  shownCatalog : ShownCatalog.codec.ComesBack (fun catalog => catalog.pricesFinite = true) id
  shownService : ShownService.codec.ComesBack (fun service => service.pricesFinite = true) id
  shownPlan : ShownPlan.codec.ComesBack (fun plan => plan.pricesFinite = true) id
  provision : ProvisionDetails.codec.ComesBack (fun details => ∀ value ∈ details.parameters, value.ordered = true)
    fun details => { details with parameters := heard details.parameters }
  update : UpdateDetails.codec.ComesBack (fun details => ∀ value ∈ details.parameters, value.ordered = true)
    fun details => { details with parameters := heard details.parameters }
  bind : BindDetails.codec.ComesBack (fun details => ∀ value ∈ details.parameters, value.ordered = true)
    fun details => { details with parameters := heard details.parameters }
  null : ∀ raw, Parameters.decode (heard raw) = Parameters.decode raw
  previousValues : PreviousValues.codec.ComesBack (fun _ => True) id
  deprovision : DeprovisionDetails.codec.ComesBack (fun _ => True) id
  unbind : UnbindDetails.codec.ComesBack (fun _ => True) id
  provisioned : ProvisioningResponse.codec.ComesBack (fun _ => True) fun response => { response with isAsync := false }
  operated : OperationResponse.codec.ComesBack (fun _ => True) fun response => { response with isAsync := false }
  bound : BindingResponse.codec.ComesBack (fun _ => True) id
  lastOperation : LastOperationResponse.codec.ComesBack (fun _ => True) id

theorem documents_come_back : DocumentsComeBack where
  serverSettings := ServerSettings.restores.comesBack ServerSettings.ensures_finite
    ⟨_,_,rfl,.never,.never,.never,.never⟩
  brokerSettings := BrokerSettings.restores.comesBack BrokerSettings.ensures_finite
    ⟨_,_,rfl,.never,.never,.never,.never,.never⟩
  catalog := Catalog.restores.comesBack Catalog.ensures_finite ⟨_,_,rfl,.list rfl⟩
  service := Service.restores.comesBack Service.ensures_finite
    ⟨_,_,rfl,.never,.never,.never,.flag rfl,.list rfl,.option rfl,.list rfl,.never,.list rfl,.option rfl⟩
  plan := Plan.restores.comesBack Plan.ensures_finite ⟨_,_,rfl,.never,.never,.never,.option rfl,.never,.never⟩
  stackProperties := StackProperties.restores.comesBack ensures_true
    ⟨_,_,rfl,.list rfl,.flag rfl,.list rfl,.option rfl,.map rfl,.list rfl,.option rfl,.never,.option rfl⟩
  serviceMetadata := ServiceMetadata.restores.comesBack ensures_true
    ⟨_,_,rfl,.text rfl,.text rfl,.text rfl,.text rfl,.text rfl,.text rfl⟩
  planMetadata := PlanMetadata.restores.comesBack PlanMetadata.ensures_finite ⟨_,_,rfl,.list rfl,.list rfl,.text rfl⟩
  cost := Cost.restores.comesBack Cost.ensures_finite ⟨_,_,rfl,.map rfl,.text rfl⟩
  dashboardClient := DashboardClient.restores.comesBack ensures_true ⟨_,_,rfl,.text rfl,.text rfl,.text rfl⟩
  shownCatalog := ShownCatalog.restores.comesBack ShownCatalog.ensures_finite ⟨_,_,rfl,.never⟩
  shownService := ShownService.restores.comesBack ShownService.ensures_finite
    ⟨_,_,rfl,.never,.never,.never,.never,.list rfl,.option rfl,.list rfl,.never,.never,.option rfl⟩
  shownPlan := ShownPlan.restores.comesBack ShownPlan.ensures_finite
    ⟨_,_,rfl,.never,.never,.never,.option rfl,.never⟩
  provision := .hears ProvisionDetails.parameters (fun raw details => { details with parameters := raw }) ProvisionDetails.conveys
    ProvisionDetails.ensures_heard (fun _ => rfl) ⟨_,_,rfl,.never,.never,.never,.never,.option rfl⟩
  update := .hears UpdateDetails.parameters (fun raw details => { details with parameters := raw }) UpdateDetails.conveys
    UpdateDetails.ensures_heard (fun _ => rfl) ⟨_,_,rfl,.never,.never,.option rfl,.option rfl⟩
  bind := .hears BindDetails.parameters (fun raw details => { details with parameters := raw }) BindDetails.conveys
    BindDetails.ensures_heard (fun _ => rfl) ⟨_,_,rfl,.never,.never,.never,.option rfl⟩
  null := Parameters.decode_heard
  previousValues := PreviousValues.restores.comesBack ensures_true ⟨_,_,rfl,.never,.never,.never,.never⟩
  deprovision := DeprovisionDetails.restores.comesBack ensures_true ⟨_,_,rfl,.never,.never⟩
  unbind := UnbindDetails.restores.comesBack ensures_true ⟨_,_,rfl,.never,.never⟩
  provisioned := by
    refine ProvisioningResponse.conveys.comesBack ?_ ⟨_,_,rfl,.option rfl⟩
    exact fun node response read => ⟨trivial,by rw [← ProvisioningResponse.ensures_sync node response read]⟩
  operated := by
    refine OperationResponse.conveys.comesBack ?_ ⟨_,_,rfl,trivial⟩
    exact fun node response read => ⟨trivial,by rw [← OperationResponse.ensures_sync node response read]⟩
  bound := BindingResponse.restores.comesBack ensures_true ⟨_,_,rfl,.never⟩
  lastOperation := LastOperationResponse.restores.comesBack ensures_true ⟨_,_,rfl,.never,.text rfl⟩

/-- A plan that sets what may be missing to what is empty: its metadata, and two of its
    stack properties. -/
def barelyPlan : Plan :=
  ⟨"s","s","d",some .blank,true,{ StackProperties.blank with onFailure := some "", stackPolicyUrl := some "" }⟩

/-- Empty optional values come back as such, null parameters do not, and a provision that
    goes on is read as one that does not. -/
theorem documents_come_back_barely :
    Plan.codec.readJson (Plan.codec.write barelyPlan) = .ok barelyPlan ∧
      ProvisionDetails.codec.readJson (ProvisionDetails.codec.write ⟨"db","s","","",some .null⟩) =
        .ok ⟨"db","s","","",none⟩ ∧
      ProvisioningResponse.codec.readJson (ProvisioningResponse.codec.write ⟨some "",true⟩) = .ok ⟨some "",false⟩ := by
  refine ⟨documents_come_back.plan.back barelyPlan rfl,?_,documents_come_back.provisioned.back _ trivial⟩
  exact documents_come_back.provision.back ⟨"db","s","","",some .null⟩ (by decide)

end StackBroker
