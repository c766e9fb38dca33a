import StackBroker.Proofs.Documents
import StackBroker.Proofs.Scanning
import StackBroker.Stack.CommandLine

/-!
Parameters and tags on their way to the remote service and back. A map is sent as a
document of its entries, in key order (`WritesPairs`). Read again the document gives these
entries, and thus the map; it has no control characters, so that a process can be started
with it; and no other map has the same document (`WritesPairs.tells_entries`). A listing
that echoes under the name of a stack what was sent describes the parameters and the tags
that were sent (`describe_of_echo`), whatever else it says.
-/
namespace StackBroker.Stack
open StackBroker.Json (Codec Node scanText conveys_record)
open StackBroker.Json.Codec (restores_string restores_strings restores_bool restores_uint32)

/-! ### Entries -/

/-- Entries are written as objects of two strings, their keys and their values, and are
    read from these in whatever order the two come. -/
structure WritesPairs {α : Type} (codec : Codec α) (pair : α → String × String) (entry : String × String → α) : Prop where
  restores : codec.Restores fun _ => True
  pair_entry : ∀ item, pair (entry item) = item
  plain : ∀ value room, (codec.write value).plain (room+1) = true
  ordered : ∀ value, (codec.write value).ordered = true
  unordered : ∀ node value found, node.toJson? = some (codec.write value) → codec.read node = .ok found → found = value

/-- A string is read wherever it stands in an object. -/
theorem string_of_present {members : List (Option String × Node)} {kept : List (String × Json)} {key text part : String}
    (inner : Node.toMembers? members = some kept) (member : (key,.string text) ∈ (StringMap.ofList kept).entries)
    (present : ∀ content, (some key,content) ∈ members → Codec.string.read content = .ok part) : part = text := by
  obtain ⟨node,inside,string⟩ := Node.exists_of_mem_toMembers? inner (StringMap.mem_of_mem_ofList member)
  have read := present node inside
  rw [Node.eq_string_of_toJson? string] at read
  exact (Except.ok.inj read).symm

/-- Records of two strings, the first of the lesser name, that are determined by these. -/
theorem writesPairs_record {α : Type} {blank : α} {keyName valueName : String} {key value : α → String}
    {setKey setValue : String → α → α} {codec : Codec α}
    (form : codec = Codec.record blank
      [.optional keyName Codec.string key setKey,.optional valueName Codec.string value setValue])
    (restores : codec.Restores fun _ => True) (apart : keyName < valueName)
    (ext : ∀ first second, key first = key second → value first = value second → first = second)
    (key_setKey : ∀ text record, key (setKey text record) = text := by intros; rfl)
    (key_setValue : ∀ text record, key (setValue text record) = key record := by intros; rfl)
    (value_setValue : ∀ text record, value (setValue text record) = text := by intros; rfl)
    (value_setKey : ∀ text record, value (setKey text record) = value record := by intros; rfl) :
    WritesPairs codec (fun entry => (key entry,value entry)) fun (first,second) => setValue second (setKey first blank) where
  restores := restores
  pair_entry item := by rw [key_setValue,key_setKey,value_setValue]
  plain record room := by subst form; rfl
  ordered record := by
    have ascending : Ascending [(keyName,Json.string (key record)),(valueName,.string (value record))] := by
      simpa [Ascending] using apart
    subst form
    exact (Bool.and_eq_true ..).mpr ⟨decide_eq_true ascending,rfl⟩
  unordered node entry found same read := by
    subst form
    have differ : keyName ≠ valueName := fun same => String.lt_irrefl _ (same ▸ apart)
    obtain ⟨members,kept,rfl,inner,entries⟩ := Node.eq_object_of_toJson? same
    -- both strings are found by their names, in whatever order these come
    obtain ⟨keys,-⟩ := Json.read_part read Json.find?_first_text key_setKey <| .here <| .other .done key_setValue
    obtain ⟨values,-⟩ := Json.read_part read (Json.find?_second_text differ) value_setValue <|
      .other (.here .done) value_setKey
    exact ext _ _ (string_of_present inner (entries ▸ .head _) keys)
      (string_of_present inner (entries ▸ .tail _ (.head _)) values)

theorem ParameterEntry.restores : codec.Restores fun _ => True :=
  Json.restores_texts (by decide) fun _ => rfl

theorem ParameterEntry.writesPairs :
    WritesPairs codec (fun entry => (entry.key,entry.value)) fun (key,value) => ⟨key,value⟩ :=
  writesPairs_record rfl restores (by decide) fun ⟨_,_⟩ ⟨_,_⟩ key value => ParameterEntry.mk.injEq .. ▸ ⟨key,value⟩

theorem TagEntry.restores : codec.Restores fun _ => True :=
  Json.restores_texts (by decide) fun _ => rfl

theorem TagEntry.writesPairs :
    WritesPairs codec (fun entry => (entry.key,entry.value)) fun (key,value) => ⟨key,value⟩ :=
  writesPairs_record rfl restores (by decide) fun ⟨_,_⟩ ⟨_,_⟩ key value => TagEntry.mk.injEq .. ▸ ⟨key,value⟩

/-! ### Documents of entries -/

/-- Documents of entries tell maps apart. The entries are read as they stand in the
    map, each key once and in increasing order; made into a map again they are the map,
    also where the document comes back with its members in another order. The document
    has no control characters, with which no process could be started. -/
structure TellsEntries {α : Type} (codec : Codec α) (pair : α → String × String) (document : StringMap String → String) :
    Prop where
  read : ∀ map, ∃ entries, codec.list.readText (document map) = .ok entries ∧ entries.map pair = map.entries ∧
    Ascending (entries.map pair) ∧ StringMap.ofList (entries.map pair) = map
  unordered : ∀ map node entries, node.toJson? = (scanText (document map)).root.toJson? →
    codec.list.read node = .ok entries → StringMap.ofList (entries.map pair) = map
  visible : ∀ map, ∀ c ∈ (document map).toList, 0x20 ≤ c.toNat
  startable : ∀ map, CommandLine.hasNul [document map] = false
  injective : ∀ first second, document first = document second → first = second

namespace WritesPairs
variable {α : Type} {codec : Codec α} {pair : α → String × String} {entry : String × String → α}
  (writes : WritesPairs codec pair entry)
include writes

theorem map_pair (map : StringMap String) : (map.entries.map entry).map pair = map.entries := by
  rw [List.map_map]
  exact (List.map_congr_left fun item _ => writes.pair_entry item).trans (List.map_id _)

theorem plain_list (values : List α) (room : Nat) : (codec.list.write values).plain (room+2) = true :=
  Json.plain_list fun value _ => writes.plain value room

theorem readText (map : StringMap String) :
    codec.list.readText (codec.list.writeText (map.entries.map entry)) = .ok (map.entries.map entry) := by
  rw [Codec.readText_writeText codec.list (writes.plain_list _ 125)]
  exact (writes.restores.list _ _).mpr ⟨by simp,rfl⟩

theorem eq_of_readItems {nodes : List Node} {values found : List α}
    (kept : Node.toItems? nodes = some (values.map codec.write)) (read : Codec.readItems codec.read nodes = .ok found) :
    found = values := by
  induction nodes generalizing values found with
  | nil =>
    cases read
    cases values with
    | nil => rfl
    | cons value rest => cases kept
  | cons node rest ih =>
    obtain ⟨first,others,here,there,rfl⟩ := Codec.readItems_cons_eq_ok.mp read
    simp only [Node.toItems?,Option.bind_eq_bind,Option.bind_eq_some_iff,Option.some.injEq] at kept
    obtain ⟨head,headKept,tail,tailKept,same⟩ := kept
    cases values with
    | nil => cases same
    | cons value later =>
      cases same
      rw [writes.unordered node value first headKept here,ih tailKept there]

theorem tells_entries : TellsEntries codec pair fun map => codec.list.writeText (map.entries.map entry) := by
  have visible (map : StringMap String) :
      ∀ c ∈ (codec.list.writeText (map.entries.map entry)).toList, 0x20 ≤ c.toNat := by
    rw [Codec.writeText,Json.text,String.toList_ofList]
    exact Json.control_not_mem_print _ _ (writes.plain_list _ 0)
  refine ⟨fun map => ?_,fun map node found kept read => ?_,visible,fun map => ?_,fun first second equal => ?_⟩
  · refine ⟨_,writes.readText map,writes.map_pair map,?_,?_⟩
    · rw [writes.map_pair]
      exact map.ascending
    · rw [writes.map_pair,StringMap.ofList_entries]
  · -- what is kept of the node is what was written, entry by entry
    have ordered : (codec.list.write (map.entries.map entry)).ordered = true :=
      Json.itemsOrdered_iff.mpr (List.forall_mem_map.mpr fun value _ => writes.ordered value)
    rw [Codec.root_writeText (writes.plain_list _ 125),Json.toJson?_ofJson,Json.inOrder_of_ordered _ ordered] at kept
    obtain ⟨nodes,rfl,items⟩ := Node.eq_array_of_toJson? kept
    obtain ⟨_,same,inner⟩ := Codec.list_read_eq_ok.mp read
    cases same
    rw [writes.eq_of_readItems items inner,writes.map_pair,StringMap.ofList_entries]
  · have absent : '\x00' ∉ (codec.list.writeText (map.entries.map entry)).toList := fun member =>
      absurd (visible map _ member) (by decide)
    simp [CommandLine.hasNul,absent]
  · have same := writes.readText first
    rw [equal,writes.readText second,Except.ok.injEq] at same
    exact StringMap.ext_entries (by rw [← writes.map_pair first,← same,writes.map_pair])

end WritesPairs

theorem parameters_tells :
    TellsEntries ParameterEntry.codec (fun entry => (entry.key,entry.value)) Arguments.parametersText :=
  ParameterEntry.writesPairs.tells_entries

theorem tags_tells : TellsEntries TagEntry.codec (fun entry => (entry.key,entry.value)) Arguments.tagsText :=
  TagEntry.writesPairs.tells_entries

/-! ### Echoes -/

/-- A described stack echoes the document of a map under a name, with the members of its
    entries in any order. If the map is empty, no document was sent, and the name may be
    missing. -/
def Echoes (members : List (Option String × Node)) (name document : String) (map : StringMap String) : Prop :=
  (∃ node, (some name,node) ∈ members ∧ node.toJson? = (scanText document).root.toJson?) ∨
    map.isEmpty = true ∧ ∀ node, (some name,node) ∉ members

/-- Entries that were read from an echo are those of the map. -/
theorem ofList_of_echoes {α : Type} {codec : Codec α} {pair : α → String × String} {document : StringMap String → String}
    (tells : TellsEntries codec pair document) {members : List (Option String × Node)} {name : String}
    {map : StringMap String} {entries : List α} (echoes : Echoes members name (document map) map)
    (present : ∀ node, (some name,node) ∈ members → codec.list.read node = .ok entries)
    (absent : (∀ node, (some name,node) ∉ members) → entries = []) : StringMap.ofList (entries.map pair) = map := by
  rcases echoes with ⟨node,member,kept⟩ | ⟨none,missing⟩
  · exact tells.unordered map node entries kept (present node member)
  · rw [absent missing,StringMap.isEmpty_iff.mp none]
    rfl

namespace ListedStack
variable {members : List (Option String × Node)} {stack : ListedStack}

theorem name_of_read {name : String} (read : codec.read (.object members true) = .ok stack)
    (member : (some "StackName",.string (some name)) ∈ members) : stack.name = name := by
  obtain ⟨present,-⟩ := Json.read_part read rfl (fun _ _ => rfl) <|
    .other <| .here <| .other <| .other <| .other <| .other <| .other <| .other <| .other <| .other <| .other .done
  exact (Except.ok.inj (present _ member)).symm

theorem parameters_of_read {map : StringMap String} (read : codec.read (.object members true) = .ok stack)
    (echoes : Echoes members "Parameters" (Arguments.parametersText map) map) : stack.details.parameters = map := by
  obtain ⟨present,absent⟩ := Json.read_part read rfl (fun _ _ => rfl) <|
    .other <| .other <| .other <| .here <| .other <| .other <| .other <| .other <| .other <| .other <| .other .done
  exact ofList_of_echoes parameters_tells echoes present absent

theorem tags_of_read {map : StringMap String} (read : codec.read (.object members true) = .ok stack)
    (echoes : Echoes members "Tags" (Arguments.tagsText map) map) : stack.details.tags = map := by
  obtain ⟨present,absent⟩ := Json.read_part read rfl (fun _ _ => rfl) <|
    .other <| .other <| .other <| .other <| .other <| .other <| .other <| .other <| .other <| .other <| .here .done
  exact ofList_of_echoes tags_tells echoes present absent

end ListedStack

/-- A text is a listing in which the first stack of some name echoes the documents of
    some parameters and tags: what comes before it and after it, and its members. -/
structure Echo (text name : String) (parameters tags : StringMap String) (before after : List Node)
    (members : List (Option String × Node)) : Prop where
  readable : ∃ listing, Listing.codec.readText text = .ok listing
  listed : ∃ top, (scanText text).root = .object top true ∧
    (some "Stacks",.array (before ++ .object members true :: after) true) ∈ top
  first : ∀ node ∈ before, ∀ stack, ListedStack.codec.read node = .ok stack → stack.name ≠ name
  named : (some "StackName",.string (some name)) ∈ members
  parameters : Echoes members "Parameters" (Arguments.parametersText parameters) parameters
  tags : Echoes members "Tags" (Arguments.tagsText tags) tags

theorem describe_of_echo {text name : String} {parameters tags : StringMap String} {before after : List Node}
    {members : List (Option String × Node)} (echo : Echo text name parameters tags before after members) :
    ∃ details, Listing.describe text name = .ok details ∧ details.name = name ∧ details.parameters = parameters ∧
      details.tags = tags := by
  obtain ⟨listing,read⟩ := echo.readable
  obtain ⟨top,root,member⟩ := echo.listed
  have found := (Codec.readText_eq_ok.mp read).1
  rw [root] at found
  obtain ⟨present,-⟩ := Json.read_part found rfl (fun _ _ => rfl) <| .here .done
  obtain ⟨items,same,listed⟩ := Codec.list_read_eq_ok.mp (present _ member)
  cases same
  obtain ⟨earlier,later,left,right,parts⟩ := Codec.readItems_append_eq_ok.mp listed
  obtain ⟨stack,others,here,-,rfl⟩ := Codec.readItems_cons_eq_ok.mp right
  have named : stack.name = name := ListedStack.name_of_read here echo.named
  have apart : ∀ other ∈ earlier, other.name ≠ name := fun other inside => by
    obtain ⟨node,source,read⟩ := Codec.exists_of_mem_readItems left inside
    exact echo.first node source other read
  have chosen : listing.find? name = some stack := by
    rw [Listing.find?,parts,List.find?_append,List.find?_eq_none.mpr (by simpa using apart),Option.none_or,
      List.find?_cons_of_pos (by simpa using named)]
  refine ⟨stack.details,?_,named,ListedStack.parameters_of_read here echo.parameters,
    ListedStack.tags_of_read here echo.tags⟩
  rw [Listing.describe,read]
  simp only [chosen]

/-! ### Listings that were written -/

theorem OutputEntry.restores : codec.Restores fun _ => True :=
  Json.restores_texts (by decide) fun _ => rfl

theorem ListedStack.restores : codec.Restores fun _ => True :=
  conveys_record (by decide) (List.forall_mem_nil _)
    (fun _ =>
      .always restores_string rfl <|
      .always restores_string rfl <|
      .always restores_string rfl <|
      .always ParameterEntry.restores.list rfl <|
      .always OutputEntry.restores.list rfl <|
      .always restores_strings rfl <|
      .always restores_bool rfl <|
      .always restores_strings rfl <|
      .always restores_string rfl <|
      .always (restores_uint32.option nofun) rfl <|
      .always TagEntry.restores.list rfl .done)
    fun _ => by simp

theorem Listing.restores : codec.Restores fun _ => True :=
  conveys_record (by decide) (List.forall_mem_nil _) (fun _ => .always ListedStack.restores.list rfl .done)
    fun _ => by simp

/-- A stack without a timeout is written without numbers. -/
theorem ListedStack.plain_write {stack : ListedStack} (untimed : stack.timeoutInMinutes = none) (room : Nat) :
    (codec.write stack).plain (room+3) = true := by
  have timeout : (Codec.uint32.option.write stack.timeoutInMinutes).plain (room+2) = true := by
    rw [untimed]
    rfl
  exact Json.plain_record ⟨.made rfl,.made rfl,.made rfl,.made (Json.plain_list fun _ _ => rfl),
    .made (Json.plain_list fun _ _ => rfl),.made (Json.plain_list fun _ _ => rfl),.made rfl,
    .made (Json.plain_list fun _ _ => rfl),.made rfl,.made timeout,.made (Json.plain_list fun _ _ => rfl)⟩

/-- A listing of one stack with some parameters and tags and nothing else. -/
def echoOf (name : String) (parameters tags : StringMap String) : Listing :=
  ⟨[{ ListedStack.blank with
    name := name
    parameters := parameters.entries.map fun (key,value) => ⟨key,value⟩
    tags := tags.entries.map fun (key,value) => ⟨key,value⟩ }]⟩

/-- All parameters and tags have an echo. -/
theorem echo_echoOf (name : String) (parameters tags : StringMap String) :
    ∃ members, Echo (Listing.codec.writeText (echoOf name parameters tags)) name parameters tags [] [] members := by
  have plain : (Listing.codec.write (echoOf name parameters tags)).plain Json.Scanner.depthLimit = true := by
    refine Json.plain_record (.made (Json.plain_list fun stack inside => stack.plain_write ?_ 122))
    rw [List.mem_singleton.mp inside]
    rfl
  have readable : Listing.codec.readText (Listing.codec.writeText (echoOf name parameters tags)) =
      .ok (echoOf name parameters tags) := by
    rw [Codec.readText_writeText Listing.codec plain]
    exact (Listing.restores _ _).mpr ⟨trivial,rfl⟩
  have parametersRoot :
      (Node.ofJson (ParameterEntry.codec.list.write (parameters.entries.map fun (key,value) => ⟨key,value⟩))).toJson? =
        (scanText (Arguments.parametersText parameters)).root.toJson? := by
    rw [Arguments.parametersText,Codec.root_writeText (Json.plain_list fun _ _ => rfl)]
  have tagsRoot : (Node.ofJson (TagEntry.codec.list.write (tags.entries.map fun (key,value) => ⟨key,value⟩))).toJson? =
      (scanText (Arguments.tagsText tags)).root.toJson? := by
    rw [Arguments.tagsText,Codec.root_writeText (Json.plain_list fun _ _ => rfl)]
  refine ⟨_,⟨_,readable⟩,⟨_,Codec.root_writeText plain,List.mem_singleton.mpr rfl⟩,List.forall_mem_nil _,
    Json.Record.mem_ofMembers (.tail _ (.head _)),.inl ⟨_,Json.Record.mem_ofMembers ?_,parametersRoot⟩,
    .inl ⟨_,Json.Record.mem_ofMembers ?_,tagsRoot⟩⟩
  · exact List.mem_of_getElem? (i := 3) rfl
  · exact List.mem_of_getElem? (i := 10) rfl

/-! ### Parameters and tags -/

/-- Documents of parameters and of tags tell maps apart. A listing that echoes them
    describes the parameters and the tags that they were made of, and there is such a
    listing for all of them. -/
structure TellsWhatWasSent : Prop where
  parameters : TellsEntries ParameterEntry.codec (fun entry => (entry.key,entry.value)) Arguments.parametersText
  tags : TellsEntries TagEntry.codec (fun entry => (entry.key,entry.value)) Arguments.tagsText
  echoed : ∀ text name parameters tags before after members, Echo text name parameters tags before after members →
    ∃ details, Listing.describe text name = .ok details ∧ details.name = name ∧ details.parameters = parameters ∧
      details.tags = tags
  echoes : ∀ name parameters tags, ∃ text members, Echo text name parameters tags [] [] members

theorem tells_what_was_sent : TellsWhatWasSent where
  parameters := parameters_tells
  tags := tags_tells
  echoed _ _ _ _ _ _ _ echo := describe_of_echo echo
  echoes name parameters tags := ⟨_,echo_echoOf name parameters tags⟩

/-- A listing in which another stack comes first. The stack that is asked for has a
    parameter of unusual characters, no tags, and a member that listings do not have. -/
def strayListing : Json := .object [("Stacks",.array [
  .object [("StackName",.string "cf-h")],
  .object [
    ("Parameters",.array [.object [("ParameterValue",.string "\x00é"),("ParameterKey",.string "a\"b")]]),
    ("DriftInformation",.object [("StackDriftStatus",.string "NOT_CHECKED")]),
    ("StackName",.string "cf-i")]])]

theorem tells_what_was_sent_stray :
    let parameters := StringMap.empty.insert "a\"b" "\x00é"
    ∃ before after members, Echo strayListing.text "cf-i" parameters .empty before after members ∧
      ∃ details, Listing.describe strayListing.text "cf-i" = .ok details ∧ details.name = "cf-i" ∧
        details.parameters = parameters ∧ details.tags = .empty := by
  intro parameters
  have scanned : scanText strayListing.text = ⟨.ofJson strayListing,true⟩ := Json.scanText_text (by decide)
  have readable : ∃ listing, Listing.codec.readText strayListing.text = .ok listing := by
    rw [Codec.readText,scanned]
    exact ⟨_,rfl⟩
  have sent : (scanText (Arguments.parametersText parameters)).root = .ofJson (.array
      [.object [("ParameterKey",.string "a\"b"),("ParameterValue",.string "\x00é")]]) :=
    Codec.root_writeText (by decide)
  have echo : Echo strayListing.text "cf-i" parameters .empty [.ofJson (.object [("StackName",.string "cf-h")])] [] _ :=
    { readable := readable
      listed := ⟨_,congrArg Json.Document.root scanned,.head _⟩
      first := List.forall_mem_singleton.mpr fun stack read => by
        rw [ListedStack.name_of_read read (.head _)]
        decide
      named := .tail _ (.tail _ (.head _))
      parameters := .inl ⟨_,.head _,by rw [sent]; rfl⟩
      tags := .inr ⟨rfl,fun node => by simp [Node.ofMembers]⟩ }
  exact ⟨_,_,_,echo,tells_what_was_sent.echoed _ _ _ _ _ _ _ echo⟩

end StackBroker.Stack
