import Mathlib.Data.List.Forall2
import StackBroker.Cuts
import StackBroker.Proofs.Classification
import StackBroker.Proofs.Members
import StackBroker.Proofs.Scanning
import StackBroker.Text.Utf8.Exact

/-!
Which of the stacks in a listing is described. A text lists entries (`ListsEntries`), and if
each of them can be read it lists stacks (`ListsStacks`, `Listing.readText_eq_ok_iff`); one
that cannot be read spoils the text (`ListsEntries.exists_readText_iff`). The first stack of
exactly the name is described (`Listing.describe_eq_ok_iff`) by what its entry holds
(`ListedStack.read_object_eq_ok_iff`, `Shows`). Stacks of other names do not matter
(`Listing.describe_congr`), nor do members of other names in the entries
(`Listing.readText_padded`), and so a reply is decided by the name and the entries that bear
it (`selects_by_name`).
-/
namespace StackBroker.Stack
open StackBroker.Json (Codec Held Node Padded SolePart WellNamed scanText)

/-! ### Listings -/

/-- A text lists entries, whatever these are: its only part is their array, and without
    that part there are none. -/
def ListsEntries (text : String) (entries : List Node) : Prop :=
  (scanText text).clean = true ∧ (SolePart "Stacks" (scanText text).root (some (.array entries true)) ∨
    SolePart "Stacks" (scanText text).root none ∧ entries = [])

/-- A text lists stacks: each of its entries is read as the stack in its place. -/
def ListsStacks (text : String) (listed : List ListedStack) : Prop :=
  ∃ entries, ListsEntries text entries ∧ entries.map ListedStack.codec.read = listed.map .ok

theorem ListsEntries.unique {text : String} {entries others : List Node} (lists : ListsEntries text entries)
    (listsOthers : ListsEntries text others) : entries = others := by
  obtain ⟨-,here | ⟨here,rfl⟩⟩ := lists
  · obtain ⟨-,there | ⟨there,-⟩⟩ := listsOthers
    · cases here.unique there
      rfl
    · cases here.unique there
  · obtain ⟨-,there | ⟨-,rfl⟩⟩ := listsOthers
    · cases here.unique there
    · rfl

theorem ListsEntries.listsStacks_iff {text : String} {entries : List Node} (lists : ListsEntries text entries)
    {listed : List ListedStack} : ListsStacks text listed ↔ entries.map ListedStack.codec.read = listed.map .ok := by
  constructor
  · rintro ⟨others,listsOthers,read⟩
    rwa [lists.unique listsOthers]
  · exact fun read => ⟨entries,lists,read⟩

theorem Listing.readText_eq_ok_iff {text : String} {listing : Listing} :
    codec.readText text = .ok listing ↔ ListsStacks text listing.listed := by
  obtain ⟨listed⟩ := listing
  -- the array of entries is the only part of a listing
  have sole : codec.read (scanText text).root = .ok ⟨listed⟩ ↔ _ := Json.record_sole_read_eq_ok rfl
  rw [Codec.readText_eq_ok,sole]
  constructor
  · rintro ⟨⟨none,blank⟩ | ⟨part,some,updated⟩,clean⟩
    · cases blank
      exact ⟨[],⟨clean,.inr ⟨none,rfl⟩⟩,rfl⟩
    · obtain ⟨found,read,same⟩ := Json.Field.make_read_eq_ok.mp updated
      cases same
      obtain ⟨entries,rfl,items⟩ := Codec.list_read_eq_ok.mp read
      exact ⟨entries,⟨clean,.inl some⟩,Codec.readItems_eq_ok_iff.mp items⟩
  · rintro ⟨entries,⟨clean,some | ⟨none,rfl⟩⟩,read⟩
    · have items := Codec.list_read_eq_ok.mpr ⟨entries,rfl,Codec.readItems_eq_ok_iff.mpr read⟩
      exact ⟨.inr ⟨_,some,Json.Field.make_read_eq_ok.mpr ⟨listed,items,rfl⟩⟩,clean⟩
    · obtain rfl : listed = [] := List.map_eq_nil_iff.mp read.symm
      exact ⟨.inl ⟨none,rfl⟩,clean⟩

/-- A text that lists entries is a listing if all of them can be read. -/
theorem ListsEntries.exists_readText_iff {text : String} {entries : List Node} (lists : ListsEntries text entries) :
    (∃ listing, Listing.codec.readText text = .ok listing) ↔
      ∀ entry ∈ entries, ∃ stack, ListedStack.codec.read entry = .ok stack := by
  simp only [Listing.readText_eq_ok_iff,lists.listsStacks_iff,← Codec.readItems_eq_ok_iff,← Codec.exists_readItems_iff]
  exact ⟨fun ⟨⟨listed⟩,read⟩ => ⟨listed,read⟩,fun ⟨listed,read⟩ => ⟨⟨listed⟩,read⟩⟩

/-! ### Entries -/

namespace ListedStack

/-- The names of the members that an entry is read from. -/
def names : List String := ["StackId","StackName","Description","Parameters","Outputs","Capabilities","DisableRollback",
  "NotificationARNs","StackStatus","TimeoutInMinutes","Tags"]

/-- A stack is what the members of its entry hold, and unset where one is missing. -/
structure ReadFrom (members : List (Option String × Node)) (stack : ListedStack) : Prop where
  id : Held Codec.string members "StackId" stack.id ""
  name : Held Codec.string members "StackName" stack.name ""
  description : Held Codec.string members "Description" stack.description ""
  parameters : Held ParameterEntry.codec.list members "Parameters" stack.parameters []
  outputs : Held OutputEntry.codec.list members "Outputs" stack.outputs []
  capabilities : Held Codec.strings members "Capabilities" stack.capabilities []
  disableRollback : Held Codec.bool members "DisableRollback" stack.disableRollback false
  notificationArns : Held Codec.strings members "NotificationARNs" stack.notificationArns []
  rawStatus : Held Codec.string members "StackStatus" stack.rawStatus ""
  timeoutInMinutes : Held Codec.uint32.option members "TimeoutInMinutes" stack.timeoutInMinutes none
  tags : Held TagEntry.codec.list members "Tags" stack.tags []

theorem readFrom {members : List (Option String × Node)} {closed : Bool} {stack : ListedStack}
    (read : codec.read (.object members closed) = .ok stack) : ReadFrom members stack where
  id := Json.held_of_read read rfl
  name := Json.held_of_read read rfl
  description := Json.held_of_read read rfl
  parameters := Json.held_of_read read rfl
  outputs := Json.held_of_read read rfl
  capabilities := Json.held_of_read read rfl
  disableRollback := Json.held_of_read read rfl
  notificationArns := Json.held_of_read read rfl
  rawStatus := Json.held_of_read read rfl
  timeoutInMinutes := Json.held_of_read read rfl
  tags := Json.held_of_read read rfl

/-- Members determine a stack. -/
theorem ReadFrom.unique {members : List (Option String × Node)} {stack other : ListedStack} (holds : ReadFrom members stack)
    (holdsOther : ReadFrom members other) : stack = other := by
  cases stack
  cases other
  simp only [ListedStack.mk.injEq]
  exact ⟨holds.id.unique holdsOther.id,holds.name.unique holdsOther.name,
    holds.description.unique holdsOther.description,holds.parameters.unique holdsOther.parameters,
    holds.outputs.unique holdsOther.outputs,holds.capabilities.unique holdsOther.capabilities,
    holds.disableRollback.unique holdsOther.disableRollback,holds.notificationArns.unique holdsOther.notificationArns,
    holds.rawStatus.unique holdsOther.rawStatus,holds.timeoutInMinutes.unique holdsOther.timeoutInMinutes,
    holds.tags.unique holdsOther.tags⟩

theorem exists_read_of_readFrom {members : List (Option String × Node)} {stack : ListedStack}
    (wellNamed : WellNamed names members) (holds : ReadFrom members stack) :
    ∃ found, codec.read (.object members true) = .ok found := by
  refine Json.exists_record_read (by simp [Json.Field.optional,Json.Field.make]) wellNamed ?_
  simp only [List.forall_mem_cons]
  exact ⟨holds.id.takes,holds.name.takes,holds.description.takes,holds.parameters.takes,holds.outputs.takes,
    holds.capabilities.takes,holds.disableRollback.takes,holds.notificationArns.takes,holds.rawStatus.takes,
    holds.timeoutInMinutes.takes,holds.tags.takes,List.forall_mem_nil _⟩

/-- An object is read as a stack if it is closed after members that are well named and hold
    the parts of the stack. -/
theorem read_object_eq_ok_iff {members : List (Option String × Node)} {closed : Bool} {stack : ListedStack} :
    codec.read (.object members closed) = .ok stack ↔
      closed = true ∧ WellNamed names members ∧ ReadFrom members stack := by
  constructor
  · intro read
    obtain ⟨whole,wellNamed⟩ := Json.wellNamed_of_read (by simp [Json.Field.optional,Json.Field.make]) read
    exact ⟨whole,wellNamed,readFrom read⟩
  · rintro ⟨rfl,wellNamed,holds⟩
    obtain ⟨found,read⟩ := exists_read_of_readFrom wellNamed holds
    rwa [holds.unique (readFrom read)]

/-- Members of other names make no difference to what an entry is read as. -/
theorem read_padded {entry padded : Node} (pads : Padded names entry padded) : codec.read padded = codec.read entry :=
  Json.Padded.read_eq pads

end ListedStack

/-- Texts whose entries differ by members of other names are the same listing. -/
theorem Listing.readText_padded {text text' : String} {entries padded : List Node} {listing : Listing}
    (lists : ListsEntries text entries) (lists' : ListsEntries text' padded)
    (pads : List.Forall₂ (Padded ListedStack.names) entries padded) :
    codec.readText text = .ok listing ↔ codec.readText text' = .ok listing := by
  have same : entries.map ListedStack.codec.read = padded.map ListedStack.codec.read := by
    -- entry by entry, whatever the texts are
    clear lists lists'
    induction pads with
    | nil => rfl
    | cons here _ ih => rw [List.map_cons,List.map_cons,ListedStack.read_padded here,ih]
  rw [readText_eq_ok_iff,readText_eq_ok_iff,lists.listsStacks_iff,lists'.listsStacks_iff,same]

/-! ### Details of listed stacks -/

/-- A map has for each key the value of the last entry with that key, and no other keys. -/
def LastWins (map : StringMap String) (entries : List (String × String)) : Prop :=
  ∀ key value, map.get? key = some value ↔
    ∃ before after, entries = before ++ (key,value) :: after ∧ ∀ later ∈ after, later.1 ≠ key

theorem lastWins_iff {map : StringMap String} {entries : List (String × String)} :
    LastWins map entries ↔ map = .ofList entries := by
  constructor
  · intro wins
    refine StringMap.ext_get? fun key => Option.ext fun value => ?_
    rw [wins,StringMap.get?_ofList_eq_some_iff]
  · rintro rfl key value
    exact StringMap.get?_ofList_eq_some_iff

/-- Details show a listed stack. What listings do not tell of a stack is not set. -/
structure Shows (stack : ListedStack) (details : Details) : Prop where
  name : details.name = stack.name
  capabilities : details.capabilities = stack.capabilities
  disableRollback : details.disableRollback = stack.disableRollback
  description : details.description = stack.description
  notificationArns : details.notificationArns = stack.notificationArns
  onFailure : details.onFailure = none
  outputs : LastWins details.outputs (stack.outputs.map fun entry => (entry.key,entry.value))
  parameters : LastWins details.parameters (stack.parameters.map fun entry => (entry.key,entry.value))
  resourceTypes : details.resourceTypes = []
  id : details.id = stack.id
  stackPolicyUrl : details.stackPolicyUrl = none
  status : details.status = .ofRaw stack.rawStatus
  tags : LastWins details.tags (stack.tags.map fun entry => (entry.key,entry.value))
  templateUrl : details.templateUrl = ""
  timeoutInMinutes : details.timeoutInMinutes = stack.timeoutInMinutes

theorem shows_iff {stack : ListedStack} {details : Details} : Shows stack details ↔ details = stack.details := by
  constructor
  · intro shown
    obtain ⟨name,capabilities,disableRollback,description,notificationArns,onFailure,outputs,parameters,resourceTypes,id,
      stackPolicyUrl,status,tags,templateUrl,timeoutInMinutes⟩ := details
    obtain ⟨rfl,rfl,rfl,rfl,rfl,rfl,lastOutputs,lastParameters,rfl,rfl,rfl,rfl,lastTags,rfl,rfl⟩ := shown
    obtain rfl : outputs = _ := lastWins_iff.mp lastOutputs
    obtain rfl : parameters = _ := lastWins_iff.mp lastParameters
    obtain rfl : tags = _ := lastWins_iff.mp lastTags
    rfl
  · rintro rfl
    exact ⟨rfl,rfl,rfl,rfl,rfl,rfl,lastWins_iff.mpr rfl,lastWins_iff.mpr rfl,rfl,rfl,rfl,rfl,lastWins_iff.mpr rfl,rfl,rfl⟩

/-! ### The stack that is described -/

/-- Of some stacks the first that has exactly a name. -/
def FirstNamed (listed : List ListedStack) (name : String) (stack : ListedStack) : Prop :=
  ∃ before after, listed = before ++ stack :: after ∧ (∀ other ∈ before, other.name ≠ name) ∧ stack.name = name

namespace Listing
variable {listing listing' : Listing} {text text' name : String}

theorem find?_eq_some_iff {stack : ListedStack} : listing.find? name = some stack ↔ FirstNamed listing.listed name stack :=
  find?_named_eq_some_iff

theorem describe_of_read (read : codec.readText text = .ok listing) :
    describe text name = (listing.find? name).elim (.error .doesNotExist) fun stack => .ok stack.details := by
  rw [describe,read]
  cases found : listing.find? name <;> simp only [found,Option.elim]

theorem describe_unreadable_iff : (∃ words, describe text name = .error (.unreadable words)) ↔
    ¬ ∃ listing, codec.readText text = .ok listing := by
  constructor
  · rintro ⟨words,unreadable⟩ ⟨listing,read⟩
    rw [describe_of_read read] at unreadable
    cases found : listing.find? name <;> simp [found] at unreadable
  · intro unlisted
    cases read : codec.readText text with
    | ok listing => exact absurd ⟨listing,read⟩ unlisted
    | error fault => exact ⟨complaint text,by rw [describe,read]⟩

theorem describe_eq_ok_iff {details : Details} : describe text name = .ok details ↔
    ∃ listing stack, codec.readText text = .ok listing ∧ FirstNamed listing.listed name stack ∧ Shows stack details := by
  constructor
  · intro described
    cases read : codec.readText text with
    | error fault => simp [describe,read] at described
    | ok listing =>
      rw [describe_of_read read] at described
      cases found : listing.find? name with
      | none => simp [found] at described
      | some stack =>
        have same : stack.details = details := by simpa [found] using described
        exact ⟨listing,stack,rfl,find?_eq_some_iff.mp found,shows_iff.mpr same.symm⟩
  · rintro ⟨listing,stack,read,first,shown⟩
    rw [describe_of_read read,find?_eq_some_iff.mpr first,shows_iff.mp shown]
    rfl

theorem exists_describe_eq_ok_iff : (∃ details, describe text name = .ok details) ↔
    ∃ listing, codec.readText text = .ok listing ∧ ∃ stack ∈ listing.listed, stack.name = name := by
  constructor
  · rintro ⟨details,described⟩
    obtain ⟨listing,stack,read,⟨before,after,split,-,named⟩,-⟩ := describe_eq_ok_iff.mp described
    exact ⟨listing,read,stack,by simp [split],named⟩
  · rintro ⟨listing,read,stack,member,named⟩
    have found : (listing.find? name).isSome = true := List.find?_isSome.mpr ⟨stack,member,beq_iff_eq.mpr named⟩
    obtain ⟨first,found⟩ := Option.isSome_iff_exists.mp found
    exact ⟨first.details,by rw [describe_of_read read,found]; rfl⟩

/-- Only the stacks of the name matter. -/
theorem describe_congr (read : codec.readText text = .ok listing) (read' : codec.readText text' = .ok listing')
    (same : listing.listed.filter (·.name == name) = listing'.listed.filter (·.name == name)) :
    describe text name = describe text' name := by
  have found : listing.find? name = listing'.find? name := by
    rw [find?,find?,← List.head?_filter,← List.head?_filter,same]
  rw [describe_of_read read,describe_of_read read',found]

end Listing

/-! ### Replies -/

namespace CommandLine
variable {σ : Type} {account : Account} {execute : List String → σ → Run × σ}

/-- Asked for a stack by its name the executable prints some bytes and ends well, and the
    backend replies. -/
def Replies (account : Account) (execute : List String → σ → Run × σ) (name : String) (printed : List UInt8)
    (reply : Except Failure Details) : Prop :=
  ∃ state stderr next, launch execute (arguments account (.describe name)) state = (.finished 0 printed stderr,next) ∧
    (backend account execute).perform (.describe name) state = (reply,next)

theorem Replies.eq_describe {name : String} {printed : List UInt8} {reply : Except Failure Details}
    (replies : Replies account execute name printed reply) : reply = Listing.describe (Utf8.decodeLossy printed) name := by
  obtain ⟨state,stderr,next,ran,performed⟩ := replies
  rw [backend] at performed
  simp only [ran] at performed
  exact (congrArg Prod.fst performed).symm

/-- How the text that was printed and the name decide a reply. -/
structure Selected (text name : String) (reply : Except Failure Details) : Prop where
  unreadable : (∃ words, reply = .error (.unreadable words)) ↔ ¬ ∃ listing, Listing.codec.readText text = .ok listing
  missing : reply = .error .doesNotExist ↔
    ∃ listing, Listing.codec.readText text = .ok listing ∧ ∀ stack ∈ listing.listed, stack.name ≠ name
  present : (∃ details, reply = .ok details) ↔
    ∃ listing, Listing.codec.readText text = .ok listing ∧ ∃ stack ∈ listing.listed, stack.name = name
  first : ∀ details, reply = .ok details ↔
    ∃ listing stack, Listing.codec.readText text = .ok listing ∧ FirstNamed listing.listed name stack ∧ Shows stack details

theorem selected_describe (text name : String) : Selected text name (Listing.describe text name) where
  unreadable := Listing.describe_unreadable_iff
  missing := describe_eq_doesNotExist
  present := Listing.exists_describe_eq_ok_iff
  first _ := Listing.describe_eq_ok_iff

/-- A stack is described by the first entry of exactly its name. -/
structure SelectsByName (account : Account) (execute : List String → σ → Run × σ) : Prop where
  /-- Every run that ends well is replied to. -/
  replied : ∀ name state printed stderr next,
    launch execute (arguments account (.describe name)) state = (.finished 0 printed stderr,next) →
      ∃ reply, Replies account execute name printed reply
  selected : ∀ name printed reply, Replies account execute name printed reply →
    Selected (Utf8.decodeLossy printed) name reply
  listed : ∀ text listing, Listing.codec.readText text = .ok listing ↔ ListsStacks text listing.listed
  /-- All entries have to be readable; one that cannot be read spoils the text. -/
  readable : ∀ text entries, ListsEntries text entries → ((∃ listing, Listing.codec.readText text = .ok listing) ↔
    ∀ entry ∈ entries, ∃ stack, ListedStack.codec.read entry = .ok stack)
  /-- An entry that is an object is a stack if its members are well named and hold the parts of the stack. -/
  entry : ∀ members closed stack, ListedStack.codec.read (.object members closed) = .ok stack ↔
    closed = true ∧ WellNamed ListedStack.names members ∧ ListedStack.ReadFrom members stack
  /-- Stacks of other names may come, go and change places. -/
  others : ∀ name printed printed' reply reply' listing listing', Replies account execute name printed reply →
    Replies account execute name printed' reply' → Listing.codec.readText (Utf8.decodeLossy printed) = .ok listing →
    Listing.codec.readText (Utf8.decodeLossy printed') = .ok listing' →
    listing.listed.filter (·.name == name) = listing'.listed.filter (·.name == name) → reply = reply'
  /-- Members of other names make no difference to entries, whether these can be read or not. -/
  padded : ∀ name printed printed' reply reply' entries entries', Replies account execute name printed reply →
    Replies account execute name printed' reply' → ListsEntries (Utf8.decodeLossy printed) entries →
    ListsEntries (Utf8.decodeLossy printed') entries' → List.Forall₂ (Padded ListedStack.names) entries entries' →
    (∀ listing, Listing.codec.readText (Utf8.decodeLossy printed) = .ok listing ↔
      Listing.codec.readText (Utf8.decodeLossy printed') = .ok listing) ∧
    ((∃ listing, Listing.codec.readText (Utf8.decodeLossy printed) = .ok listing) → reply = reply')

theorem selects_by_name (account : Account) (execute : List String → σ → Run × σ) : SelectsByName account execute where
  replied name state printed stderr next ran := by
    refine ⟨Listing.describe (Utf8.decodeLossy printed) name,state,stderr,next,ran,?_⟩
    rw [backend]
    simp only [ran]
    rfl
  selected name printed reply replies := by
    rw [replies.eq_describe]
    exact selected_describe _ name
  listed _ _ := Listing.readText_eq_ok_iff
  readable _ _ lists := lists.exists_readText_iff
  entry _ _ _ := ListedStack.read_object_eq_ok_iff
  others name printed printed' reply reply' listing listing' replies replies' read read' same := by
    rw [replies.eq_describe,replies'.eq_describe]
    exact Listing.describe_congr read read' same
  padded name printed printed' reply reply' entries entries' replies replies' lists lists' pads := by
    have same (listing : Listing) := @Listing.readText_padded _ _ _ _ listing lists lists' pads
    refine ⟨same,fun ⟨listing,read⟩ => ?_⟩
    rw [replies.eq_describe,replies'.eq_describe]
    exact Listing.describe_congr read ((same listing).mp read) rfl

/-- An executable that prints a document whatever it is asked. -/
def printing : List String → Json → Run × Json := fun _ document =>
  (.finished 0 (Utf8.encode document.text) [],document)

/-- The members of an entry that names one output twice. -/
def repetitiveEntry : List (String × Json) := [
  ("Outputs",.array [
    .object [("OutputKey",.string "url"),("OutputValue",.string "old")],
    .object [("OutputValue",.string "new"),("OutputKey",.string "url")]]),
  ("StackName",.string "cf-i"),
  ("StackStatus",.string "CREATE_COMPLETE")]

/-- The stack of that entry. -/
def repetitiveStack : ListedStack := { ListedStack.blank with
  name := "cf-i"
  outputs := [⟨"url","old"⟩,⟨"url","new"⟩]
  rawStatus := "CREATE_COMPLETE" }

/-- A listing of one stack. -/
def lonelyListing : Json := .object [("Stacks",.array [.object repetitiveEntry])]

/-- The same stack after another, and with a member that listings do not have. -/
def crowdedListing : Json := .object [("NextToken",.null),("Stacks",.array [
  .object [("StackName",.string "cf-")],
  .object (("EnableTerminationProtection",.bool false) :: repetitiveEntry)])]

theorem selects_by_name_crowded : ∃ details,
    Replies ⟨"eu-west-1",none⟩ printing "cf-i" (Utf8.encode crowdedListing.text) (.ok details) ∧
      Replies ⟨"eu-west-1",none⟩ printing "cf-i" (Utf8.encode lonelyListing.text) (.ok details) ∧
      details.outputs.get? "url" = some "new" ∧ details.status = .succeeded ∧ details.stackPolicyUrl = none := by
  have selects := selects_by_name ⟨"eu-west-1",none⟩ printing
  have replies (document : Json) :
      ∃ reply, Replies ⟨"eu-west-1",none⟩ printing "cf-i" (Utf8.encode document.text) reply :=
    selects.replied "cf-i" document _ [] document (if_neg (by decide))
  have crowded : Listing.codec.readText (Utf8.decodeLossy (Utf8.encode crowdedListing.text)) =
      .ok ⟨[{ ListedStack.blank with name := "cf-" },repetitiveStack]⟩ := by
    rw [Utf8.decodeLossy_encode,Codec.readText,crowdedListing,Json.scanText_text (by decide)]
    rfl
  have lonely : Listing.codec.readText (Utf8.decodeLossy (Utf8.encode lonelyListing.text)) = .ok ⟨[repetitiveStack]⟩ := by
    rw [Utf8.decodeLossy_encode,Codec.readText,lonelyListing,Json.scanText_text (by decide)]
    rfl
  obtain ⟨reply,replied⟩ := replies crowdedListing
  obtain ⟨reply',replied'⟩ := replies lonelyListing
  have first : FirstNamed [{ ListedStack.blank with name := "cf-" },repetitiveStack] "cf-i" repetitiveStack :=
    ⟨[{ ListedStack.blank with name := "cf-" }],[],rfl,by decide,rfl⟩
  have described : reply = .ok repetitiveStack.details :=
    ((selects.selected _ _ _ replied).first _).mpr ⟨_,repetitiveStack,crowded,first,shows_iff.mpr rfl⟩
  have same : reply = reply' := selects.others _ _ _ _ _ _ _ replied replied' crowded lonely rfl
  subst same
  subst described
  exact ⟨_,replied,replied',rfl,rfl,rfl⟩

end CommandLine
end StackBroker.Stack
