import StackBroker.Proofs.Effects
import StackBroker.Stack.CommandLine

/-!
When a stack is said not to exist. A report says so by its code and its words
(`Report.Unknown`), and it counts only where an action needs a stack to be there
(`failure_eq_doesNotExist`). A run of the command line says so by such a report or by
a listing without the stack (`interpret_describe`, `interpret_modify`); stacks in memory
say so of a name without a stack (`perform_describe`, `perform_modify`). A broker passes
it on as a missing instance where it expects the instance, and nowhere else
(`missing_stacks_classified`).
-/
namespace StackBroker.Stack

/-! ### Reports -/

theorem occursIn_iff {part chars : List Char} : occursIn part chars = true ↔ part <:+: chars := by
  induction chars with
  | nil => simp [occursIn]
  | cons c rest ih => rw [occursIn,Bool.or_eq_true,List.isPrefixOf_iff_prefix,ih,List.infix_cons_iff]

namespace Report

/-- A report that a stack is unknown: an invalid request with a message that says
    so, or a code of its own. -/
inductive Unknown : Report → Prop where
  | invalid {message : String} (worded : "does not exist".toList <:+: message.toList) :
    Unknown ⟨some "ValidationError",message⟩
  | notFound (message : String) : Unknown ⟨some "NotFound",message⟩
  | status (message : String) : Unknown ⟨some "404",message⟩

theorem isUnknownStack_iff {report : Report} : report.isUnknownStack = true ↔ report.Unknown := by
  obtain ⟨code,message⟩ := report
  constructor
  · intro unknown
    cases code with
    | none => simp [isUnknownStack] at unknown
    | some code =>
      by_cases invalid : code = "ValidationError"
      · subst invalid
        exact .invalid (occursIn_iff.mp (by simpa [isUnknownStack] using unknown))
      · have own : code = "NotFound" ∨ code = "404" := by simpa [isUnknownStack,invalid] using unknown
        rcases own with rfl | rfl
        · exact .notFound message
        · exact .status message
  · rintro (worded | _ | _)
    · simpa [isUnknownStack] using occursIn_iff.mpr worded
    · rfl
    · rfl

/-- A report comes to a missing stack exactly if it says so and the action needs one. -/
theorem failure_eq_doesNotExist {report : Report} {action : Action} :
    report.failure action = .doesNotExist ↔ action.expectsStack = true ∧ report.Unknown := by
  rw [← isUnknownStack_iff,failure]
  cases action.expectsStack <;> cases report.isUnknownStack <;> simp

/-- A report that comes to anything else is passed on in its words. -/
theorem failure_eq_refused {report : Report} {action : Action} (known : report.failure action ≠ .doesNotExist) :
    report.failure action = .refused report.line := by
  unfold failure at known ⊢
  split
  · rename_i missing
    exact absurd (if_pos missing) known
  · rfl

end Report

/-- A report without a code is what was written, without the blanks around it. -/
theorem ErrorLine.report_uncoded {stderr : String} (uncoded : (report stderr).code = none) :
    (report stderr).message = String.ofList (Text.trim stderr.toList) := by
  unfold report at uncoded ⊢
  cases found : find? (Text.trim stderr.toList) with
  | none => simp [found]
  | some line => simp [found] at uncoded

namespace CommandLine
variable {σ : Type}

/-! ### Runs of the command line -/

/-- A run that failed with the report that a stack is unknown. -/
def ReportsUnknown : Run → Prop
  | .unstarted _ => False
  | .finished exitCode _ stderr => exitCode ≠ 0 ∧ (ErrorLine.report (Utf8.decodeLossy stderr)).Unknown

/-- A run that was a success and printed a listing without a stack of exactly some name. -/
def ListsWithout (name : String) : Run → Prop
  | .unstarted _ => False
  | .finished exitCode stdout _ => exitCode = 0 ∧ ∃ listing,
    Listing.codec.readText (Utf8.decodeLossy stdout) = .ok listing ∧ ∀ stack ∈ listing.listed, stack.name ≠ name

/-- The words of a failed run: its code and message, or all that it wrote, without
    the blanks around it, if there is no code. -/
def wordsOf (stderr : String) : String :=
  match ErrorLine.report stderr with
  | ⟨some code,message⟩ => code ++ ": " ++ message
  | ⟨none,_⟩ => String.ofList (Text.trim stderr.toList)

theorem line_report (stderr : String) : (ErrorLine.report stderr).line = wordsOf stderr := by
  have uncoded := @ErrorLine.report_uncoded stderr
  unfold wordsOf
  generalize ErrorLine.report stderr = report at uncoded ⊢
  obtain ⟨code,message⟩ := report
  cases code with
  | none => exact uncoded rfl
  | some code => rfl

theorem outcome_failed (action : Action) {exitCode : Int} (failed : exitCode ≠ 0) (stdout stderr : List UInt8) :
    outcome action (.finished exitCode stdout stderr) =
      .error ((ErrorLine.report (Utf8.decodeLossy stderr)).failure action) := if_neg failed

theorem outcome_eq_doesNotExist {action : Action} {run : Run} :
    outcome action run = .error .doesNotExist ↔ action.expectsStack = true ∧ ReportsUnknown run := by
  cases run with
  | unstarted message => simp [outcome,ReportsUnknown]
  | finished exitCode stdout stderr =>
    by_cases success : exitCode = 0
    · simp [outcome,ReportsUnknown,success]
    · rw [outcome_failed action success,Except.error.injEq,Report.failure_eq_doesNotExist]
      simp only [ReportsUnknown,ne_eq,success,not_false_eq_true,true_and]

/-- What a run comes to for any call, if it comes to a failure of its own. -/
theorem interpret_of_outcome {run : Run} {call : Call} {failure : Failure}
    (failed : outcome call.action run = .error failure) : interpret run call = .error failure := by
  cases call with
  | describe name => simp only [Call.action] at failed; simp [interpret,failed]
  | create name details => simp only [Call.action] at failed; simp [interpret,failed,Except.map]
  | modify name details => simp only [Call.action] at failed; simp [interpret,failed,Except.map]
  | delete name => simp only [Call.action] at failed; simp [interpret,failed,Except.map]

theorem map_eq_error {ε α β : Type} {result : Except ε α} {change : α → β} {fault : ε} :
    result.map change = .error fault ↔ result = .error fault := by
  cases result <;> simp [Except.map]

theorem interpret_create (run : Run) (name : String) (details : Details) :
    interpret run (.create name details) ≠ .error .doesNotExist := by
  intro missing
  have expects := (outcome_eq_doesNotExist.mp (map_eq_error.mp missing)).1
  simp [Action.expectsStack] at expects

theorem interpret_delete (run : Run) (name : String) : interpret run (.delete name) ≠ .error .doesNotExist := by
  intro missing
  have expects := (outcome_eq_doesNotExist.mp (map_eq_error.mp missing)).1
  simp [Action.expectsStack] at expects

theorem interpret_modify (run : Run) (name : String) (details : Details) :
    interpret run (.modify name details) = .error .doesNotExist ↔ ReportsUnknown run := by
  rw [interpret,map_eq_error,outcome_eq_doesNotExist]
  simp [Action.expectsStack]

/-- The text of a listing does not show a stack exactly if it can be read and none of
    its stacks has the name. -/
theorem describe_eq_doesNotExist {text name : String} :
    Listing.describe text name = .error .doesNotExist ↔
      ∃ listing, Listing.codec.readText text = .ok listing ∧ ∀ stack ∈ listing.listed, stack.name ≠ name := by
  unfold Listing.describe
  cases read : Listing.codec.readText text with
  | error fault => simp
  | ok listing =>
    simp only [Except.ok.injEq,exists_eq_left']
    cases found : listing.find? name with
    | none => simpa [Listing.find?] using found
    | some stack =>
      have named : stack.name = name := by simpa using List.find?_some found
      simpa using ⟨stack,List.mem_of_find?_eq_some found,named⟩

theorem interpret_describe (run : Run) (name : String) :
    interpret run (.describe name) = .error .doesNotExist ↔ ReportsUnknown run ∨ ListsWithout name run := by
  cases run with
  | unstarted message => simp [interpret,outcome,ReportsUnknown,ListsWithout]
  | finished exitCode stdout stderr =>
    by_cases success : exitCode = 0
    · subst success
      have printed : interpret (.finished 0 stdout stderr) (.describe name) =
          Listing.describe (Utf8.decodeLossy stdout) name := rfl
      rw [printed,describe_eq_doesNotExist]
      simp [ReportsUnknown,ListsWithout]
    · have failed := outcome_failed .describe success stdout stderr
      have reported := @outcome_eq_doesNotExist .describe (.finished exitCode stdout stderr)
      rw [failed] at reported
      rw [interpret,failed]
      simpa [ListsWithout,success,Action.expectsStack] using reported

/-- How the runs of the executable decide the replies to the calls that they are
    made for. -/
structure Classified (run : Call → Run) (reply : (call : Call) → Reply call) : Prop where
  create : ∀ name details, reply (.create name details) ≠ .error .doesNotExist
  delete : ∀ name, reply (.delete name) ≠ .error .doesNotExist
  modify : ∀ name details,
    reply (.modify name details) = .error .doesNotExist ↔ ReportsUnknown (run (.modify name details))
  describe : ∀ name, reply (.describe name) = .error .doesNotExist ↔
    ReportsUnknown (run (.describe name)) ∨ ListsWithout name (run (.describe name))
  failed : ∀ call exitCode stdout stderr, run call = .finished exitCode stdout stderr → exitCode ≠ 0 →
    reply call ≠ .error .doesNotExist → reply call = .error (.refused (wordsOf (Utf8.decodeLossy stderr)))
  unstarted : ∀ call message, run call = .unstarted message → reply call = .error (.unstarted message)

theorem interpret_classified (run : Call → Run) : Classified run fun call => interpret (run call) call where
  create name details := interpret_create _ name details
  delete name := interpret_delete _ name
  modify name details := interpret_modify _ name details
  describe name := interpret_describe _ name
  failed call exitCode stdout stderr finished failed known := by
    rw [finished] at known ⊢
    have reported := outcome_failed call.action failed stdout stderr
    rw [interpret_of_outcome reported] at known ⊢
    rw [Report.failure_eq_refused fun missing => known (congrArg _ missing),line_report]
  unstarted call message refused := by
    rw [refused]
    exact interpret_of_outcome rfl

end CommandLine

/-! ### Stacks in memory -/

namespace Memory

/-- The refusal of an unknown name speaks of a stack that does not exist. -/
theorem unknown_eq (name : String) {action : Action} (expects : action.expectsStack = true) :
    unknown name action = .doesNotExist := by
  refine Report.failure_eq_doesNotExist.mpr ⟨expects,.invalid ?_⟩
  exact ⟨"Stack with id ".toList ++ name.toList ++ [' '],[],by simp⟩

theorem perform_create (memory : Memory) (name : String) (details : Details) :
    (memory.perform (.create name details)).1 ≠ .error .doesNotExist := by
  simp only [perform,create]
  split
  · simp [taken,Report.failure,Action.expectsStack]
  · simp

theorem perform_modify (memory : Memory) (name : String) (details : Details) :
    (memory.perform (.modify name details)).1 = .error .doesNotExist ↔ memory.get? name = none := by
  have missing : unknown name .modify = .doesNotExist := unknown_eq name rfl
  cases found : memory.get? name <;> simp [perform,modify,found,missing]

theorem perform_describe (memory : Memory) (name : String) :
    (memory.perform (.describe name)).1 = .error .doesNotExist ↔ memory.get? name = none := by
  have missing : unknown name .describe = .doesNotExist := unknown_eq name rfl
  cases found : memory.get? name <;> simp [perform,describe,found,missing]

end Memory
end StackBroker.Stack

namespace StackBroker.Broker
open StackBroker.Stack (Account Backend CommandLine.backend CommandLine.launch CommandLine.arguments
  CommandLine.interpret_classified CommandLine.Classified Memory Run)

/-! ### Missing instances -/

namespace Refusal

/-- The request itself is refused, whatever the backend holds. -/
def ofRequest : Refusal → Bool
  | .instanceDoesNotExist | .stack _ => false
  | .asyncRequired | .instanceNotUpdateable | .instanceNotBindable | .serviceNotFound _ | .planNotFound _
  | .invalidParameters _ => true

theorem ofInstance_eq_instanceDoesNotExist {failure : Stack.Failure} :
    ofInstance failure = .instanceDoesNotExist ↔ failure = .doesNotExist := by
  cases failure <;> simp [ofInstance]

end Refusal

/-- A check refuses nothing but what is wrong with the request itself. -/
def LooksAtRequest {α : Type} (check : Except Refusal α) : Prop :=
  ∀ refusal, check = .error refusal → refusal.ofRequest = true

namespace LooksAtRequest
variable {α β : Type}

theorem ok (value : α) : LooksAtRequest (.ok value) := by
  intro refusal refused
  cases refused

theorem error {refusal : Refusal} (request : refusal.ofRequest = true) :
    LooksAtRequest (.error refusal : Except Refusal α) := by
  intro other refused
  cases refused
  exact request

/-- One check after another. -/
theorem bind {first : Except Refusal α} {next : α → Except Refusal β} (before : LooksAtRequest first)
    (after : ∀ value, LooksAtRequest (next value)) : LooksAtRequest (first >>= next) := by
  cases first with
  | error refusal => exact error (before refusal rfl)
  | ok value => exact after value

theorem async (waits : Bool) : LooksAtRequest (requireAsync waits) := by
  cases waits with
  | false => exact error rfl
  | true => exact ok ()

theorem parameters (allowed : Bool) (raw : Option Json) : LooksAtRequest (callerParameters allowed raw) := by
  cases allowed with
  | false => exact ok StringMap.empty
  | true =>
    rw [callerParameters_open]
    cases Parameters.decode raw with
    | error reason => exact error rfl
    | ok given => exact ok given

theorem plan (settings : BrokerSettings) (id : String) : LooksAtRequest (requirePlan settings id) := by
  unfold requirePlan
  split
  · exact ok _
  · exact error rfl

theorem service (settings : BrokerSettings) (id : String) : LooksAtRequest (requireService settings id) := by
  unfold requireService
  split
  · exact ok _
  · exact error rfl

theorem updateable (service : Service) : LooksAtRequest (requireUpdateable service) := by
  unfold requireUpdateable
  split
  · exact ok ()
  · exact error rfl

theorem bindable (service : Service) : LooksAtRequest (requireBindable service) := by
  unfold requireBindable
  split
  · exact ok ()
  · exact error rfl

theorem provision (settings : BrokerSettings) (now : Instant) (details : ProvisionDetails) (waits : Bool) :
    LooksAtRequest (provisionRequest settings now details waits) :=
  bind (async waits) fun _ => bind (parameters _ _) fun _ => bind (plan settings _) fun _ => ok _

theorem update (settings : BrokerSettings) (details : UpdateDetails) (waits : Bool) :
    LooksAtRequest (updateRequest settings details waits) :=
  bind (async waits) fun _ => bind (parameters _ _) fun _ => bind (service settings _) fun found =>
    bind (updateable found) fun _ => bind (plan settings _) fun _ => ok _

theorem binding (settings : BrokerSettings) (details : BindDetails) : LooksAtRequest (bindCheck settings details) :=
  bind (service settings _) bindable

end LooksAtRequest

/-- Where a broker over a backend tells that an instance does not exist: nowhere in
    provisions and deprovisions, and elsewhere exactly if its call was made and failed
    for a missing stack. -/
structure MissingInstances {σ : Type} (settings : BrokerSettings) (backend : Backend σ) : Prop where
  provision : ∀ now instanceId details waits state,
    ((provision settings now instanceId details waits).run backend state).1 ≠ .error .instanceDoesNotExist
  deprovision : ∀ instanceId waits state,
    ((deprovision settings instanceId waits).run backend state).1 ≠ .error .instanceDoesNotExist
  update : ∀ instanceId details waits state,
    ((update settings instanceId details waits).run backend state).1 = .error .instanceDoesNotExist ↔
      ∃ asked, updateRequest settings details waits = .ok asked ∧
        (backend.perform (.modify (stackName settings instanceId) asked) state).1 = .error .doesNotExist
  bind : ∀ instanceId details state,
    ((bind settings instanceId details).run backend state).1 = .error .instanceDoesNotExist ↔
      bindCheck settings details = .ok () ∧
        (backend.perform (.describe (stackName settings instanceId)) state).1 = .error .doesNotExist
  lastOperation : ∀ instanceId state,
    ((lastOperation settings instanceId).run backend state).1 = .error .instanceDoesNotExist ↔
      (backend.perform (.describe (stackName settings instanceId)) state).1 = .error .doesNotExist

/-- A broker tells of missing instances so over every backend whose deletions never
    fail for a missing stack. -/
theorem missingInstances {σ : Type} (settings : BrokerSettings) {backend : Backend σ}
    (deletes : ∀ name state, (backend.perform (.delete name) state).1 ≠ .error .doesNotExist) :
    MissingInstances settings backend where
  provision now instanceId details waits state := by
    have request := LooksAtRequest.provision settings now details waits
    unfold Broker.provision
    cases asked : provisionRequest settings now details waits with
    | error refusal =>
      rintro missing
      cases missing
      exact absurd (request _ asked) Bool.false_ne_true
    | ok asked =>
      simp only [Step.run,Prod.map]
      split <;> simp
  deprovision instanceId waits state := by
    have request := LooksAtRequest.async waits
    unfold Broker.deprovision
    cases allowed : requireAsync waits with
    | error refusal =>
      rintro missing
      cases missing
      exact absurd (request _ allowed) Bool.false_ne_true
    | ok allowed =>
      -- the reply is read as one about an instance, so the backend has to rule the failure out
      have spared := deletes (stackName settings instanceId) state
      simp only [Step.run,Prod.map]
      split
      · simp
      · rename_i failure replied
        rw [replied] at spared
        simpa [Refusal.ofInstance_eq_instanceDoesNotExist] using spared
  update instanceId details waits state := by
    have request := LooksAtRequest.update settings details waits
    unfold Broker.update
    cases asked : updateRequest settings details waits with
    | error refusal =>
      have apart : refusal ≠ .instanceDoesNotExist := by
        rintro rfl
        exact absurd (request _ asked) Bool.false_ne_true
      simpa [Step.run] using apart
    | ok asked =>
      simp only [Step.run,Prod.map,Except.ok.injEq,exists_eq_left']
      split <;> simp_all [Refusal.ofInstance_eq_instanceDoesNotExist]
  bind instanceId details state := by
    have request := LooksAtRequest.binding settings details
    unfold Broker.bind
    cases allowed : bindCheck settings details with
    | error refusal =>
      have apart : refusal ≠ .instanceDoesNotExist := by
        rintro rfl
        exact absurd (request _ allowed) Bool.false_ne_true
      simpa [Step.run] using apart
    | ok allowed =>
      simp only [Step.run,Prod.map,true_and]
      split <;> simp_all [Refusal.ofInstance_eq_instanceDoesNotExist]
  lastOperation instanceId state := by
    simp only [Broker.lastOperation,Step.run,Prod.map]
    split <;> simp_all [Refusal.ofInstance_eq_instanceDoesNotExist]

/-- Over every executable, the runs that the calls are made for decide which calls fail
    for a missing stack; stacks in memory fail so where no stack has the name, though
    not to be created or deleted. Over both, a broker tells so of an instance where it
    expects the instance, and never of one to be made or removed. -/
theorem missing_stacks_classified {σ : Type} (settings : BrokerSettings) (account : Account)
    (execute : List String → σ → Run × σ) :
    (∀ state, CommandLine.Classified (fun call => (CommandLine.launch execute (CommandLine.arguments account call) state).1)
        fun call => ((CommandLine.backend account execute).perform call state).1) ∧
      (∀ (memory : Memory) name details,
        (Memory.backend.perform (.create name details) memory).1 ≠ .error .doesNotExist ∧
        (Memory.backend.perform (.delete name) memory).1 ≠ .error .doesNotExist ∧
        ((Memory.backend.perform (.modify name details) memory).1 = .error .doesNotExist ↔ memory.get? name = none) ∧
        ((Memory.backend.perform (.describe name) memory).1 = .error .doesNotExist ↔ memory.get? name = none)) ∧
      MissingInstances settings (CommandLine.backend account execute) ∧ MissingInstances settings Memory.backend := by
  have classified (state : σ) : CommandLine.Classified
      (fun call => (CommandLine.launch execute (CommandLine.arguments account call) state).1)
      fun call => ((CommandLine.backend account execute).perform call state).1 :=
    CommandLine.interpret_classified _
  have kept (memory : Memory) (name : String) : (memory.perform (.delete name)).1 ≠ .error .doesNotExist := nofun
  refine ⟨classified,?_,?_,?_⟩
  · intro memory name details
    exact ⟨memory.perform_create name details,kept memory name,memory.perform_modify name details,
      memory.perform_describe name⟩
  · exact missingInstances settings fun name state => (classified state).delete name
  · exact missingInstances settings fun name memory => kept memory name

/-- What an executable writes that knows no stack. -/
def unknownWords : List UInt8 := Utf8.encode
  "\nAn error occurred (ValidationError) when calling the DescribeStacks operation: Stack [cf-i] does not exist\n"

/-- An executable that knows no stack. -/
def emptyHanded : List String → Unit → Run × Unit := fun _ state => (.finished 254 [] unknownWords,state)

theorem missing_stacks_classified_unknown :
    ((lastOperation sampleSettings "i").run (CommandLine.backend ⟨"eu-west-1",none⟩ emptyHanded) ()).1 =
        .error .instanceDoesNotExist ∧
      ((deprovision sampleSettings "i" true).run (CommandLine.backend ⟨"eu-west-1",none⟩ emptyHanded) ()).1 ≠
        .error .instanceDoesNotExist := by
  obtain ⟨classified,-,instances,-⟩ := missing_stacks_classified sampleSettings ⟨"eu-west-1",none⟩ emptyHanded
  have run : (CommandLine.launch emptyHanded
      (CommandLine.arguments ⟨"eu-west-1",none⟩ (.describe (stackName sampleSettings "i"))) ()).1 =
        .finished 254 [] unknownWords := by decide +kernel
  have unknown : (Stack.ErrorLine.report (Utf8.decodeLossy unknownWords)).Unknown :=
    Stack.Report.isUnknownStack_iff.mp (by decide +kernel)
  refine ⟨(instances.lastOperation "i" ()).mpr (((classified ()).describe _).mpr (.inl ?_)),
    instances.deprovision "i" true ()⟩
  rw [run]
  exact ⟨by decide,unknown⟩

end StackBroker.Broker
