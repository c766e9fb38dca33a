import StackBroker.Proofs.ErrorAnswers
import StackBroker.Proofs.Targets

/-!
What a validation error is taken for. Where a stack is expected, the words of the message
decide: if they say that something does not exist, whatever it is, the stack is reported
missing (`interpret_of_missing`), and otherwise the error is passed on
(`interpret_of_known`). The stack that the call is about is not looked for in the message.
So an update is answered that there is no such instance also where its template is missing
(`wording_decides`, `existing_stack_reported_missing`).
-/
namespace StackBroker.Stack

/-- A message tells of something that it does not exist. -/
def SaysMissing (message : String) : Prop := "does not exist".toList <:+: message.toList

theorem unknown_validation {message : String} :
    (⟨some "ValidationError",message⟩ : Report).Unknown ↔ SaysMissing message := by
  rw [← Report.isUnknownStack_iff,Report.isUnknownStack]
  exact occursIn_iff

namespace CommandLine

/-- A run failed, and reports a validation error of some message. -/
def FailsValidation (run : Run) (message : String) : Prop :=
  ∃ exitCode stdout stderr, run = .finished exitCode stdout stderr ∧ exitCode ≠ 0 ∧
    ErrorLine.report (Utf8.decodeLossy stderr) = ⟨some "ValidationError",message⟩

section Validation
variable {run : Run} {message : String} (invalid : FailsValidation run message) (call : Call)
include invalid

theorem interpret_of_missing (expects : call.action.expectsStack = true) (worded : SaysMissing message) :
    interpret run call = .error .doesNotExist := by
  obtain ⟨exitCode,stdout,stderr,rfl,failed,reported⟩ := invalid
  have came := outcome_failed call.action failed stdout stderr
  rw [reported,Report.failure_eq_doesNotExist.mpr ⟨expects,unknown_validation.mpr worded⟩] at came
  exact interpret_of_outcome came

theorem interpret_of_known (known : ¬ SaysMissing message) :
    interpret run call = .error (.refused ("ValidationError: " ++ message)) := by
  obtain ⟨exitCode,stdout,stderr,rfl,failed,reported⟩ := invalid
  have came := outcome_failed call.action failed stdout stderr
  have other : (⟨some "ValidationError",message⟩ : Report).failure call.action ≠ .doesNotExist := by
    intro missing
    exact known (unknown_validation.mp (Report.failure_eq_doesNotExist.mp missing).2)
  rw [reported,Report.failure_eq_refused other] at came
  exact interpret_of_outcome came

end Validation
end CommandLine
end StackBroker.Stack

namespace StackBroker.Http
open StackBroker.Broker (Fails stackName updateRequest)
open StackBroker.Stack (Account Call Details Run SaysMissing)
open StackBroker.Stack.CommandLine (FailsValidation arguments interpret_of_known interpret_of_missing launch)

/-- The words of a validation error decide what a description or a modification of a stack
    comes to, and what an update of an instance is answered with; names decide nothing. -/
structure WordingDecides {σ : Type} (server : Server) (now : Instant) (account : Account)
    (execute : List String → σ → Run × σ) (state : σ) : Prop where
  missing : ∀ call message, call.action.expectsStack = true →
    FailsValidation (launch execute (arguments account call) state).1 message →
    (((Stack.CommandLine.backend account execute).perform call state).1 = .error .doesNotExist ↔ SaysMissing message)
  passed : ∀ call message, FailsValidation (launch execute (arguments account call) state).1 message →
    ¬ SaysMissing message → ((Stack.CommandLine.backend account execute).perform call state).1 =
      .error (.refused ("ValidationError: " ++ message))
  update : ∀ (request : Request) (segment : List Char) (id : String) (details : Broker.UpdateDetails) (waits : Bool)
    (asked : Details) (message : String), server.authorized request = true →
    Route.ofPath? request.path = some (.serviceInstance segment) → request.method = "PATCH" →
    Server.Carries request (.serviceInstance segment) .patch (.update id details waits) →
    updateRequest server.settings details waits = .ok asked →
    FailsValidation (launch execute (arguments account (.modify (stackName server.settings id) asked)) state).1 message →
    let answer := ((server.handle now request).run (Stack.CommandLine.backend account execute) state).1
    (SaysMissing message → Describes 404 "instance does not exist" answer) ∧
      (¬ SaysMissing message → Describes 500 ("ValidationError: " ++ message) answer)

theorem wording_decides {σ : Type} (server : Server) (now : Instant) (account : Account)
    (execute : List String → σ → Run × σ) (state : σ) : WordingDecides server now account execute state where
  missing call message expects invalid := by
    constructor
    · intro reported
      by_cases worded : SaysMissing message
      · exact worded
      · exact absurd (reported.symm.trans (interpret_of_known invalid call worded)) (by simp)
    · exact interpret_of_missing invalid call expects
  passed call message invalid := interpret_of_known invalid call
  update request segment id details waits asked message authorized found method carries checked invalid := by
    have patch : Method.ofText request.method = .patch := (Method.ofText_eq_iff rfl).mpr method
    have fails {failure : Stack.Failure} (failed : ((Stack.CommandLine.backend account execute).perform
        (.modify (stackName server.settings id) asked) state).1 = .error failure) :
        Fails server.settings now (.update id details waits) (Stack.CommandLine.backend account execute) state failure :=
      ⟨_,.update checked,failed⟩
    rw [← patch] at carries
    have supported : Method.ofText request.method ∈ (Route.serviceInstance segment).methods := by
      rw [patch]
      exact .tail _ (.head _)
    rw [Server.run_carried authorized found supported carries,patch]
    have answered := Server.errorAnswers server.settings now (.update id details waits)
      (Stack.CommandLine.backend account execute) state
    constructor
    · intro worded
      exact answered.missing (fails (interpret_of_missing invalid (.modify (stackName server.settings id) asked) rfl worded))
    · intro known
      exact answered.verbatim _ (.inl (fails (interpret_of_known invalid (.modify (stackName server.settings id) asked) known)))

/-- What an executable writes whose template has gone. -/
def lostTemplate : List UInt8 := Utf8.encode
  "\nAn error occurred (ValidationError) when calling the UpdateStack operation: S3 error: The specified key does not exist.\n"

/-- A listing of one stack. -/
def oneStack : List UInt8 := Utf8.encode "\x7b\"Stacks\":[\x7b\"StackName\":\"cf-i\",\"StackStatus\":\"CREATE_COMPLETE\"\x7d]\x7d"

/-- An executable that describes a stack and finds no template for it. -/
def templateless : List String → Unit → Run × Unit
  | arguments,state =>
    (if arguments.contains "describe-stacks" then .finished 0 oneStack [] else .finished 254 [] lostTemplate,state)

/-- A stack that is there is reported missing for words about its template. -/
theorem existing_stack_reported_missing :
    let backend := Stack.CommandLine.backend ⟨"eu-west-1",none⟩ templateless
    (∃ stack : Details, (backend.perform (.describe "cf-i") ()).1 = .ok stack ∧ stack.name = "cf-i") ∧
      FailsValidation (launch templateless (arguments ⟨"eu-west-1",none⟩ (.modify "cf-i" .blank)) ()).1
        "S3 error: The specified key does not exist." ∧
      ¬ "cf-i".toList <:+: "S3 error: The specified key does not exist.".toList ∧
      (backend.perform (.modify "cf-i" .blank) ()).1 = .error .doesNotExist := by
  intro backend
  have described : ((backend.perform (.describe "cf-i") ()).1.toOption.map fun stack : Details => stack.name) =
      some "cf-i" := by decide +kernel
  have invalid : FailsValidation (launch templateless (arguments ⟨"eu-west-1",none⟩ (.modify "cf-i" .blank)) ()).1
      "S3 error: The specified key does not exist." := by
    have plain : Stack.CommandLine.hasNul (arguments ⟨"eu-west-1",none⟩ (.modify "cf-i" .blank)) = false := by decide +kernel
    refine ⟨254,[],lostTemplate,?_,by decide,?_⟩
    · rw [launch,plain]
      rfl
    · -- Decoding undoes encoding, so the error line is looked for in the text itself.
      rw [lostTemplate,Utf8.decodeLossy_encode]
      decide +kernel
  have worded : SaysMissing "S3 error: The specified key does not exist." := Stack.occursIn_iff.mp (by decide)
  refine ⟨?_,invalid,?_,interpret_of_missing invalid (.modify "cf-i" .blank) rfl worded⟩
  · cases replied : (backend.perform (.describe "cf-i") ()).1 with
    | error failure =>
      rw [replied] at described
      cases described
    | ok stack =>
      rw [replied] at described
      exact ⟨stack,rfl,Option.some.inj described⟩
  · rw [← Stack.occursIn_iff]
    decide

end StackBroker.Http
