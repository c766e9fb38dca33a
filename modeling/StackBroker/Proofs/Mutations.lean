import StackBroker.Proofs.Exchange

/-!
Which requests over HTTP change memory. Every exit before the call and every reply
that is a refusal leaves memory as it was, and so does every answer with a status
other than 202. A request that changes memory is authorized and for an instance, its
caller waits, and it changes the stack of that instance in the way of its method
(`only_accepted_mutations`).
-/
namespace StackBroker.Http
open StackBroker.Broker (Effect Step stackName)
open StackBroker.Stack (Memory Slot)

/-- What a method does to the slot of an instance: it adds a stack, keeps one there, or
    removes it. -/
inductive Mutates : String → Slot → Slot → Prop where
  | added {after : Slot} (made : after.isSome = true) : Mutates "PUT" none after
  | kept {before after : Slot} (found : before.isSome = true) (left : after.isSome = true) :
    Mutates "PATCH" before after
  | removed {before : Slot} (found : before.isSome = true) : Mutates "DELETE" before none

/-- A request that takes memory from one state to another, where the ids of the path
    and of the instance are given. -/
structure Mutation (server : Server) (request : Request) (before after : Memory) (segment : List Char)
    (id : String) : Prop where
  credentials : (request.headerText? "authorization").bind Credentials.ofHeader? = some server.credentials
  path : request.path = "/v2/service_instances/".toList ++ segment
  filled : segment ≠ []
  whole : '/' ∉ segment
  decoded : Route.decodeSegment? segment = some id
  waits : Query.valuesOf "accepts_incomplete" (Query.pairs request.query) = ["true"]
  differs : ∀ name, after.get? name ≠ before.get? name ↔ name = stackName server.settings id
  change : Mutates request.method (before.get? (stackName server.settings id))
    (after.get? (stackName server.settings id))

namespace Server

/-- A request that changes the slot of its instance is accepted, and it is one for an
    instance whose caller waits. -/
theorem accepted_of_differ {settings : BrokerSettings} {now : Instant} {count : Nat} {request : Request}
    {route : Route} {asked : Broker.Request} {before after : Slot} {reply : Except Broker.Refusal Broker.Response}
    (carries : Carries request route (Method.ofText request.method) asked)
    (effect : Effect settings now count asked before reply after) (differ : after ≠ before) :
    (answerTo asked reply).status = 202 ∧ acceptsIncomplete request = .ok true ∧
      (∃ segment, route = .serviceInstance segment ∧ Route.decodeSegment? segment = some asked.instanceId) ∧
      Mutates request.method before after := by
  generalize named : Method.ofText request.method = method at carries
  cases effect with
  | refused refusal => exact absurd rfl differ
  | provisioned allowed =>
    obtain ⟨rfl,-⟩ := Broker.provisionRequest_eq_ok.mp allowed
    cases carries with
    | provision decoded waiting document =>
      rw [(Method.ofText_eq_iff rfl).mp named]
      exact ⟨rfl,waiting,⟨_,rfl,decoded⟩,.added rfl⟩
  | updated allowed =>
    obtain ⟨rfl,-⟩ := Broker.updateRequest_eq_ok.mp allowed
    cases carries with
    | update decoded waiting document =>
      rw [(Method.ofText_eq_iff rfl).mp named]
      exact ⟨rfl,waiting,⟨_,rfl,decoded⟩,.kept rfl rfl⟩
  | deprovisioned allowed =>
    obtain rfl := Broker.requireAsync_eq_ok.mp allowed
    cases carries with
    | deprovision decoded waiting service plan =>
      rw [(Method.ofText_eq_iff rfl).mp named]
      exact ⟨rfl,waiting,⟨_,rfl,decoded⟩,.removed (Option.isSome_iff_ne_none.mpr differ.symm)⟩
  | bound allowed | unbound | told => exact absurd rfl differ

/-- A request leaves memory as it was, or it is accepted and a mutation. -/
theorem handle_mutation (server : Server) (now : Instant) (request : Request) (memory : Memory) :
    ((server.handle now request).run Memory.backend memory).2 = memory ∨
      ((server.handle now request).run Memory.backend memory).1.status = 202 ∧
      ∃ segment id, Mutation server request memory ((server.handle now request).run Memory.backend memory).2
        segment id := by
  rcases handle_answers_or_asks server now request with
    ⟨response,answered⟩ | ⟨route,asked,found,authorized,supported,asks,handled⟩
  · exact .inl (by rw [answered]; rfl)
  · rw [handled,Step.run_map,Step.run_map]
    -- an update may leave the stack just as it was, so the slots decide and not the answer
    by_cases same : ((Broker.handle server.settings now asked).run Memory.backend memory).2.get?
        (stackName server.settings asked.instanceId) = memory.get? (stackName server.settings asked.instanceId)
    · exact .inl (Broker.handle_unchanged same)
    · obtain ⟨accepted,waits,⟨segment,rfl,decoded⟩,change⟩ :=
        accepted_of_differ (carries_of_asked supported asks)
          (Broker.handle_effect server.settings now asked memory) same
      obtain ⟨path,filled,plain⟩ := Route.ofPath?_eq_some_iff.mp found
      refine .inr ⟨(sent_status _ _).trans accepted,segment,asked.instanceId,?_⟩
      exact {
        credentials := by simpa [Server.authorized] using authorized
        path := path.trans (Route.path_serviceInstance segment)
        filled := filled
        whole := plain segment (by simp [Route.parts])
        decoded := decoded
        waits := acceptsIncomplete_eq_true.mp waits
        differs := fun name => by
          constructor
          · intro differ
            exact Decidable.byContradiction fun other =>
              differ (Broker.handle_frame server.settings now asked memory other)
          · rintro rfl
            exact same
        change := change }

/-- Only an accepted mutation changes memory: if the status is not 202, all stacks are
    as before, and a request after which they are not is authorized, is for one instance,
    has a caller that waits, and changes the stack of that instance alone. -/
theorem only_accepted_mutations (server : Server) (now : Instant) (request : Request) (memory : Memory) :
    let result := (server.handle now request).run Memory.backend memory
    (result.1.status ≠ 202 → result.2 = memory) ∧
      (result.2 ≠ memory → ∃ segment id, Mutation server request memory result.2 segment id) := by
  rcases handle_mutation server now request memory with same | ⟨accepted,mutation⟩
  · exact ⟨fun _ => same,fun differ => absurd same differ⟩
  · exact ⟨fun status => absurd accepted status,fun _ => mutation⟩

/-- A request for an instance whose id is partly encoded. -/
def creation : Request :=
  ⟨"PUT","/v2/service_instances/%69?accepts_incomplete=true",
    [("Authorization",Utf8.encode sample.credentials.header),("Content-Type",Utf8.encode "application/json")],
    Utf8.encode "\x7b\"service_id\":\"db\",\"plan_id\":\"small\",\"organization_guid\":\"org\",\"space_guid\":\"space\"\x7d"⟩

theorem only_accepted_mutations_creation :
    ((sample.handle .epoch creation).run Memory.backend .empty).2 ≠ .empty ∧
      ∃ segment id, Mutation sample creation .empty
        ((sample.handle .epoch creation).run Memory.backend .empty).2 segment id := by
  have changed : ((sample.handle .epoch creation).run Memory.backend .empty).2 ≠ .empty := by decide +kernel
  exact ⟨changed,(only_accepted_mutations sample .epoch creation .empty).2 changed⟩

end Server
end StackBroker.Http
