import StackBroker.Proofs.Standing

/-!
What keeps an instance from being bound or updated. A broker remembers no instance, so a
bind and an update are gated by the service that they name (`granted_bind`,
`granted_update`), and not by the one that the instance was made for. After any history
that leaves an instance with a stack, requests that name the service of its provision are
held back as that service says, and requests that name another service as that one says
(`gates_read_named_service`).
-/
namespace StackBroker

theorem Catalog.findService?_eq_some_iff {catalog : Catalog} (distinct : (catalog.services.map Service.id).Nodup)
    {id : String} {service : Service} :
    catalog.findService? id = some service ↔ service ∈ catalog.services ∧ service.id = id := by
  unfold Catalog.findService?
  generalize catalog.services = services at distinct
  induction services with
  | nil => simp
  | cons first rest ih =>
    rw [List.map_cons,List.nodup_cons] at distinct
    obtain ⟨new,distinct⟩ := distinct
    rw [List.find?_cons]
    by_cases here : first.id = id
    · -- The search ends here, and no later service has the id.
      have apart : ∀ other ∈ rest, other.id ≠ id := fun other member same =>
        new (List.mem_map.mpr ⟨other,member,same.trans here.symm⟩)
      simp only [here,beq_self_eq_true,Option.some.injEq,List.mem_cons]
      constructor
      · rintro rfl
        exact ⟨.inl rfl,here⟩
      · rintro ⟨rfl | later,named⟩
        · rfl
        · exact absurd named (apart service later)
    · rw [beq_false_of_ne here,ih distinct,List.mem_cons]
      constructor
      · rintro ⟨member,named⟩
        exact ⟨.inr member,named⟩
      · rintro ⟨rfl | member,named⟩
        · exact absurd named here
        · exact ⟨member,named⟩

theorem Catalog.isSome_findPlan? {catalog : Catalog} {id : String} :
    (∃ plan, catalog.findPlan? id = some plan) ↔ ∃ service ∈ catalog.services, ∃ plan ∈ service.plans, plan.id = id := by
  rw [← Option.isSome_iff_exists,Catalog.findPlan?,List.find?_isSome,Catalog.plans]
  simp only [List.mem_flatMap,beq_iff_eq]
  constructor
  · rintro ⟨plan,⟨service,offered,member⟩,named⟩
    exact ⟨service,offered,plan,member,named⟩
  · rintro ⟨service,offered,plan,member,named⟩
    exact ⟨plan,⟨service,offered,member⟩,named⟩

end StackBroker

namespace StackBroker.Broker
open StackBroker.Stack (Backend Details Memory)

/-! ### Gates -/

/-- A service with some id is on offer, and lets through what asks for it. -/
def Offers (settings : BrokerSettings) (gate : Service → Bool) (serviceId : String) : Prop :=
  ∃ service ∈ settings.catalog.services, service.id = serviceId ∧ gate service = true

section Distinct
variable {settings : BrokerSettings} (distinct : (settings.catalog.services.map Service.id).Nodup)
include distinct

theorem offers_iff {gate : Service → Bool} {serviceId : String} : Offers settings gate serviceId ↔
    ∃ service, settings.catalog.findService? serviceId = some service ∧ gate service = true := by
  refine exists_congr fun service => ?_
  rw [Catalog.findService?_eq_some_iff distinct,and_assoc]

/-- A service that is on offer decides what its id lets through. -/
theorem offers_own {gate : Service → Bool} {own : Service} (offered : own ∈ settings.catalog.services) :
    Offers settings gate own.id ↔ gate own = true := by
  have found : settings.catalog.findService? own.id = some own :=
    (Catalog.findService?_eq_some_iff distinct).mpr ⟨offered,rfl⟩
  rw [offers_iff distinct,found]
  simp

theorem bindCheck_gate {details : BindDetails} :
    bindCheck settings details = .ok () ↔ Offers settings Service.bindable details.serviceId :=
  bindCheck_eq_ok.trans (offers_iff distinct).symm

theorem updateRequest_gates {details : UpdateDetails} {waits : Bool} :
    (∃ asked, updateRequest settings details waits = .ok asked) ↔ waits = true ∧
      (∃ parameters, callerParameters settings.allowUpdateParameters details.parameters = .ok parameters) ∧
      Offers settings Service.planUpdateable details.serviceId ∧
      ∃ service ∈ settings.catalog.services, ∃ plan ∈ service.plans, plan.id = details.planId := by
  rw [offers_iff distinct,← Catalog.isSome_findPlan?]
  constructor
  · rintro ⟨asked,checked⟩
    obtain ⟨waiting,parameters,service,plan,decoded,found,updateable,planned,-⟩ := updateRequest_eq_ok.mp checked
    exact ⟨waiting,⟨parameters,decoded⟩,⟨service,found,updateable⟩,plan,planned⟩
  · rintro ⟨waiting,⟨parameters,decoded⟩,⟨service,found,updateable⟩,plan,planned⟩
    exact ⟨_,updateRequest_eq_ok.mpr ⟨waiting,parameters,service,plan,decoded,found,updateable,planned,rfl⟩⟩

end Distinct

/-! ### Granted requests -/

/-- A broker over the stacks in memory grants a request. -/
def Granted (settings : BrokerSettings) (memory : Memory) (now : Instant) (request : Request) : Prop :=
  ∃ response, ((handle settings now request).run Memory.backend memory).1 = .ok response

/-- A bind that does not pass its checks changes nothing, and no more does an update. -/
theorem run_bind_refused {settings : BrokerSettings} {details : BindDetails} {refusal : Refusal} {σ : Type}
    (refused : bindCheck settings details = .error refusal) (now : Instant) (instanceId bindingId : String)
    (backend : Backend σ) (state : σ) :
    (handle settings now (.bind instanceId bindingId details)).run backend state = (.error refusal,state) := by
  rw [handle,bind,refused]
  rfl

theorem run_update_refused {settings : BrokerSettings} {details : UpdateDetails} {waits : Bool} {refusal : Refusal}
    {σ : Type} (refused : updateRequest settings details waits = .error refusal) (now : Instant) (instanceId : String)
    (backend : Backend σ) (state : σ) :
    (handle settings now (.update instanceId details waits)).run backend state = (.error refusal,state) := by
  rw [handle,update,refused]
  rfl

section Stored
variable {settings : BrokerSettings} {memory : Memory} {instanceId : String} {stack : Details}
  (stored : memory.get? (stackName settings instanceId) = some stack)
include stored

theorem granted_bind {now : Instant} {bindingId : String} {details : BindDetails} :
    Granted settings memory now (.bind instanceId bindingId details) ↔ bindCheck settings details = .ok () := by
  unfold Granted
  cases checked : bindCheck settings details with
  | error refusal => simp [run_bind_refused checked]
  | ok _ =>
    rw [handle,Step.run_map,bind,checked]
    simp [Step.run,Memory.backend,Memory.perform,Memory.describe,stored,Except.map]

theorem granted_update {now : Instant} {details : UpdateDetails} {waits : Bool} :
    Granted settings memory now (.update instanceId details waits) ↔
      ∃ asked, updateRequest settings details waits = .ok asked := by
  unfold Granted
  cases checked : updateRequest settings details waits with
  | error refusal => simp [run_update_refused checked]
  | ok asked =>
    rw [handle,Step.run_map,update,checked]
    simp [Step.run,Memory.backend,Memory.perform,Memory.modify,stored,Except.map]

end Stored

/-! ### Histories -/

/-- A bind or an update that was granted went through the gate of the service that it
    names. -/
def Entry.Gated (settings : BrokerSettings) : Entry → Prop
  | (.request _ (.bind _ _ details),.replied (.ok _)) => Offers settings Service.bindable details.serviceId
  | (.request _ (.update _ details _),.replied (.ok _)) => Offers settings Service.planUpdateable details.serviceId
  | _ => True

theorem effect_gated {settings : BrokerSettings} (distinct : (settings.catalog.services.map Service.id).Nodup)
    {now : Instant} {count : Nat} {request : Request} {slot next : Stack.Slot} {reply : Except Refusal Response}
    (effect : Effect settings now count request slot reply next) :
    Entry.Gated settings (.request now request,.replied reply) := by
  cases effect with
  | updated allowed => exact ((updateRequest_gates distinct).mp ⟨_,allowed⟩).2.2.1
  | bound allowed => exact (bindCheck_gate distinct).mp allowed
  | refused refusal => cases request <;> trivial
  | provisioned | deprovisioned | unbound | told => trivial

theorem outcomes_gated {settings : BrokerSettings} (distinct : (settings.catalog.services.map Service.id).Nodup)
    (memory : Memory) (events : List Event) :
    ∀ entry ∈ History.outcomes settings memory events, Entry.Gated settings entry := by
  -- What an entry is gated by stands in its request, so nothing is carried from one event to the next.
  refine outcomes_all (fun memory event => ?_) memory events
  cases event with
  | request now request => exact effect_gated distinct (handle_effect settings now request memory)
  | setStatus | setOutputs => trivial

/-- How the binds and updates of an instance are gated after a history: by the service
    that each of them names, and by nothing that is known of the instance. -/
structure GatedAsNamed (settings : BrokerSettings) (history : List Entry) (memory : Memory) (instanceId : String) :
    Prop where
  past : ∀ entry ∈ history, Entry.Gated settings entry
  bind : ∀ now bindingId details, Granted settings memory now (.bind instanceId bindingId details) ↔
    Offers settings Service.bindable details.serviceId
  update : ∀ now details waits, Granted settings memory now (.update instanceId details waits) ↔ waits = true ∧
    (∃ parameters, callerParameters settings.allowUpdateParameters details.parameters = .ok parameters) ∧
    Offers settings Service.planUpdateable details.serviceId ∧
    ∃ service ∈ settings.catalog.services, ∃ plan ∈ service.plans, plan.id = details.planId

/-- A service without bindings, or whose instances keep their plans, holds back what names
    it, and the memory stays as it is. -/
structure HoldsBack (settings : BrokerSettings) (memory : Memory) (instanceId : String) (own : Service) : Prop where
  bind : own.bindable = false → ∀ now bindingId (details : BindDetails), details.serviceId = own.id →
    (handle settings now (.bind instanceId bindingId details)).run Memory.backend memory =
      (.error .instanceNotBindable,memory)
  update : own.planUpdateable = false → ∀ now (details : UpdateDetails) waits, details.serviceId = own.id →
    ∃ refusal, (handle settings now (.update instanceId details waits)).run Memory.backend memory =
      (.error refusal,memory)

theorem holdsBack {settings : BrokerSettings} (distinct : (settings.catalog.services.map Service.id).Nodup)
    {own : Service} (offered : own ∈ settings.catalog.services) (memory : Memory) (instanceId : String) :
    HoldsBack settings memory instanceId own where
  bind unbindable now bindingId details named := by
    have found : settings.catalog.findService? details.serviceId = some own :=
      (Catalog.findService?_eq_some_iff distinct).mpr ⟨offered,named.symm⟩
    have refused : bindCheck settings details = .error .instanceNotBindable := by
      simp [bindCheck,requireService,found,requireBindable,unbindable,Bind.bind,Except.bind]
    exact run_bind_refused refused now instanceId bindingId Memory.backend memory
  update fixed now details waits named := by
    -- Waiting and the parameters are looked at before the service, so the refusal may be theirs.
    cases checked : updateRequest settings details waits with
    | error refusal => exact ⟨refusal,run_update_refused checked now instanceId Memory.backend memory⟩
    | ok asked =>
      have gate := ((updateRequest_gates distinct).mp ⟨asked,checked⟩).2.2.1
      rw [named,offers_own distinct offered,fixed] at gate
      cases gate

/-- While an instance stands by its provision, its stack is made by that provision, and
    its binds and updates are gated by the services that they name. So the service of the
    provision holds back the requests that name it, and no others. -/
theorem gates_read_named_service {settings : BrokerSettings}
    (distinct : (settings.catalog.services.map Service.id).Nodup) (events : List Event) {instanceId : String}
    {now : Instant} {details : ProvisionDetails} {waits : Bool} {response : Response} {later : List Entry}
    (created : Latest (Entry.Settles instanceId) (.granted now (.provision instanceId details waits) response) later
      (History.outcomes settings .empty events)) :
    let history := History.outcomes settings .empty events
    let memory := History.after settings .empty events
    (∃ stack, memory.get? (stackName settings instanceId) = some stack ∧ CreatedBy settings now details stack) ∧
      GatedAsNamed settings history memory instanceId ∧
      ∀ own ∈ settings.catalog.services, own.id = details.serviceId → HoldsBack settings memory instanceId own := by
  intro history memory
  obtain ⟨stack,stored,made⟩ := stack_of_latest created
  refine ⟨⟨stack,stored,made⟩,?_,fun own offered _ => holdsBack distinct offered memory instanceId⟩
  exact {
    past := outcomes_gated distinct .empty events
    bind := fun now bindingId details => (granted_bind stored).trans (bindCheck_gate distinct)
    update := fun now details waits => (granted_update stored).trans (updateRequest_gates distinct) }

/-- Settings with a service that has neither bindings nor updates, and one that has both. -/
def mixedSettings : BrokerSettings :=
  let plan (id url : String) : Plan :=
    { Plan.blank with id := id, properties := { StackProperties.blank with templateUrl := url } }
  let database := { Service.blank with id := "db", plans := [plan "small" "https://t/small"] }
  let queue := { Service.blank with
    id := "queue", bindable := true, planUpdateable := true, plans := [plan "wide" "https://t/wide"] }
  { BrokerSettings.blank with stackPrefix := "cf", catalog := ⟨[database,queue]⟩ }

/-- An instance of the one service is made, then bound and updated in the name of the other. -/
def crossing : List Event := [
  .request .epoch (.provision "i" ⟨"db","small","","",none⟩ true),
  .request .epoch (.bind "i" "b" ⟨"queue","wide","",none⟩),
  .request .epoch (.update "i" ⟨"queue","wide",none,none⟩ true)]

theorem gates_read_named_service_mixed :
    (mixedSettings.catalog.services.map Service.id).Nodup ∧
      (∃ later, Latest (Entry.Settles "i")
        (Entry.granted .epoch (.provision "i" ⟨"db","small","","",none⟩ true) (.provisioned ⟨none,true⟩)) later
        (History.outcomes mixedSettings .empty crossing)) ∧
      ((History.after mixedSettings .empty crossing).get? "cf-i").isSome = true ∧
      ∀ own ∈ mixedSettings.catalog.services, own.id = "db" →
        HoldsBack mixedSettings (History.after mixedSettings .empty crossing) "i" own := by
  have distinct : (mixedSettings.catalog.services.map Service.id).Nodup := by decide
  have created : Latest (Entry.Settles "i")
      (Entry.granted .epoch (.provision "i" ⟨"db","small","","",none⟩ true) (.provisioned ⟨none,true⟩))
      [Entry.granted .epoch (.bind "i" "b" ⟨"queue","wide","",none⟩) (.bound ⟨.empty⟩),
        Entry.granted .epoch (.update "i" ⟨"queue","wide",none,none⟩ true) (.updated ⟨true⟩)]
      (History.outcomes mixedSettings .empty crossing) := by
    refine ⟨⟨[],rfl⟩,rfl,?_⟩
    simp only [List.forall_mem_cons]
    exact ⟨id,id,List.forall_mem_nil _⟩
  obtain ⟨⟨stack,stored,-⟩,-,holds⟩ := gates_read_named_service distinct crossing created
  exact ⟨distinct,⟨_,created⟩,Option.isSome_iff_exists.mpr ⟨stack,stored⟩,holds⟩

/-- A service without bindings and updates does not keep its instance from either. -/
theorem other_service_passes_gates :
    (mixedSettings.catalog.services.map Service.id).Nodup ∧ (mixedSettings.catalog.plans.map Plan.id).Nodup ∧
      (∀ own ∈ mixedSettings.catalog.services, own.id = "db" →
        own.bindable = false ∧ own.planUpdateable = false ∧ ∃ plan ∈ own.plans, plan.id = "small") ∧
      History.outcomes mixedSettings .empty crossing = [
        Entry.granted .epoch (.provision "i" ⟨"db","small","","",none⟩ true) (.provisioned ⟨none,true⟩),
        Entry.granted .epoch (.bind "i" "b" ⟨"queue","wide","",none⟩) (.bound ⟨.empty⟩),
        Entry.granted .epoch (.update "i" ⟨"queue","wide",none,none⟩ true) (.updated ⟨true⟩)] :=
  ⟨by decide,by decide,by decide,rfl⟩

end StackBroker.Broker
