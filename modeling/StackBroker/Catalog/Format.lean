import StackBroker.Catalog.Basic
import StackBroker.Json.Record

/-!
# The written form of a catalog

The JSON documents of catalogs and their parts. What is empty is left out, a
few fields apart that are always written.
-/
namespace StackBroker
open StackBroker.Json (Codec Field)

def StackProperties.codec : Codec StackProperties := Codec.record .blank [
  .sparse "capabilities" Codec.strings (·.capabilities) (fun v p => { p with capabilities := v }) List.isEmpty,
  .sparse "disable_rollback" Codec.bool (·.disableRollback) (fun v p => { p with disableRollback := v }) (!·),
  .sparse "notification_arns" Codec.strings (·.notificationArns)
    (fun v p => { p with notificationArns := v }) List.isEmpty,
  .sparse "on_failure" (Codec.option Codec.string) (·.onFailure)
    (fun v p => { p with onFailure := v }) Option.isNone,
  .sparse "parameters" (Codec.map Codec.string) (·.parameters)
    (fun v p => { p with parameters := v }) StringMap.isEmpty,
  .sparse "resource_types" Codec.strings (·.resourceTypes)
    (fun v p => { p with resourceTypes := v }) List.isEmpty,
  .sparse "stack_policy_url" (Codec.option Codec.string) (·.stackPolicyUrl)
    (fun v p => { p with stackPolicyUrl := v }) Option.isNone,
  .optional "template_url" Codec.string (·.templateUrl) (fun v p => { p with templateUrl := v }),
  .sparse "timeout_in_minutes" (Codec.option Codec.uint32) (·.timeoutInMinutes)
    (fun v p => { p with timeoutInMinutes := v }) Option.isNone]

def ServiceMetadata.blank : ServiceMetadata := ⟨"","","","","",""⟩

def ServiceMetadata.codec : Codec ServiceMetadata := Codec.record .blank [
  .sparse "displayName" Codec.string (·.displayName) (fun v m => { m with displayName := v }) String.isEmpty,
  .sparse "imageUrl" Codec.string (·.imageUrl) (fun v m => { m with imageUrl := v }) String.isEmpty,
  .sparse "longDescription" Codec.string (·.longDescription)
    (fun v m => { m with longDescription := v }) String.isEmpty,
  .sparse "providerDisplayName" Codec.string (·.providerDisplayName)
    (fun v m => { m with providerDisplayName := v }) String.isEmpty,
  .sparse "documentationUrl" Codec.string (·.documentationUrl)
    (fun v m => { m with documentationUrl := v }) String.isEmpty,
  .sparse "supportUrl" Codec.string (·.supportUrl) (fun v m => { m with supportUrl := v }) String.isEmpty]

def DashboardClient.blank : DashboardClient := ⟨"","",""⟩

def DashboardClient.codec : Codec DashboardClient := Codec.record .blank [
  .sparse "id" Codec.string (·.id) (fun v c => { c with id := v }) String.isEmpty,
  .sparse "secret" Codec.string (·.secret) (fun v c => { c with secret := v }) String.isEmpty,
  .sparse "redirect_uri" Codec.string (·.redirectUri) (fun v c => { c with redirectUri := v }) String.isEmpty]

def Cost.blank : Cost := ⟨.empty,""⟩

def Cost.codec : Codec Cost := Codec.record .blank [
  .sparse "amount" (Codec.map Codec.binary64) (·.amount) (fun v c => { c with amount := v }) StringMap.isEmpty,
  .sparse "unit" Codec.string (·.unit) (fun v c => { c with unit := v }) String.isEmpty]

def PlanMetadata.blank : PlanMetadata := ⟨[],[],""⟩

def PlanMetadata.codec : Codec PlanMetadata := Codec.record .blank [
  .sparse "bullets" Codec.strings (·.bullets) (fun v m => { m with bullets := v }) List.isEmpty,
  .sparse "costs" (Codec.list Cost.codec) (·.costs) (fun v m => { m with costs := v }) List.isEmpty,
  .sparse "displayName" Codec.string (·.displayName) (fun v m => { m with displayName := v }) String.isEmpty]

def Plan.blank : Plan := ⟨"","","",none,false,.blank⟩

def Plan.codec : Codec Plan := Codec.record .blank [
  .needed "id" Codec.string (·.id) (fun v p => { p with id := v }),
  .needed "name" Codec.string (·.name) (fun v p => { p with name := v }),
  .needed "description" Codec.string (·.description) (fun v p => { p with description := v }),
  .sparse "metadata" (Codec.option PlanMetadata.codec) (·.metadata)
    (fun v p => { p with metadata := v }) Option.isNone,
  .optional "free" Codec.bool (·.free) (fun v p => { p with free := v }),
  .optional "cloudformation_properties" StackProperties.codec (·.properties)
    (fun v p => { p with properties := v })]

def Service.blank : Service := ⟨"","","",false,[],none,[],false,[],none⟩

def Service.codec : Codec Service := Codec.record .blank [
  .needed "id" Codec.string (·.id) (fun v s => { s with id := v }),
  .needed "name" Codec.string (·.name) (fun v s => { s with name := v }),
  .needed "description" Codec.string (·.description) (fun v s => { s with description := v }),
  .sparse "bindable" Codec.bool (·.bindable) (fun v s => { s with bindable := v }) (!·),
  .sparse "tags" Codec.strings (·.tags) (fun v s => { s with tags := v }) List.isEmpty,
  .sparse "metadata" (Codec.option ServiceMetadata.codec) (·.metadata)
    (fun v s => { s with metadata := v }) Option.isNone,
  .sparse "requires" Codec.strings (·.requires) (fun v s => { s with requires := v }) List.isEmpty,
  .optional "plan_updateable" Codec.bool (·.planUpdateable) (fun v s => { s with planUpdateable := v }),
  .sparse "plans" (Codec.list Plan.codec) (·.plans) (fun v s => { s with plans := v }) List.isEmpty,
  .sparse "dashboard_client" (Codec.option DashboardClient.codec) (·.dashboardClient)
    (fun v s => { s with dashboardClient := v }) Option.isNone]

def Catalog.blank : Catalog := ⟨[]⟩

def Catalog.codec : Codec Catalog := Codec.record .blank [
  .sparse "services" (Codec.list Service.codec) (·.services)
    (fun v c => { c with services := v }) List.isEmpty]

end StackBroker
