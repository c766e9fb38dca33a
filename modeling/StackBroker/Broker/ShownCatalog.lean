import StackBroker.Catalog.Format

/-!
# The catalog as it is shown

What callers see of a catalog: its services and plans without their stack
properties. The shown catalog is read from the written one, so that a price
which cannot be written as a number leaves nothing to show.
-/
namespace StackBroker
open StackBroker.Json (Codec Field)

/-- A plan as it is shown. -/
structure ShownPlan where
  id : String
  name : String
  description : String
  metadata : Option PlanMetadata
  free : Bool
deriving DecidableEq, Repr

namespace ShownPlan

def blank : ShownPlan := ⟨"","","",none,false⟩

def codec : Codec ShownPlan := Codec.record .blank [
  .needed "id" Codec.string (·.id) (fun v p => { p with id := v }),
  .needed "name" Codec.string (·.name) (fun v p => { p with name := v }),
  .needed "description" Codec.string (·.description) (fun v p => { p with description := v }),
  .sparse "metadata" (Codec.option PlanMetadata.codec) (·.metadata)
    (fun v p => { p with metadata := v }) Option.isNone,
  .optional "free" Codec.bool (·.free) (fun v p => { p with free := v })]

end ShownPlan

/-- A service as it is shown. -/
structure ShownService where
  id : String
  name : String
  description : String
  bindable : Bool
  tags : List String
  metadata : Option ServiceMetadata
  requires : List String
  planUpdateable : Bool
  plans : List ShownPlan
  dashboardClient : Option DashboardClient
deriving DecidableEq, Repr

namespace ShownService

def blank : ShownService := ⟨"","","",false,[],none,[],false,[],none⟩

def codec : Codec ShownService := Codec.record .blank [
  .needed "id" Codec.string (·.id) (fun v s => { s with id := v }),
  .needed "name" Codec.string (·.name) (fun v s => { s with name := v }),
  .needed "description" Codec.string (·.description) (fun v s => { s with description := v }),
  .optional "bindable" Codec.bool (·.bindable) (fun v s => { s with bindable := v }),
  .sparse "tags" Codec.strings (·.tags) (fun v s => { s with tags := v }) List.isEmpty,
  .sparse "metadata" (Codec.option ServiceMetadata.codec) (·.metadata)
    (fun v s => { s with metadata := v }) Option.isNone,
  .sparse "requires" Codec.strings (·.requires) (fun v s => { s with requires := v }) List.isEmpty,
  .optional "plan_updateable" Codec.bool (·.planUpdateable) (fun v s => { s with planUpdateable := v }),
  .optional "plans" (Codec.list ShownPlan.codec) (·.plans) (fun v s => { s with plans := v }),
  .sparse "dashboard_client" (Codec.option DashboardClient.codec) (·.dashboardClient)
    (fun v s => { s with dashboardClient := v }) Option.isNone]

end ShownService

/-- A catalog as it is shown. -/
structure ShownCatalog where
  services : List ShownService
deriving DecidableEq, Repr

namespace ShownCatalog

def blank : ShownCatalog := ⟨[]⟩

def codec : Codec ShownCatalog := Codec.record .blank [
  .optional "services" (Codec.list ShownService.codec) (·.services) (fun v c => { c with services := v })]

end ShownCatalog

/-! ### Showing a catalog -/

/-- What is seen of a plan. -/
def Plan.seen (plan : Plan) : ShownPlan := ⟨plan.id,plan.name,plan.description,plan.metadata,plan.free⟩

/-- What is seen of a service. -/
def Service.seen (service : Service) : ShownService :=
  { id := service.id
    name := service.name
    description := service.description
    bindable := service.bindable
    tags := service.tags
    metadata := service.metadata
    requires := service.requires
    planUpdateable := service.planUpdateable
    plans := service.plans.map Plan.seen
    dashboardClient := service.dashboardClient }

/-- What is seen of a catalog whose prices can be written. -/
def Catalog.seen (catalog : Catalog) : ShownCatalog := ⟨catalog.services.map Service.seen⟩

/-- The shown form of a catalog: the written catalog read as a shown one, or a
    catalog without services if that is refused. -/
def Catalog.shown (catalog : Catalog) : ShownCatalog :=
  match ShownCatalog.codec.readJson (Catalog.codec.write catalog) with
  | .ok shown => shown
  | .error _ => .blank

end StackBroker
