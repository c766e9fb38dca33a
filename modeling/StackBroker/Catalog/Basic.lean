import StackBroker.Catalog.Properties
import StackBroker.Binary64.Basic

/-!
# Catalog

The services on offer and their plans. Ids are expected to be unique but need
not be: a look-up takes the first that matches. Validation reports the first
fault in the order of the lists.
-/
namespace StackBroker

/-- What a service shows of itself. -/
structure ServiceMetadata where
  displayName : String
  imageUrl : String
  longDescription : String
  providerDisplayName : String
  documentationUrl : String
  supportUrl : String
deriving DecidableEq, Repr

/-- The client with which a dashboard signs on. -/
structure DashboardClient where
  id : String
  secret : String
  redirectUri : String
deriving DecidableEq, Repr

/-- A price by currency, and what it is paid for. -/
structure Cost where
  amount : StringMap Binary64
  unit : String
deriving DecidableEq, Repr

/-- What a plan shows of itself. -/
structure PlanMetadata where
  bullets : List String
  costs : List Cost
  displayName : String
deriving DecidableEq, Repr

/-- A variant of a service. -/
structure Plan where
  id : String
  name : String
  description : String
  metadata : Option PlanMetadata
  free : Bool
  properties : StackProperties
deriving DecidableEq, Repr

/-- A service on offer. -/
structure Service where
  id : String
  name : String
  description : String
  bindable : Bool
  tags : List String
  metadata : Option ServiceMetadata
  requires : List String
  planUpdateable : Bool
  plans : List Plan
  dashboardClient : Option DashboardClient
deriving DecidableEq, Repr

/-- The services on offer. -/
structure Catalog where
  services : List Service
deriving DecidableEq, Repr

/-! ### Prices -/

/-- All amounts of a price are finite, so that they can be written as numbers. -/
def Cost.isFinite (cost : Cost) : Bool := cost.amount.entries.all fun entry => entry.2.isFinite

/-- All prices of a plan are finite. -/
def Plan.pricesFinite (plan : Plan) : Bool :=
  plan.metadata.all fun metadata => metadata.costs.all Cost.isFinite

def Service.pricesFinite (service : Service) : Bool := service.plans.all Plan.pricesFinite

def Catalog.pricesFinite (catalog : Catalog) : Bool := catalog.services.all Service.pricesFinite

/-! ### Validation -/

/-- A plan is complete and its stack properties are valid. -/
def Plan.validate (plan : Plan) : Except Invalid Unit := do
  Invalid.requireText .id (.plan plan.name) plan.id
  Invalid.requireText .name (.plan plan.id) plan.name
  Invalid.requireText .description (.plan plan.id) plan.description
  Invalid.inPart .stackProperties plan.properties.validate

/-- A service is complete and its plans are valid. -/
def Service.validate (service : Service) : Except Invalid Unit := do
  Invalid.requireText .id (.service service.name) service.id
  Invalid.requireText .name (.service service.id) service.name
  Invalid.requireText .description (.service service.id) service.description
  service.plans.forM fun plan => Invalid.inPart .plans plan.validate

/-- All services are valid. -/
def Catalog.validate (catalog : Catalog) : Except Invalid Unit :=
  catalog.services.forM fun service => Invalid.inPart .services service.validate

/-! ### Look-up -/

namespace Catalog

/-- The first service with an id. -/
def findService? (catalog : Catalog) (id : String) : Option Service :=
  catalog.services.find? fun service => service.id == id

/-- All plans, in the order of the services and of their plans. -/
def plans (catalog : Catalog) : List Plan := catalog.services.flatMap Service.plans

/-- The first plan with an id. -/
def findPlan? (catalog : Catalog) (id : String) : Option Plan :=
  catalog.plans.find? fun plan => plan.id == id

end Catalog
end StackBroker
