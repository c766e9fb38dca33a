import StackBroker.Http.Message

/-!
# The outline of the interface

The title and version of the interface, what its paths may answer with, and the
names of its documents.
-/
namespace StackBroker.Http.Outline

private def instancePath : String := "/v2/service_instances/\x7binstance_id\x7d"

/-- The outline of the interface of a broker. -/
def broker : Outline where
  title := "CloudFormation Service Broker API"
  version := "0.1.0"
  paths := [
    ("/health",[("get",[200])]),
    ("/v2/catalog",[("get",[200,401])]),
    (instancePath,[("put",[202,400,422,500]),("patch",[202,400,404,422,500]),("delete",[202,410,422,500])]),
    (instancePath ++ "/last_operation",[("get",[200,410,500])]),
    (instancePath ++ "/service_bindings/\x7bbinding_id\x7d",[("put",[201,400,404,422,500]),("delete",[200])])]
  documents := ["AsyncQuery","BindDetails","BindingResponse","CatalogPlan","CatalogResponse","CatalogService",
    "Cost","DashboardClient","DeprovisionDetails","EmptyResponse","ErrorResponse","HealthResponse",
    "LastOperationResponse","LastOperationState","OperationResponse","PreviousValues","ProvisionDetails",
    "ProvisioningResponse","ServiceMetadata","ServicePlanMetadata","UnbindDetails","UpdateDetails"]

end StackBroker.Http.Outline
