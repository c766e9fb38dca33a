import StackBroker.Calendar
import StackBroker.StringMap

/-!
# Tags

The tags that a broker puts on a stack: whose it is, by whom and when it was
acted on, and the ids it was asked for with, as far as there are any.
-/
namespace StackBroker

/-- The ids that tags record. -/
structure TagSubject where
  serviceId : String
  planId : String
  organizationId : String
  spaceId : String
deriving DecidableEq, Repr

namespace TagSubject

/-- The names of the id tags, with their ids. -/
def entries (subject : TagSubject) : List (String × String) :=
  [("Service ID",subject.serviceId),("Plan ID",subject.planId),
    ("Organization ID",subject.organizationId),("Space ID",subject.spaceId)]

end TagSubject

/-- The tags of an action on a stack. Ids that are empty are not recorded. -/
def tagsFor (action : String) (subject : TagSubject) (time : Instant) : StringMap String :=
  let bookkeeping := [("Owner","Cloud Foundry"),(action ++ " by","AWS CloudFormation Service Broker"),
    (action ++ " at",time.timestamp)]
  StringMap.ofList (bookkeeping ++ subject.entries.filter (fun entry => !entry.2.isEmpty))

end StackBroker
