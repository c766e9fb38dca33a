import StackBroker.Text.Percent
import StackBroker.Http.Message

/-!
# Routes

Which path of the interface a request is for. Paths are matched segment by
segment before anything in them is decoded. An id at the end of a path is not
empty; one that is followed by more may be.
-/
namespace StackBroker.Http

/-- A path of the interface, with its ids still encoded. -/
inductive Route where
  | health
  | catalog
  | serviceInstance (id : List Char)
  | lastOperation (id : List Char)
  | binding (instanceId bindingId : List Char)
  | interfaceOutline
deriving DecidableEq, Repr

/-- The methods that paths take, and any other. -/
inductive Method where
  | get
  | head
  | put
  | patch
  | delete
  | options
  | other
deriving DecidableEq, Repr

/-- The method that a request names; names of methods have a case. -/
def Method.ofText (text : String) : Method :=
  if text = "GET" then .get else if text = "HEAD" then .head else if text = "PUT" then .put
  else if text = "PATCH" then .patch else if text = "DELETE" then .delete
  else if text = "OPTIONS" then .options else .other

namespace Route

/-- The pieces between slashes. -/
def segments : List Char → List (List Char)
  | [] => [[]]
  | c :: rest =>
    if c = '/' then [] :: segments rest
    else match segments rest with
      | [] => [[c]]
      | first :: others => (c :: first) :: others

/-- The route of the segments after the first slash. -/
def ofSegments? (segments : List (List Char)) : Option Route :=
  match segments with
  | [a] => if a = "health".toList then some .health else none
  | [a,b] =>
    if a = "v2".toList ∧ b = "catalog".toList then some .catalog
    else if a = "api".toList ∧ b = "openapi.json".toList then some .interfaceOutline
    else none
  | [a,b,c] =>
    if a = "v2".toList ∧ b = "service_instances".toList ∧ c ≠ [] then some (.serviceInstance c) else none
  | [a,b,c,d] =>
    if a = "v2".toList ∧ b = "service_instances".toList ∧ d = "last_operation".toList then
      some (.lastOperation c)
    else none
  | [a,b,c,d,e] =>
    if a = "v2".toList ∧ b = "service_instances".toList ∧ d = "service_bindings".toList ∧ e ≠ [] then
      some (.binding c e)
    else none
  | _ => none

/-- The route of a path. -/
def ofPath? (path : List Char) : Option Route :=
  match path with
  | '/' :: rest => ofSegments? (segments rest)
  | _ => none

/-- Whether callers have to be authorized. -/
def isProtected : Route → Bool
  | .health => false
  | _ => true

/-- The methods that a route takes. -/
def methods : Route → List Method
  | .health | .catalog | .lastOperation _ | .interfaceOutline => [.get,.head]
  | .serviceInstance _ => [.put,.patch,.delete]
  | .binding .. => [.put,.delete]

/-- The methods of a route as a header lists them. -/
def allow : Route → String
  | .health | .catalog | .lastOperation _ | .interfaceOutline => "GET,HEAD"
  | .serviceInstance _ => "PUT,PATCH,DELETE"
  | .binding .. => "PUT,DELETE"

/-- The text of an encoded segment, if its bytes are text. -/
def decodeSegment? (segment : List Char) : Option String :=
  Utf8.decodeStrict (Percent.decode (Utf8.encodeChars segment))

end Route
end StackBroker.Http
