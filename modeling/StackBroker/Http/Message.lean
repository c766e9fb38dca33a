import StackBroker.Json.Basic

/-!
# HTTP messages

Requests as they arrive, with the target, the header values and the body still
encoded, and the answers to them.
-/
namespace StackBroker.Http

/-- A request. The target is the path and, after a question mark, the query; a
    scheme and a host may come before them. -/
structure Request where
  method : String
  target : String
  headers : List (String × List UInt8)
  body : List UInt8
deriving DecidableEq, Repr

/-- Characters without regard to the case of ASCII letters. -/
def lowerCase (chars : List Char) : List Char := chars.map Char.toLower

/-- The visible characters of a byte list of ASCII, blanks and tabs; any other
    byte makes it no text. -/
def visibleText? (bytes : List UInt8) : Option String :=
  if bytes.all (fun byte => (0x20 ≤ byte && byte < 0x7F) || byte == 0x09) then
    some (String.ofList (bytes.map fun byte => Char.ofNat byte.toNat))
  else none

namespace Request

/-- A character of a scheme. -/
def isSchemeChar (c : Char) : Bool := c.isAlphanum || c == '+' || c == '-' || c == '.'

/-- A target without scheme and host. -/
def withoutHost (target : List Char) : List Char :=
  match target.dropWhile isSchemeChar with
  | ':' :: '/' :: '/' :: address => address.dropWhile fun c => c != '/' && c != '?'
  | _ => target

/-- The target without scheme, host and fragment. -/
def located (request : Request) : List Char := withoutHost (request.target.toList.takeWhile (· != '#'))

/-- The path, still encoded. -/
def path (request : Request) : List Char := request.located.takeWhile (· != '?')

/-- The query, still encoded; empty if there is none. -/
def query (request : Request) : List Char := (request.located.dropWhile (· != '?')).drop 1

/-- The first value of a header, whose name has any case. -/
def header? (request : Request) (name : String) : Option (List UInt8) :=
  (request.headers.find? fun header => lowerCase header.1.toList == lowerCase name.toList).map Prod.snd

/-- The first value of a header, if it is text. -/
def headerText? (request : Request) (name : String) : Option String :=
  (request.header? name).bind visibleText?

end Request

/-- An outline of the described interface: the paths with the statuses that their
    methods may answer with, and the names of the documents. -/
structure Outline where
  title : String
  version : String
  paths : List (String × List (String × List Nat))
  documents : List String
deriving DecidableEq, Repr

/-- The body of an answer. -/
inductive Body where
  | empty
  | json (value : Json)
  /-- Words about a request that could not be read. -/
  | explanation
  | outline (outline : Outline)
deriving Repr

/-- An answer. -/
structure Response where
  status : Nat
  body : Body
  /-- The challenge to callers that are not authorized. -/
  challenge : Option String
  /-- The methods that the path takes. -/
  allow : Option String
deriving Repr

namespace Response

def bare (status : Nat) : Response := ⟨status,.empty,none,none⟩

def json (status : Nat) (value : Json) : Response := ⟨status,.json value,none,none⟩

/-- The answer to a request that could not be read. -/
def unreadable (status : Nat) : Response := ⟨status,.explanation,none,none⟩

end Response
end StackBroker.Http
