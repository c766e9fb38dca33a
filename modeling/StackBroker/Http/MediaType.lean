/-!
# Media types

Whether the value of a content type header says that a body is JSON. The value
is read strictly: the type, a slash, the subtype, and parameters that each follow
a semicolon directly or after blanks.
-/
namespace StackBroker.Http.MediaType

/-- The characters of tokens. -/
def isToken (c : Char) : Bool := c.isAlphanum || "!#$%&'*+-.^_|~".toList.contains c || c = '\x60'

/-- The characters of quoted values; the closing quotation mark is looked for
    first. -/
def isQuoted (c : Char) : Bool := 31 < c.toNat && c.toNat != 127

/-- Where in the parameters the reader is. -/
inductive Place where
  /-- Before a name. -/
  | gap
  | name
  /-- After the equals sign. -/
  | opening
  | value
  /-- In a quoted value, at its first character or later. -/
  | quoted (first : Bool)
  /-- After a quoted value. -/
  | closed
deriving DecidableEq, Repr

/-- One character of the parameters. -/
def Place.next? (place : Place) (c : Char) : Option Place :=
  match place with
  | .gap => if c = ' ' then some .gap else if isToken c then some .name else none
  | .name => if c = '=' then some .opening else if isToken c then some .name else none
  | .opening => if c = '"' then some (.quoted true) else if isToken c then some .value else none
  | .value => if c = ';' then some .gap else if isToken c then some .value else none
  | .quoted first =>
    if c = '"' && !first then some .closed else if isQuoted c then some (.quoted false) else none
  | .closed => if c = ';' then some .gap else if c = ' ' then some .closed else none

/-- The parameters may end here. -/
def Place.complete : Place → Bool
  | .gap | .opening | .value | .closed => true
  | .name | .quoted _ => false

/-- The characters after the first semicolon are parameters. -/
def areParameters : Place → List Char → Bool
  | place, [] => place.complete
  | place, c :: rest =>
    match place.next? c with
    | some next => areParameters next rest
    | none => false

/-- What stands before the last plus sign after the first character, and after it. -/
def splitSuffix (subtype : List Char) : List Char × Option (List Char) :=
  let tail := (subtype.drop 1).reverse
  if tail.contains '+' then
    (subtype.take 1 ++ ((tail.dropWhile (· != '+')).drop 1).reverse,some (tail.takeWhile (· != '+')).reverse)
  else (subtype,none)

/-- The subtype is JSON, or a format on top of it. -/
def isJsonSubtype (subtype : List Char) : Bool :=
  let (name,suffix) := splitSuffix subtype
  name == "json".toList || suffix == some "json".toList

/-- The value says that a body is JSON. -/
def isJson (value : String) : Bool :=
  let chars := value.toList.map Char.toLower
  let kind := chars.takeWhile (· != '/')
  let rest := (chars.dropWhile (· != '/')).drop 1
  let subtype := rest.takeWhile (· != ';')
  let parameters := rest.dropWhile (· != ';')
  kind == "application".toList && subtype.all isToken && isJsonSubtype subtype &&
    match parameters with
    | [] => true
    | _ :: after => areParameters .gap after

end StackBroker.Http.MediaType
