import StackBroker.Text.Percent

/-!
# Queries

What requests say in the query of their target. A name that is looked for may
come once; names that are not looked for may come as often as they like.
-/
namespace StackBroker.Http.Query

/-- The pairs of an encoded query. -/
def pairs (query : List Char) : List (String × String) := Form.pairs (Utf8.encodeChars query)

/-- The values of a name. -/
def valuesOf (name : String) (pairs : List (String × String)) : List String :=
  (pairs.filter fun pair => pair.1 == name).map Prod.snd

/-- A truth value, which is false if it does not come; no value if it comes twice
    or is not spelled out. -/
def flag? (name : String) (pairs : List (String × String)) : Option Bool :=
  match valuesOf name pairs with
  | [] => some false
  | [value] => if value = "true" then some true else if value = "false" then some false else none
  | _ => none

/-- A text, which is empty if it does not come; no text if it comes twice. -/
def text? (name : String) (pairs : List (String × String)) : Option String :=
  match valuesOf name pairs with
  | [] => some ""
  | [value] => some value
  | _ => none

end StackBroker.Http.Query
