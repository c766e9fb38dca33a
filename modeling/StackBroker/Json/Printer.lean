import StackBroker.Json.Basic
import StackBroker.Binary64.Shortest

/-!
# Printing JSON

The compact text of a value: no blanks, the members of an object in their order,
and in strings only the quotation mark, the backslash and the control characters
escaped.
-/
namespace StackBroker.Json

/-- The lower-case hexadecimal digit of a value below sixteen. -/
def hexDigit (value : Nat) : Char := Char.ofNat (if value < 10 then 48+value else 87+value)

/-- A character inside a string. -/
def escapeChar (c : Char) : List Char :=
  if c = '"' then ['\\','"']
  else if c = '\\' then ['\\','\\']
  else if c = '\x08' then ['\\','b']
  else if c = '\t' then ['\\','t']
  else if c = '\n' then ['\\','n']
  else if c = '\x0c' then ['\\','f']
  else if c = '\r' then ['\\','r']
  else if c.toNat < 0x20 then ['\\','u','0','0',hexDigit (c.toNat/16),hexDigit (c.toNat%16)]
  else [c]

/-- A string in quotation marks. -/
def printString (text : String) : List Char :=
  '"' :: (text.toList.flatMap escapeChar ++ ['"'])

/-- A number; what is not finite has no literal and is written as null. -/
def printNumber : Number → List Char
  | .integer value => (toString value).toList
  | .float value => if value.isFinite then value.text else ['n','u','l','l']

mutual
/-- The text of a value. -/
def print : Json → List Char
  | .null => ['n','u','l','l']
  | .bool true => ['t','r','u','e']
  | .bool false => ['f','a','l','s','e']
  | .number value => printNumber value
  | .string value => printString value
  | .array [] => ['[',']']
  | .array (item :: rest) => '[' :: (print item ++ (printItems rest ++ [']']))
  | .object [] => ['{','}']
  | .object ((name,value) :: rest) =>
    '{' :: (printString name ++ (':' :: (print value ++ (printMembers rest ++ ['}']))))

/-- The text of the items after the first. -/
def printItems : List Json → List Char
  | [] => []
  | item :: rest => ',' :: (print item ++ printItems rest)

/-- The text of the members after the first. -/
def printMembers : List (String × Json) → List Char
  | [] => []
  | (name,value) :: rest => ',' :: (printString name ++ (':' :: (print value ++ printMembers rest)))
end

/-- The compact text of a value. -/
def text (value : Json) : String := String.ofList value.print

end StackBroker.Json
