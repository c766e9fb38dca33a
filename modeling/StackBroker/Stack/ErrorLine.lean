import StackBroker.Text.Blank
import StackBroker.Text.Classes
import StackBroker.Stack.Failure

/-!
# Error lines

The line by which the command line of the remote service reports a refusal:
`An error occurred (Code) when calling the Operation operation: message`, with
an optional note in parentheses before the colon. What holds no such line is
reported as it is.
-/
namespace StackBroker.Stack.ErrorLine
open StackBroker.Text

/-- What follows a text at the start of some characters. -/
def after? (start : List Char) (chars : List Char) : Option (List Char) :=
  if start.isPrefixOf chars then some (chars.drop start.length) else none

def opening : List Char := "An error occurred (".toList
def calling : List Char := ") when calling the ".toList
def operation : List Char := " operation".toList

/-- The parts of an error line. -/
structure Line where
  code : List Char
  operation : List Char
  note : Option (List Char)
  message : List Char
deriving DecidableEq, Repr

namespace Line

/-- The note in parentheses after a blank, if there is one. -/
def noteText (line : Line) : List Char :=
  match line.note with
  | none => []
  | some note => [' ','('] ++ note ++ [')']

/-- The line as it is written. -/
def text (line : Line) : List Char :=
  opening ++ line.code ++ calling ++ line.operation ++ ErrorLine.operation ++ line.noteText ++ [':',' '] ++
    line.message

/-- The parts keep to their characters, so that each ends where the next begins. -/
def WellFormed (line : Line) : Prop :=
  line.code ≠ [] ∧ ')' ∉ line.code ∧ line.operation ≠ [] ∧ (∀ c ∈ line.operation, isWord c) ∧
    (∀ note ∈ line.note, ')' ∉ note) ∧ '\n' ∉ line.message

end Line

/-- What follows an optional note in parentheses; an opening parenthesis without
    a closing one is no note. -/
def skipNote (chars : List Char) : List Char :=
  match after? [' ','('] chars with
  | none => chars
  | some inside =>
    match after? [')'] (inside.dropWhile (· != ')')) with
    | some rest => rest
    | none => chars

/-- The code and the message of an error line that begins where the characters
    begin. The code is not empty and holds no closing parenthesis, the operation
    is a word, and the message ends where the line ends. -/
def matchHere (chars : List Char) : Option (List Char × List Char) := do
  let inside ← after? opening chars
  let code := inside.takeWhile (· != ')')
  if code.isEmpty then none
  else
    let called ← after? calling (inside.dropWhile (· != ')'))
    if (called.takeWhile isWord).isEmpty then none
    else
      let noted ← after? operation (called.dropWhile isWord)
      let message ← after? [':',' '] (skipNote noted)
      some (code,message.takeWhile (· != '\n'))

/-- The first error line in some characters. -/
def find? : List Char → Option (List Char × List Char)
  | [] => matchHere []
  | c :: rest => (matchHere (c :: rest)).or (find? rest)

/-- The report of what was written to the error stream. -/
def report (stderr : String) : Report :=
  let trimmed := trim stderr.toList
  match find? trimmed with
  | some (code,message) => ⟨some (String.ofList code),String.ofList (trim message)⟩
  | none => ⟨none,String.ofList trimmed⟩

end StackBroker.Stack.ErrorLine
