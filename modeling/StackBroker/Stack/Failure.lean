/-!
# Failures of stacks

Failures as a backend reports them, and what becomes of them: that a stack is
unknown is a failure of its own where a stack is described or modified, and is
no different from any other where one is created or deleted.
-/
namespace StackBroker.Stack

/-- Why a call on a stack fails. -/
inductive Failure where
  | doesNotExist
  /-- The backend refused, with its own words. -/
  | refused (message : String)
  /-- The backend could not be run. -/
  | unstarted (message : String)
  /-- The backend answered what cannot be read. -/
  | unreadable (message : String)
deriving DecidableEq, Repr

def Failure.message : Failure → String
  | .doesNotExist => "cloudformation stack does not exist"
  | .refused message => message
  | .unstarted message => message
  | .unreadable message => "Parse error: " ++ message

/-- What is done with a stack. -/
inductive Action where
  | describe
  | create
  | modify
  | delete
deriving DecidableEq, Repr

def Action.text : Action → String
  | .describe => "describe"
  | .create => "create"
  | .modify => "modify"
  | .delete => "delete"

/-- The actions that need a stack to be there. -/
def Action.expectsStack : Action → Bool
  | .describe | .modify => true
  | .create | .delete => false

/-- A failure as a backend reports it: a code, if it is structured, and a message. -/
structure Report where
  code : Option String
  message : String
deriving DecidableEq, Repr

/-- Whether one list of characters occurs in another. -/
def occursIn (part : List Char) : List Char → Bool
  | [] => part.isEmpty
  | c :: rest => part.isPrefixOf (c :: rest) || occursIn part rest

namespace Report

/-- A request for an unknown name is refused as an invalid one, with a message
    that says so, or by a code of its own. -/
def isUnknownStack (report : Report) : Bool :=
  match report.code with
  | none => false
  | some code =>
    if code = "ValidationError" then occursIn "does not exist".toList report.message.toList
    else code = "NotFound" || code = "404"

/-- The message of a report after its code. -/
def line (report : Report) : String :=
  match report.code with
  | some code => code ++ ": " ++ report.message
  | none => report.message

/-- The failure of an action with a report. -/
def failure (report : Report) (action : Action) : Failure :=
  if action.expectsStack && report.isUnknownStack then .doesNotExist else .refused report.line

end Report
end StackBroker.Stack
