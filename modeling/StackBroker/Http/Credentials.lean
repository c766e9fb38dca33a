import StackBroker.Text.Base64
import StackBroker.Text.Blank
import StackBroker.Text.Utf8

/-!
# Credentials

The header value that carries a username and a password: the word `Basic`, a
blank, and both in Base64, joined by a colon.
-/
namespace StackBroker.Http

/-- A username and a password. -/
structure Credentials where
  username : String
  password : String
deriving DecidableEq, Repr

namespace Credentials
open StackBroker.Text

/-- What stands before and after the first of some character, if there is one. -/
def splitAt? (separator : Char) : List Char → Option (List Char × List Char)
  | [] => none
  | c :: rest =>
    if c = separator then some ([],rest)
    else (splitAt? separator rest).map fun (before,after) => (c :: before,after)

/-- The word of the scheme, in any case. -/
def isBasic (word : List Char) : Bool := word.map Char.toLower == "basic".toList

/-- The credentials in the value of a header. -/
def ofHeader? (value : String) : Option Credentials := do
  let (scheme,encoded) ← splitAt? ' ' (trim value.toList)
  if isBasic scheme then
    let bytes ← Base64.decode (trim encoded)
    let text ← Utf8.decodeStrict bytes
    let (username,password) ← splitAt? ':' text.toList
    some ⟨String.ofList username,String.ofList password⟩
  else none

/-- The value of the header that carries credentials. -/
def header (credentials : Credentials) : String :=
  String.ofList ("Basic ".toList ++
    Base64.encode (Utf8.encode (credentials.username ++ ":" ++ credentials.password)))

end Credentials
end StackBroker.Http
