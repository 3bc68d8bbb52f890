import RequestChain.Dialogue
import RequestChain.Url.Basic

namespace RequestChain

structure HttpRequest where
  method : String
  url : Url
  body : String
  authorization : Option String
  contentType : Option String
  deriving DecidableEq

structure HttpResponse where
  status : Int
  reason : String
  headers : List (String × String)
  body : List UInt8
  deriving DecidableEq

def headerValues (name : String) (headers : List (String × String)) : List String :=
  (headers.filter fun h => h.1.toLower == name).map Prod.snd

/-- The value of a header. Headers of one name are one header with several values. -/
def headerValue? (name : String) (headers : List (String × String)) : Option String :=
  match headerValues name headers with
  | [] => none
  | values => some (String.intercalate ", " values)

abbrev WireResult := Except String HttpResponse

abbrev Exchange := Dialogue HttpRequest WireResult

end RequestChain
