import RequestChain.Json.Basic
import RequestChain.Text.Case

namespace RequestChain

def sensitiveNames : List String :=
  ["authorization", "x-api-key", "api_key", "apikey", "token", "access_token", "password",
   "secret", "cookie", "jwt"]

def isSensitive (name : String) : Bool := (Text.lower name) ∈ sensitiveNames

namespace Json

mutual

/-- The value with each member under a sensitive name replaced by a mark. -/
def redact : Json → Json
  | .arr items => .arr (redactItems items)
  | .obj members => .obj (redactMembers members)
  | .null => .null
  | .bool b => .bool b
  | .int n => .int n
  | .float x => .float x
  | .str s => .str s

def redactItems : List Json → List Json
  | [] => []
  | v :: vs => redact v :: redactItems vs

def redactMembers : List (String × Json) → List (String × Json)
  | [] => []
  | (name, v) :: ms =>
    (name, if isSensitive name then .str "[REDACTED]" else redact v) :: redactMembers ms

end
end Json
end RequestChain
