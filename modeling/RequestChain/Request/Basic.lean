import RequestChain.Json.Basic

namespace RequestChain

/-- One step. Method, endpoint, parameters and expressions are templates. -/
structure Step where
  method : Option String
  endpoint : Option String
  parameters : Option (List (String × Json))
  /-- Variables to bind, each with the expression that selects its value. -/
  returns : Option (List (String × String))
  forEach : Option String
  deriving DecidableEq

/-- The whole request. A response of null is none. -/
structure Request where
  steps : Option (List Step)
  response : Json
  debug : Bool
  deriving DecidableEq

namespace Request

def textOrNull (s : Option String) : Json := (s.map Json.str).getD .null

def present (members : List (String × Json)) : List (String × Json) :=
  members.filter fun m => decide (m.2 ≠ .null)

def stepJson (all : Bool) (s : Step) : Json :=
  let members := [
    ("method", textOrNull s.method),
    ("endpoint", textOrNull s.endpoint),
    ("parameters", (s.parameters.map Json.obj).getD .null),
    ("returns", (s.returns.map fun r => Json.obj (r.map fun e => (e.1, .str e.2))).getD .null),
    ("foreach", textOrNull s.forEach)]
  .obj (if all then members else present members)

/-- A request as JSON, with or without the fields that have no value. Values inside parameters and
response are kept whatever they are. -/
def toJson (all : Bool) (r : Request) : Json :=
  let members := [
    ("requests", (r.steps.map fun ss => Json.arr (ss.map (stepJson all))).getD .null),
    ("response", r.response),
    ("debug", .bool r.debug)]
  .obj (if all then members else present members)

end Request
end RequestChain
