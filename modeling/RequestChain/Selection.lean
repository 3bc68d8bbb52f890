import RequestChain.Json.Reader
import RequestChain.Path.Evaluate
import RequestChain.Text.Blank

namespace RequestChain

inductive ExtractionError where
  | notJson (e : Json.ReadError)
  | emptyExpression
  | path (fault : PathFault)
  deriving DecidableEq

def ExtractionError.message : ExtractionError → String
  | notJson e => "response body is not valid JSON: " ++ e.message
  | emptyExpression => "empty JSONPath expression"
  | path fault => fault.message

namespace Selection

def document (text : String) : Except ExtractionError Json :=
  match Json.read text with
  | .ok v => .ok v
  | .error e => .error (.notJson e)

/-- The expression with its `$`: before a bracket the sign alone is put, before anything else the
sign and a point. -/
def rooted (expression : String) : Except ExtractionError String :=
  let text := Text.strip expression
  match text.toList with
  | [] => .error .emptyExpression
  | '$' :: _ => .ok text
  | '[' :: _ => .ok ("$" ++ text)
  | _ => .ok ("$." ++ text)

/-- The values that an expression selects, in the order of its path. -/
def select (document : Json) (expression : String) : Except ExtractionError (List Json) := do
  let text ← rooted expression
  match Path.parse text with
  | .error fault => .error (.path fault)
  | .ok path =>
    match Path.select path document with
    | .error fault => .error (.path fault)
    | .ok values => .ok values

end Selection
end RequestChain
