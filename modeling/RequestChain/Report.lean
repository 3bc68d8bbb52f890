import RequestChain.Template
import RequestChain.Json.Reader

namespace RequestChain

/-- The lines of an answer. Trace lines are kept only if the trace is shown. -/
structure Report where
  showTrace : Bool
  lines : List String
  deriving DecidableEq

namespace Report

def start (showTrace : Bool) : Report := ⟨showTrace, []⟩

def trace (r : Report) (line : String) : Report :=
  if r.showTrace then { r with lines := r.lines ++ [line] } else r

/-- A variable's wire text as a member of the body: the value it is the JSON text of, unless that
is null, else the text itself. -/
def memberValue (wire : String) : Json :=
  match Json.read? wire with
  | none | some .null => .str wire
  | some v => v

def variablesBody (scope : Scope) : String :=
  (Json.obj (scope.map fun v => (v.1, memberValue v.2))).pretty

/-- Puts the variables into a text, one after another: first where the token stands between
quotes, the quotes included, then elsewhere. -/
def fill (text : String) (scope : Scope) : String :=
  scope.foldl (fun text v =>
    Text.replaceAll (Template.token v.1) v.2
      (Text.replaceAll ("\"" ++ Template.token v.1 ++ "\"") v.2 text)) text

/-- The body: the caller's template with the variables put in or, if that is null, the object of all
variables. -/
def body (template : Json) (scope : Scope) : String :=
  match template with
  | .null => variablesBody scope
  | .str s => fill s scope
  | v => fill v.pretty scope

/-- Adds the body, under a heading if the trace is shown. -/
def respond (r : Report) (template : Json) (scope : Scope) : Report :=
  let r := r.trace "[RESPONSE]"
  { r with lines := r.lines ++ [body template scope] }

def text (r : Report) : String := String.join (r.lines.map (· ++ "\n"))

end Report
end RequestChain
