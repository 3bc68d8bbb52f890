import RequestChain.Json.Reader
import RequestChain.Number.Double
import RequestChain.Request.Basic
import RequestChain.Request.Complaint
import RequestChain.Text.Blank

namespace RequestChain.Request

open Checked

def truthOfText? (s : String) : Option Bool :=
  let s := s.toLower
  if s ∈ ["0", "off", "f", "false", "n", "no"] then some false
  else if s ∈ ["1", "on", "t", "true", "y", "yes"] then some true
  else none

/-- A truth value from a whole number of 64 bits: 0 or 1. -/
def truthOfInt (n : Int) (place : List PlaceStep) : Checked Bool :=
  if n = 0 then .ok false else if n = 1 then .ok true else refuse .boolParsing place

def wordBound : Int := Int.ofNat (Nat.pow 2 63)

def checkBool (place : List PlaceStep) : Json → Checked Bool
  | .bool b => .ok b
  | .str s =>
    match truthOfText? s with
    | some b => .ok b
    | none => refuse .boolParsing place
  | .int n =>
    if -wordBound ≤ n ∧ n < wordBound then truthOfInt n place else refuse .boolType place
  | .float x =>
    match x.toInt? with
    | some n =>
      if -wordBound < n ∧ n < wordBound then truthOfInt n place else refuse .boolType place
    | none => refuse .boolType place
  | _ => refuse .boolType place

def checkText (place : List PlaceStep) : Option Json → Checked (Option String)
  | none | some .null => .ok none
  | some (.str s) => .ok (some s)
  | some _ => refuse .stringType place

def checkObject (place : List PlaceStep) : Option Json → Checked (Option (List (String × Json)))
  | none | some .null => .ok none
  | some (.obj members) => .ok (some members)
  | some _ => refuse .dictType place

def checkEntry (place : List PlaceStep) (entry : String × Json) : Checked (String × String) :=
  match entry.2 with
  | .str s => .ok (entry.1, s)
  | _ => refuse .stringType (place ++ [.name entry.1])

def checkTexts (place : List PlaceStep) (v : Option Json) :
    Checked (Option (List (String × String))) :=
  match checkObject place v with
  | .ok (some members) => (all (members.map (checkEntry place))).map some
  | .ok none => .ok none
  | .error cs => .error cs

/-- The name of the repeated variable without blanks and braces around it; nothing if none is
left. -/
def variableName (written : String) : Option String :=
  let name := Text.strip written
  let name :=
    match name.toList with
    | '\x7b' :: rest =>
      if rest.getLast? = some '\x7d' then Text.strip (String.ofList rest.dropLast) else name
    | _ => name
  if name = "" then none else some name

def returnsKey (members : List (String × Json)) : String :=
  if (Entries.get? "returns" members).isSome then "returns"
  else if (Entries.get? "variables" members).isSome then "variables"
  else "returns"

def checkFields (place : List PlaceStep) (members : List (String × Json)) : Checked Step :=
  let field name := Entries.get? name members
  let under (name : String) := place ++ [.name name]
  let key := returnsKey members
  let checked :=
    (checkText (under "method") (field "method")).both <|
    (checkText (under "endpoint") (field "endpoint")).both <|
    (checkObject (under "parameters") (field "parameters")).both <|
    (checkTexts (under key) (field key)).both <|
    checkText (under "foreach") (field "foreach")
  checked.map fun (method, endpoint, parameters, returns, forEach) =>
    ⟨method, endpoint, parameters, returns, forEach.bind variableName⟩

/-- A step, which must be an object; `other` is the complaint about anything else. -/
def checkStep (other : ComplaintKind) (place : List PlaceStep) : Json → Checked Step
  | .obj members => checkFields place members
  | _ => refuse other place

def checkSteps (other : ComplaintKind) (place : List PlaceStep) :
    Option Json → Checked (Option (List Step))
  | none | some .null => .ok none
  | some (.arr items) =>
    (all (items.mapIdx fun i v => checkStep other (place ++ [.index i]) v)).map some
  | some _ => refuse .listType place

/-- A request at a place of the input; `other` is the complaint about a value that should be an
object and is not. -/
def check (other : ComplaintKind) (place : List PlaceStep) : Json → Checked Request
  | .obj members =>
    let steps := checkSteps other (place ++ [.name "requests"]) (Entries.get? "requests" members)
    let debug :=
      match Entries.get? "debug" members with
      | none => .ok false
      | some v => checkBool (place ++ [.name "debug"]) v
    (steps.both debug).map fun (steps, debug) =>
      ⟨steps, (Entries.get? "response" members).getD .null, debug⟩
  | _ => refuse other place

/-- A request that is the whole input. Unknown members are ignored; the expressions of a step may
stand under `returns` or, if that is absent, under `variables`. -/
def ofJson (v : Json) : Checked Request := check .modelType [] v

end RequestChain.Request
