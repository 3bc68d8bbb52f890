import RequestChain.Json.Basic
import RequestChain.Text.Blank

namespace RequestChain

structure Call where
  method : String
  url : String
  body : Json
  authorization : Option String
  deriving DecidableEq

def Call.describe (c : Call) : String := s!"\"{c.method}\" \"{c.url}\""

/-- The call that a run is at, before the first call a mark. -/
def describeCurrent (current : Option Call) : String :=
  match current with
  | some c => c.describe
  | none => "\"-\" \"-\""

structure Reply where
  status : Int
  text : String
  reason : String
  deriving DecidableEq

namespace Reply

def isSuccess (status : Int) : Bool := 200 ≤ status && status < 300

/-- Status and reason; a missing reason leaves no blank. -/
def outcome (r : Reply) : String := Text.strip s!"{r.status} {r.reason}"

end Reply

abbrev CallResult := Except String Reply

end RequestChain
