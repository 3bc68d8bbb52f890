import RequestChain.Failure
import RequestChain.Json.Writer
import RequestChain.Redaction
import RequestChain.Run.Call
import RequestChain.Selection

namespace RequestChain

inductive LogLevel where
  | debug
  | info
  | warning
  | error
  deriving DecidableEq

def LogLevel.name : LogLevel → String
  | debug => "DEBUG"
  | info => "INFO"
  | warning => "WARNING"
  | error => "ERROR"

structure LogEntry where
  level : LogLevel
  message : String
  deriving DecidableEq

/-- A value as the log shows it: secrets hidden, in ASCII. -/
def logged (v : Json) : String := v.redact.write .plainAscii

inductive Event where
  | noSteps
  | incomplete (number : Nat)
  | iterating (name : String) (count : Nat)
  | calling (call : Call)
  | replied (call : Call) (reply : Reply)
  | raised (call : Call) (message : String)
  /-- An expression selected nothing, so the variable keeps what it has. -/
  | unmatched (name path : String)
  | bound (name wire : String)
  | unevaluated (call : Call) (path : String) (error : ExtractionError)
  | stopped (number : Nat) (failure : Failure)
  deriving DecidableEq

namespace Event

def incompleteMessage (number : Nat) : String :=
  s!"Request #{number} is missing a method or an endpoint"

def traceLine? : Event → Option String
  | noSteps => some "[ERROR] Composite request contains no requests"
  | incomplete number => some s!"[ERROR] {incompleteMessage number}"
  | replied call reply =>
    if Reply.isSuccess reply.status then
      some s!"[SUCCESS] {call.describe} ended up with {reply.outcome}"
    else some s!"[ERROR] {call.describe} ended up with {reply.outcome}!"
  | raised call message => some s!"[FATAL ERROR] {call.describe} thrown an exception: {message}"
  | bound name wire => some s!"[INFO] Returned parameter: {name} = {wire}"
  | unevaluated call path error =>
    some s!"[ERROR] {call.describe} Could not find {path} Reason: {error.message}"
  | iterating .. | calling .. | unmatched .. | stopped .. => none

def logEntry? : Event → Option LogEntry
  | noSteps => some ⟨.warning, "Composite request rejected: no requests"⟩
  | incomplete number => some ⟨.error, incompleteMessage number⟩
  | iterating name count => some ⟨.info, s!"foreach '{name}': {count} iteration(s)"⟩
  | calling call =>
    some ⟨.info, s!"{call.method} request to \"{call.url}\" with values: {logged call.body}"⟩
  | replied call reply =>
    some ⟨if Reply.isSuccess reply.status then .info else .error,
      s!"Response returned from \"{call.url}\" with status code {reply.status}"⟩
  | raised call message =>
    some ⟨.error, s!"Error while processing request {call.describe}: {message}"⟩
  | unmatched name path => some ⟨.debug, s!"Returned parameter {name}: no match for {path}"⟩
  | unevaluated _ path error =>
    some ⟨.error, s!"Returned parameter: {path} not found! ({error.message})"⟩
  | stopped number failure =>
    some ⟨.warning,
      s!"Composite run stopped at request #{number}: {failure.kind.name} ({failure.message})"⟩
  | bound .. => none

end Event
end RequestChain
