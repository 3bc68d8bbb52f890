import RequestChain.Text.Quoted

namespace RequestChain

inductive FailureKind where
  | validation
  | extraction
  | downstream
  | unhandled
  deriving DecidableEq

namespace FailureKind

def name : FailureKind → String
  | validation => "VALIDATION"
  | extraction => "EXTRACTION"
  | downstream => "DOWNSTREAM"
  | unhandled => "UNHANDLED"

def ofName? : String → Option FailureKind
  | "VALIDATION" => some validation
  | "EXTRACTION" => some extraction
  | "DOWNSTREAM" => some downstream
  | "UNHANDLED" => some unhandled
  | _ => none

def unknownName (name : String) : String := Text.quoted name ++ " is not a valid FailureKind"

/-- The status of an answer: the caller's faults give 400, others 500. -/
def status : FailureKind → Nat
  | validation | extraction => 400
  | downstream | unhandled => 500

end FailureKind

structure Failure where
  kind : FailureKind
  message : String
  /-- The status that the called service answered, when it was that. -/
  downstreamStatus : Option Int
  deriving DecidableEq

def Failure.status (f : Failure) : Nat := f.kind.status

end RequestChain
