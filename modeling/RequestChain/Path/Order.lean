import RequestChain.Json.Basic
import RequestChain.Number.Order
import RequestChain.Path.Fault

namespace RequestChain.Json

def ratio? : Json → Option ExtendedRatio
  | .int n => some (.ofInt n)
  | .float x => ExtendedRatio.ofDouble? x
  | _ => none

def sameNumber (a b : Json) : Bool :=
  match a.ratio?, b.ratio? with
  | some x, some y => x.same y
  | _, _ => false

def asNumber : Json → Json
  | .bool b => .int b.toNat
  | v => v

mutual

/-- Equality of things in containers, where a truth value is a number and NaN is itself. The order
of an object's members does not matter. -/
def same : Json → Json → Bool
  | .null, .null => true
  | .float .nan, .float .nan => true
  | .str a, .str b => a == b
  | .arr a, .arr b => sameItems a b
  | .obj a, .obj b => a.length == b.length && sameMembers a b
  | a, b => sameNumber a.asNumber b.asNumber

def sameItems : List Json → List Json → Bool
  | [], [] => true
  | a :: as, b :: bs => same a b && sameItems as bs
  | _, _ => false

/-- Each member has an equal one of its name among `others`. -/
def sameMembers : List (String × Json) → List (String × Json) → Bool
  | [], _ => true
  | (name, v) :: ms, others =>
    (match Entries.get? name others with
      | some w => same v w
      | none => false) && sameMembers ms others

end

def equal (a b : Json) : Bool := a != .float .nan && same a b

/-- Equality in filters, where a truth value is no number. -/
def equalInFilter (a b : Json) : Bool :=
  match a, b with
  | .bool a, .bool b => a == b
  | .bool _, _ | _, .bool _ => false
  | a, b => equal a b

def lessThan (a b : Json) : Bool :=
  match a, b with
  | .str a, .str b => decide (a < b)
  | a, b =>
    match a.ratio?, b.ratio? with
    | some x, some y => x.less y
    | _, _ => false

def isNumeric : Json → Bool
  | .bool _ | .int _ | .float _ => true
  | _ => false

mutual

def before : Json → Json → Except PathFault Bool
  | .str a, .str b => .ok (decide (a < b))
  | .arr a, .arr b => beforeItems a b
  | a, b =>
    if a.isNumeric ∧ b.isNumeric then .ok (lessThan a.asNumber b.asNumber) else .error .incomparable

/-- The order of arrays is that of their first different items; the shorter of two without such
comes first. -/
def beforeItems : List Json → List Json → Except PathFault Bool
  | _, [] => .ok false
  | [], _ :: _ => .ok true
  | a :: as, b :: bs => if same a b then beforeItems as bs else before a b

end

end RequestChain.Json
