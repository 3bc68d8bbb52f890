import RequestChain.Path.Basic

namespace RequestChain.Path

abbrev Parsed := Except PathFault

def moreNames : List Token → List String × List Token
  | .comma :: .name s :: ts | .comma :: .quoted s :: ts =>
    let (names, rest) := moreNames ts
    (s :: names, rest)
  | ts => ([], ts)

def moreInts : List Token → List Int × List Token
  | .comma :: .int n :: ts =>
    let (ns, rest) := moreInts ts
    (n :: ns, rest)
  | ts => ([], ts)

def optionalInt : List Token → Option Int × List Token
  | .int n :: ts => (some n, ts)
  | ts => (none, ts)

def closing {α : Type} (value : α) : List Token → Parsed (α × List Token)
  | .rightBracket :: ts => .ok (value, ts)
  | _ => .error .unexpected

def positions (ts : List Token) : Parsed (Segment × List Token) :=
  match optionalInt ts with
  | (first, .colon :: ts) =>
    match optionalInt ts with
    | (last, .colon :: ts) =>
      let (step, ts) := optionalInt ts
      closing (.slice first last step) ts
    | (last, ts) => closing (.slice first last none) ts
  | (some n, ts) =>
    let (ns, ts) := moreInts ts
    closing (.indices (n :: ns)) ts
  | (none, _) => .error .unexpected

def subscript : List Token → Parsed (Segment × List Token)
  | .star :: ts => closing .children ts
  | .name s :: ts | .quoted s :: ts =>
    let (names, ts) := moreNames ts
    closing (.members (s :: names)) ts
  | ts => positions ts

def operatorSegment : String → Parsed Segment
  | "this" => .ok .here
  | "parent" => .ok .parent
  | "len" => .ok .length
  | "keys" => .ok .names
  | "sorted" => .ok .sorted
  | name => .error (.unknownOperator name)

/-- The value of a literal token. A bare name is a text. -/
def literal? : Token → Option Json
  | .int n => some (.int n)
  | .float x => some (.float x)
  | .quoted s => some (.str s)
  | .name "true" => some (.bool true)
  | .name "false" => some (.bool false)
  | .name "null" => some .null
  | .name s => some (.str s)
  | _ => none

def valueWords : List String := ["true", "false", "null"]

def queryName? : Token → Option String
  | .quoted s => some s
  | .name s => if s ∈ valueWords then none else some s
  | _ => none

def querySteps : List Token → Path × List Token
  | .dot :: t :: ts =>
    match queryName? t with
    | some name =>
      let (more, rest) := querySteps ts
      (.members [name] :: more, rest)
    | none => ([], .dot :: t :: ts)
  | .leftBracket :: .int n :: .rightBracket :: ts =>
    let (more, rest) := querySteps ts
    (.indices [n] :: more, rest)
  | .leftBracket :: t :: .rightBracket :: ts =>
    match queryName? t with
    | some name =>
      let (more, rest) := querySteps ts
      (.members [name] :: more, rest)
    | none => ([], .leftBracket :: t :: .rightBracket :: ts)
  | ts => ([], ts)

/-- What a comparison compares with, and the tokens after it. A pattern is no query and neither a
truth value nor a double. -/
def rightSide (op : Comparison) : List Token → Parsed (Operand × List Token)
  | [] => .error .unexpected
  | t :: ts =>
    if op = .resembles then
      match t with
      | .int n => .ok (.literal (.int n), ts)
      | t =>
        match queryName? t with
        | some pattern => .ok (.literal (.str pattern), ts)
        | none => .error .unexpected
    else
      match t with
      | .dollar =>
        let (steps, rest) := querySteps ts
        .ok (.query (.root :: steps), rest)
      | .current =>
        let (steps, rest) := querySteps ts
        .ok (.query (.here :: steps), rest)
      | t =>
        match literal? t with
        | some v => .ok (.literal v, ts)
        | none => .error .unexpected

def comparison (left : Path) : List Token → Parsed (Condition × List Token)
  | .compare op :: ts => do
    let (right, ts) ← rightSide op ts
    return (.compare left op right, ts)
  | ts => .ok (.present left, ts)

mutual

def pathAt : Nat → List Token → Parsed (Path × List Token)
  | 0, _ => .error .unexpected
  | fuel + 1, ts => do
    let (first, ts) ← operandAt fuel ts
    let (more, ts) ← continuedAt fuel ts
    return (first ++ more, ts)

def operandAt : Nat → List Token → Parsed (Path × List Token)
  | 0, _ => .error .unexpected
  | fuel + 1, ts =>
    match ts with
    | .dollar :: ts => .ok ([.root], ts)
    | .current :: ts => .ok ([.here], ts)
    | .star :: ts => .ok ([.children], ts)
    | .int n :: ts => .ok ([.members [toString n]], ts)
    | .name s :: ts | .quoted s :: ts =>
      let (names, ts) := moreNames ts
      .ok ([.members (s :: names)], ts)
    | .operator s :: ts => do
      let segment ← operatorSegment s
      return ([segment], ts)
    | .leftBracket :: ts => do
      let (segment, ts) ← subscript ts
      return ([segment], ts)
    | .leftParen :: ts => do
      let (path, ts) ← pathAt fuel ts
      match ts with
      | .rightParen :: ts => return (path, ts)
      | _ => .error .unexpected
    | _ => .error .unexpected

def continuedAt : Nat → List Token → Parsed (Path × List Token)
  | 0, _ => .error .unexpected
  | fuel + 1, ts =>
    match ts with
    | .dot :: ts => do
      let (part, ts) ← operandAt fuel ts
      let (more, ts) ← continuedAt fuel ts
      return (part ++ more, ts)
    | .dots :: .leftBracket :: .question :: ts => do
      let (segment, ts) ← filterAt fuel ts
      let (more, ts) ← continuedAt fuel ts
      return (.descend :: segment :: more, ts)
    | .dots :: ts => do
      let (part, ts) ← operandAt fuel ts
      let (more, ts) ← continuedAt fuel ts
      return (.descend :: part ++ more, ts)
    | .leftBracket :: .question :: ts => do
      let (segment, ts) ← filterAt fuel ts
      let (more, ts) ← continuedAt fuel ts
      return (segment :: more, ts)
    | .leftBracket :: .direction d :: ts => do
      let (orders, ts) ← ordersAt fuel (.direction d :: ts)
      let (segment, ts) ← closing (.sortedBy orders) ts
      let (more, ts) ← continuedAt fuel ts
      return (segment :: more, ts)
    | .leftBracket :: ts => do
      let (segment, ts) ← subscript ts
      let (more, ts) ← continuedAt fuel ts
      return (segment :: more, ts)
    | ts => .ok ([], ts)

def filterAt : Nat → List Token → Parsed (Segment × List Token)
  | 0, _ => .error .unexpected
  | fuel + 1, ts => do
    let (condition, ts) ← conditionAt fuel ts
    closing (.filter condition) ts

def ordersAt : Nat → List Token → Parsed (List (Bool × Path) × List Token)
  | 0, _ => .error .unexpected
  | fuel + 1, ts =>
    match ts with
    | .direction descending :: ts => do
      let (path, ts) ← pathAt fuel ts
      let (orders, ts) ← ordersAt fuel ts
      return ((descending, path) :: orders, ts)
    | ts => .ok ([], ts)

def conditionAt : Nat → List Token → Parsed (Condition × List Token)
  | 0, _ => .error .unexpected
  | fuel + 1, ts => do
    let (a, ts) ← bothAt fuel ts
    match ts with
    | .ors :: ts => do
      let (b, ts) ← conditionAt fuel ts
      return (.either a b, ts)
    | ts => return (a, ts)

def bothAt : Nat → List Token → Parsed (Condition × List Token)
  | 0, _ => .error .unexpected
  | fuel + 1, ts => do
    let (a, ts) ← singleAt fuel ts
    match ts with
    | .ands :: ts => do
      let (b, ts) ← bothAt fuel ts
      return (.both a b, ts)
    | ts => return (a, ts)

/-- A single condition. A path between parentheses may go on after them. -/
def singleAt : Nat → List Token → Parsed (Condition × List Token)
  | 0, _ => .error .unexpected
  | fuel + 1, ts =>
    match ts with
    | .bang :: ts => do
      let (path, ts) ← pathAt fuel ts
      return (.absent path, ts)
    | .leftParen :: ts => do
      let (condition, ts) ← conditionAt fuel ts
      match condition, ts with
      | .present path, .rightParen :: ts => do
        let (more, ts) ← continuedAt fuel ts
        comparison (path ++ more) ts
      | condition, .rightParen :: ts => return (condition, ts)
      | _, _ => .error .unexpected
    | ts => do
      let (path, ts) ← pathAt fuel ts
      comparison path ts

end

/-- Reads a path; the whole text must be one.

    path      = operand ("." operand | ".." (operand | filter) | subscript | filter | sorting)*
    operand   = "$" | "@" | "*" | integer | names | operator | subscript | "(" path ")"
    names     = name ("," name)*
    subscript = "[" ("*" | names | integers | slice) "]"
    filter    = "[" "?" condition "]"
    sorting   = "[" (direction path)+ "]"
    condition = both ("||" both)*
    both      = single ("&&" single)*
    single    = "!" path | "(" condition ")" | path
              | path comparison (literal | query) | path "=~" (name | integer)
    query     = ("$" | "@") ("." name | "[" (name | integer) "]")* -/
def parse (text : String) : Parsed Path := do
  let tokens ← Token.scan text
  let (path, rest) ← pathAt (6 * tokens.length + 6) tokens
  match rest with
  | [] => return path
  | _ => .error .unexpected

end RequestChain.Path
