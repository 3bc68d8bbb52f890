import RequestChain.Number.Double
import RequestChain.Path.Fault
import RequestChain.Text.Blank
import RequestChain.Text.Digit

namespace RequestChain

inductive Comparison where
  | equal
  | unequal
  | less
  | atMost
  | greater
  | atLeast
  | resembles
  deriving DecidableEq

inductive Token where
  | dollar
  | current
  | star
  | dot
  | dots
  | leftBracket
  | rightBracket
  | leftParen
  | rightParen
  | comma
  | colon
  | question
  | bang
  | ands
  | ors
  | compare (op : Comparison)
  | direction (descending : Bool)
  | int (n : Int)
  | float (x : Double)
  | name (s : String)
  | quoted (s : String)
  | operator (s : String)
  | reserved (s : String)
  deriving DecidableEq

namespace Token

def isNameStart (c : Char) : Bool := c.isAlpha || c == '_'

def isNameRest (c : Char) : Bool := c.isAlphanum || c == '_' || c == '@' || c == '-'

def reservedWords : List String := ["where", "wherenot"]

def ofName (cs : List Char) : Token :=
  let s := String.ofList cs
  if s ∈ reservedWords then .reserved s else .name s

def nameAt (front : List Char) (cs : List Char) : Token × Nat :=
  let word := front ++ cs.takeWhile isNameRest
  (ofName word, word.length)

/-- The text up to the closing quote and how many characters it takes, the quote included. A
backslash stands for the character after it. -/
def quotedText (quote : Char) : List Char → Option (List Char × Nat)
  | [] => none
  | [c] => if c = quote then some ([], 1) else none
  | c :: d :: rest =>
    if c = quote then some ([], 1)
    else if c = '\\' then
      if d = '\n' then none
      else (quotedText quote rest).map fun (text, n) => (d :: text, n + 2)
    else (quotedText quote (d :: rest)).map fun (text, n) => (c :: text, n + 1)

def maxDigits : Nat := 4300

/-- A number: whole, or with digits on both sides of a point. -/
def numberAt (negative : Bool) (cs : List Char) : Except PathFault (Option Token × Nat) :=
  let whole := cs.takeWhile Text.isDigit
  let length := whole.length + negative.toNat
  let int : Except PathFault (Option Token × Nat) :=
    if maxDigits < whole.length then .error .hugeNumber
    else
      let n : Int := Text.ofDigits whole
      .ok (some (.int (if negative then -n else n)), length)
  match cs.dropWhile Text.isDigit with
  | '.' :: rest =>
    let fraction := rest.takeWhile Text.isDigit
    if fraction.isEmpty then int
    else
      let x := Double.ofDecimal negative (Text.ofDigits (whole ++ fraction)) (-fraction.length)
      .ok (some (.float x), length + 1 + fraction.length)
  | _ => int

/-- A direction of sorting, with a comma and blanks that may stand before it: `true` for descending
order, and the number of characters. -/
def direction? (cs : List Char) : Option (Bool × Nat) :=
  let (front, cs) : Nat × List Char :=
    match cs with
    | ',' :: cs => (1, cs)
    | cs => (0, cs)
  let length := front + (cs.takeWhile Text.isBlank).length + 1
  match cs.dropWhile Text.isBlank with
  | '/' :: _ => some (false, length)
  | '\\' :: _ => some (true, length)
  | _ => none

def quotedAt (quote : Char) (make : String → Token) (cs : List Char) :
    Except PathFault (Option Token × Nat) :=
  match quotedText quote cs with
  | some (text, n) => .ok (some (make (String.ofList text)), n + 1)
  | none => .error .openQuote

def sign? : List Char → Option (Token × Nat)
  | '.' :: '.' :: _ => some (.dots, 2)
  | '.' :: _ => some (.dot, 1)
  | '=' :: '~' :: _ => some (.compare .resembles, 2)
  | '=' :: '=' :: _ => some (.compare .equal, 2)
  | '=' :: _ => some (.compare .equal, 1)
  | '!' :: '=' :: _ => some (.compare .unequal, 2)
  | '!' :: _ => some (.bang, 1)
  | '<' :: '=' :: _ => some (.compare .atMost, 2)
  | '<' :: _ => some (.compare .less, 1)
  | '>' :: '=' :: _ => some (.compare .atLeast, 2)
  | '>' :: _ => some (.compare .greater, 1)
  | '&' :: '&' :: _ => some (.ands, 2)
  | '|' :: '|' :: _ => some (.ors, 2)
  | '$' :: _ => some (.dollar, 1)
  | '@' :: _ => some (.current, 1)
  | '*' :: _ => some (.star, 1)
  | '[' :: _ => some (.leftBracket, 1)
  | ']' :: _ => some (.rightBracket, 1)
  | '(' :: _ => some (.leftParen, 1)
  | ')' :: _ => some (.rightParen, 1)
  | ',' :: _ => some (.comma, 1)
  | ':' :: _ => some (.colon, 1)
  | '?' :: _ => some (.question, 1)
  | _ => none

/-- What the text starts with: a token, or a blank, and how many characters it takes. -/
def next (c : Char) (cs : List Char) : Except PathFault (Option Token × Nat) :=
  let found (p : Token × Nat) : Except PathFault (Option Token × Nat) := .ok (some p.1, p.2)
  let digitNext := (cs.head?.map Text.isDigit).getD false
  let nameNext := (cs.head?.map isNameStart).getD false
  if c = ' ' ∨ c = '\t' ∨ c = '\n' then .ok (none, 1)
  else if isNameStart c then found (nameAt [c] cs)
  else if c = '@' ∧ nameNext then found (nameAt (c :: cs.take 1) (cs.drop 1))
  else if Text.isDigit c then numberAt false (c :: cs)
  else if c = '-' ∧ digitNext then numberAt true cs
  else if c = '\'' ∨ c = '"' then quotedAt c .quoted cs
  else if c = '\x60' then quotedAt c .operator cs
  else
    match direction? (c :: cs), sign? (c :: cs) with
    | some (descending, n), _ => found (.direction descending, n)
    | none, some sign => found sign
    | none, none => .error (.badCharacter c)

/-- The tokens of a text whose first `skip` characters belong to a token that is already read. -/
def scanFrom : Nat → List Char → Except PathFault (List Token)
  | _, [] => .ok []
  | skip + 1, _ :: cs => scanFrom skip cs
  | 0, c :: cs =>
    match next c cs with
    | .error fault => .error fault
    | .ok (none, n) => scanFrom (n - 1) cs
    | .ok (some t, n) => (scanFrom (n - 1) cs).map (t :: ·)

def scan (text : String) : Except PathFault (List Token) := scanFrom 0 text.toList

end Token
end RequestChain
