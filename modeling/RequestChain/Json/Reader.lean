import RequestChain.Json.Basic
import RequestChain.Json.Fault
import RequestChain.Number.Whole
import RequestChain.Text.Hex

namespace RequestChain.Json

/-- The outcome of reading: a result, or a fault with the characters from its place on. -/
abbrev Reading := Except (Fault × List Char)

def isSpace (c : Char) : Bool := c == ' ' || c == '\t' || c == '\n' || c == '\r'

def skipSpace (cs : List Char) : List Char := cs.dropWhile isSpace

/-- The number written by the four hexadecimal digits after `u`, which must not end the text. -/
def unit? : List Char → Option Nat
  | 'u' :: a :: b :: c :: d :: _ :: _ => do
    return ((← Hex.value? a) * 16 + (← Hex.value? b)) * 256 + (← Hex.value? c) * 16 + (← Hex.value? d)
  | _ => none

/-- The character of one unit. A half of a surrogate pair stands for no character and is read as
U+FFFD. -/
def unitChar (n : Nat) : Char :=
  if 0xD800 ≤ n ∧ n < 0xE000 then Char.ofNat 0xFFFD else Char.ofNat n

def lowHalf? : List Char → Option Nat
  | '\\' :: cs => (unit? cs).filter fun n => 0xDC00 ≤ n && n < 0xE000
  | _ => none

/-- The character that an escape stands for and how many characters it takes after its backslash. -/
def escape (cs : List Char) : Except Fault (Char × Nat) :=
  match cs with
  | [] => .error .openString
  | 'u' :: _ =>
    match unit? cs with
    | none => .error .unicodeEscape
    | some n =>
      match if 0xD800 ≤ n ∧ n < 0xDC00 then lowHalf? (cs.drop 5) else none with
      | some low => .ok (Char.ofNat (0x10000 + (n - 0xD800) * 0x400 + (low - 0xDC00)), 11)
      | none => .ok (unitChar n, 5)
  | '"' :: _ => .ok ('"', 1)
  | '\\' :: _ => .ok ('\\', 1)
  | '/' :: _ => .ok ('/', 1)
  | 'b' :: _ => .ok ('\x08', 1)
  | 'f' :: _ => .ok ('\x0c', 1)
  | 'n' :: _ => .ok ('\n', 1)
  | 'r' :: _ => .ok ('\r', 1)
  | 't' :: _ => .ok ('\t', 1)
  | _ :: _ => .error .escape

/-- Where a faulty escape is reported, for the characters from its backslash on. -/
def escapePlace (opening : List Char) (cs : List Char) : Fault → List Char
  | .openString => opening
  | .unicodeEscape => cs.drop 1
  | _ => cs

/-- The characters of a string up to its closing quote. The first `skip` characters belong to an
escape that is already read; `opening` is the text from the opening quote on. -/
def stringChars (opening : List Char) : Nat → List Char → Reading (List Char × List Char)
  | _, [] => .error (.openString, opening)
  | skip + 1, _ :: cs => stringChars opening skip cs
  | 0, c :: cs =>
    if c = '"' then .ok ([], cs)
    else if c = '\\' then
      match escape cs with
      | .error fault => .error (fault, escapePlace opening (c :: cs) fault)
      | .ok (x, taken) => do
        let (xs, rest) ← stringChars opening taken cs
        return (x :: xs, rest)
    else if c.toNat < 0x20 then .error (.controlCharacter, c :: cs)
    else do
      let (xs, rest) ← stringChars opening 0 cs
      return (c :: xs, rest)

def stringValue (opening : List Char) : Reading (String × List Char) := do
  let (xs, rest) ← stringChars opening 0 (opening.drop 1)
  return (String.ofList xs, rest)

structure NumberText where
  negative : Bool
  whole : List Char
  fraction : List Char
  exponent : Option Int

/-- The whole digits at the front: a leading zero stands alone. -/
def wholeDigits : List Char → List Char × List Char
  | '0' :: cs => (['0'], cs)
  | cs => (cs.takeWhile Char.isDigit, cs.dropWhile Char.isDigit)

def fractionDigits : List Char → List Char × List Char
  | '.' :: cs =>
    match cs.takeWhile Char.isDigit with
    | [] => ([], '.' :: cs)
    | ds => (ds, cs.dropWhile Char.isDigit)
  | cs => ([], cs)

def digitsValue (ds : List Char) : Nat := Nat.ofDigitChars 10 ds 0

def exponentPart : List Char → Option Int × List Char
  | c :: cs =>
    if c = 'e' ∨ c = 'E' then
      let (negative, body) := Whole.sign cs
      match body.takeWhile Char.isDigit with
      | [] => (none, c :: cs)
      | ds =>
        (some (Whole.signed negative (digitsValue ds)), body.dropWhile Char.isDigit)
    else (none, c :: cs)
  | [] => (none, [])

def numberText? (cs : List Char) : Option (NumberText × List Char) :=
  let (negative, body) := match cs with
    | '-' :: rest => (true, rest)
    | _ => (false, cs)
  match wholeDigits body with
  | ([], _) => none
  | (whole, rest) =>
    let (fraction, rest) := fractionDigits rest
    let (exponent, rest) := exponentPart rest
    some (⟨negative, whole, fraction, exponent⟩, rest)

/-- The number: whole unless it has a fraction or an exponent. -/
def NumberText.value (t : NumberText) : Except Fault Json :=
  if t.fraction.isEmpty ∧ t.exponent.isNone then
    if digitLimit < t.whole.length then .error (.tooManyDigits t.whole.length)
    else .ok (.int (Whole.signed t.negative (digitsValue t.whole)))
  else
    .ok (.float (.ofDecimal t.negative (digitsValue (t.whole ++ t.fraction))
      (t.exponent.getD 0 - t.fraction.length)))

def words : List (List Char × Json) :=
  [("null".toList, .null), ("true".toList, .bool true), ("false".toList, .bool false),
   ("NaN".toList, .float .nan), ("Infinity".toList, .float (.infinite false)),
   ("-Infinity".toList, .float (.infinite true))]

def plainValue (cs : List Char) : Reading (Json × List Char) :=
  match words.find? (fun w => w.1.isPrefixOf cs) with
  | some (w, v) => .ok (v, cs.drop w.length)
  | none =>
    match numberText? cs with
    | none => .error (.noValue, cs)
    | some (t, rest) =>
      match t.value with
      | .ok v => .ok (v, rest)
      | .error fault => .error (fault, cs)

def memberName (cs : List Char) : Reading (String × List Char) :=
  match cs with
  | '"' :: _ => do
    let (name, rest) ← stringValue cs
    match skipSpace rest with
    | ':' :: rest => return (name, skipSpace rest)
    | rest => .error (.noColon, rest)
  | _ => .error (.noName, cs)

mutual

/-- The value at the front of the text. Each call uses up one of `fuel`; twice the length of the
text is more than any text needs. -/
def valueAt : Nat → List Char → Reading (Json × List Char)
  | 0, cs => .error (.noValue, cs)
  | fuel + 1, cs =>
    match cs with
    | '"' :: _ => do
      let (s, rest) ← stringValue cs
      return (.str s, rest)
    | '[' :: inner =>
      match skipSpace inner with
      | ']' :: rest => .ok (.arr [], rest)
      | inner => do
        let (items, rest) ← itemsAt fuel inner
        return (.arr items, rest)
    | '{' :: inner =>
      match skipSpace inner with
      | '}' :: rest => .ok (.obj [], rest)
      | inner => do
        let (pairs, rest) ← membersAt fuel inner
        return (.obj (Entries.collect pairs), rest)
    | _ => plainValue cs

def itemsAt : Nat → List Char → Reading (List Json × List Char)
  | 0, cs => .error (.noValue, cs)
  | fuel + 1, cs => do
    let (v, rest) ← valueAt fuel cs
    match skipSpace rest with
    | ']' :: rest => return ([v], rest)
    | ',' :: rest =>
      let (vs, rest) ← itemsAt fuel (skipSpace rest)
      return (v :: vs, rest)
    | rest => .error (.noComma, rest)

def membersAt : Nat → List Char → Reading (List (String × Json) × List Char)
  | 0, cs => .error (.noName, cs)
  | fuel + 1, cs => do
    let (name, rest) ← memberName cs
    let (v, rest) ← valueAt fuel rest
    match skipSpace rest with
    | '}' :: rest => return ([(name, v)], rest)
    | ',' :: rest =>
      let (more, rest) ← membersAt fuel (skipSpace rest)
      return ((name, v) :: more, rest)
    | rest => .error (.noComma, rest)

end

def document (cs : List Char) : Reading Json :=
  match cs with
  | '\ufeff' :: _ => .error (.byteOrderMark, cs)
  | _ => do
    let (v, rest) ← valueAt (2 * cs.length + 2) (skipSpace cs)
    match skipSpace rest with
    | [] => return v
    | rest => .error (.extraText, rest)

/-- Reads a text as JSON. Beyond the standard, `NaN`, `Infinity` and `-Infinity` are numbers. Of two
members of one name the later one counts, in the place of the earlier. -/
def read (text : String) : Except ReadError Json :=
  let cs := text.toList
  match document cs with
  | .ok v => .ok v
  | .error (fault, rest) => .error (.locate fault cs rest)

def read? (text : String) : Option Json := (read text).toOption

end RequestChain.Json
