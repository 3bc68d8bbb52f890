namespace RequestChain.Json

inductive Fault where
  | noValue
  | extraText
  | noComma
  | noColon
  | noName
  | openString
  | controlCharacter
  | escape
  /-- `\u` is not followed by four hexadecimal digits and something more. -/
  | unicodeEscape
  | byteOrderMark
  /-- A whole number has more digits than are converted. -/
  | tooManyDigits (count : Nat)
  deriving DecidableEq

def digitLimit : Nat := 4300

/-- A fault and where it was found: the offset counts characters from zero, line and column from
one. -/
structure ReadError where
  fault : Fault
  offset : Nat
  line : Nat
  column : Nat
  deriving DecidableEq

namespace Fault

def describe : Fault → String
  | noValue => "Expecting value"
  | extraText => "Extra data"
  | noComma => "Expecting ',' delimiter"
  | noColon => "Expecting ':' delimiter"
  | noName => "Expecting property name enclosed in double quotes"
  | openString => "Unterminated string starting at"
  | controlCharacter => "Invalid control character at"
  | escape => "Invalid \\escape"
  | unicodeEscape => "Invalid \\uXXXX escape"
  | byteOrderMark => "Unexpected UTF-8 BOM (decode using utf-8-sig)"
  | tooManyDigits count =>
    s!"Exceeds the limit ({digitLimit} digits) for integer string conversion: value has " ++
    s!"{count} digits; use sys.set_int_max_str_digits() to increase the limit"

end Fault

namespace ReadError

def locate (fault : Fault) (text rest : List Char) : ReadError :=
  let offset := text.length - rest.length
  let before := text.take offset
  ⟨fault, offset, before.count '\n' + 1, (before.reverse.takeWhile (· ≠ '\n')).length + 1⟩

/-- The report of an error. All but a number that is too long are given with their place. -/
def message (e : ReadError) : String :=
  match e.fault with
  | .tooManyDigits _ => e.fault.describe
  | _ => s!"{e.fault.describe}: line {e.line} column {e.column} (char {e.offset})"

end ReadError
end RequestChain.Json
