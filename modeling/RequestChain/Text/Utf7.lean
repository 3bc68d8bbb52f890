import RequestChain.Text.Decoded
import RequestChain.Text.Utf16

namespace RequestChain.Text.Utf7

def digit? (n : Nat) : Option Nat :=
  if 65 ≤ n ∧ n ≤ 90 then some (n - 65)
  else if 97 ≤ n ∧ n ≤ 122 then some (n - 71)
  else if 48 ≤ n ∧ n ≤ 57 then some (n + 4)
  else if n = 43 then some 62
  else if n = 47 then some 63
  else none

/-- Where a reading is: outside, right after a plus sign, or in a stretch with some bits that make
no unit yet and perhaps a high unit. -/
inductive State where
  | outside
  | begun
  | inside (count bits : Nat) (high : Option Nat)

def stepOutside (n : Nat) : List (Option Char) × State :=
  if n = 43 then ([], .begun)
  else if n < 0x80 then ([some (Char.ofNat n)], .outside)
  else ([none], .outside)

def stepDigit (count bits : Nat) (high : Option Nat) (value : Nat) :
    List (Option Char) × State :=
  let count := count + 6
  let bits := bits * 64 + value
  if count < 16 then ([], .inside count bits high)
  else
    let left := count - 16
    let (chars, pending) := Utf16.stepUnit none high (bits / Nat.pow 2 left)
    (chars, .inside left (bits % Nat.pow 2 left) pending.high)

/-- The end of a stretch at a byte. Bits that are left over must be few and zero; else the byte
falls out with them. -/
def stepEnd (count bits : Nat) (high : Option Nat) (n : Nat) : List (Option Char) × State :=
  if 6 ≤ count ∨ bits ≠ 0 then ([none], .outside)
  else
    let alone : List (Option Char) := if high.isSome ∧ n < 0x80 then [none] else []
    let (chars, state) := if n = 45 then ([], .outside) else stepOutside n
    (alone ++ chars, state)

def step (state : State) (byte : UInt8) : List (Option Char) × State :=
  let n := byte.toNat
  match state, digit? n with
  | .outside, _ => stepOutside n
  | .begun, some value => stepDigit 0 0 none value
  | .begun, none => ([if n = 45 then some '+' else none], .outside)
  | .inside count bits high, some value => stepDigit count bits high value
  | .inside count bits high, none => stepEnd count bits high n

def decoder : Decoder State where
  start := .outside
  step := step
  finish
    | .inside count bits high =>
      if high.isSome ∨ 6 ≤ count ∨ bits ≠ 0 then [none] else []
    | _ => []

/-- What bytes say in UTF-7. ASCII stands for itself, and a plus sign begins a stretch of UTF-16
units in base 64, which ends before the first character that is no digit. -/
def decode (bytes : List UInt8) : Decoded := decoder.decode bytes

end RequestChain.Text.Utf7
