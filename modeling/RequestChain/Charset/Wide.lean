import RequestChain.Text.Decoded

namespace RequestChain.Charset

/-- What comes next in bytes: one character or one gap. A gap is mostly a single byte, so that the
byte after it gets a chance to begin a character. -/
inductive Reading (σ : Type) where
  | found (said : List (Option Char)) (more : Nat) (state : σ)
  | cut

namespace Reading

def gap : Reading Unit := .found [none] 0 ()

def ofChars? (cs : Option (List Char)) (more : Nat) : Reading Unit :=
  cs.elim gap fun cs => .found (cs.map some) more ()

def ofChar? (c : Option Char) (more : Nat) : Reading Unit :=
  c.elim gap fun c => .found [some c] more ()

end Reading

/-- A charset whose characters take different numbers of bytes: what is known at the start, and
what comes next in a byte and those after it. -/
structure Wide (σ : Type) where
  start : σ
  next : σ → Nat → List Nat → Reading σ
  /-- How many bytes may end too early, if there is a limit. -/
  room : Option Nat := some 8

namespace Wide

def decodeFrom (w : Wide σ) (state : σ) (out : Text.Decoded) : List Nat → Text.Decoded × List Nat
  | [] => (out, [])
  | byte :: rest =>
    match w.next state byte rest with
    | .cut => (out, byte :: rest)
    | .found said more state => w.decodeFrom state (said.foldl Array.push out) (rest.drop more)
termination_by bytes => bytes.length
decreasing_by simp only [List.length_drop, List.length_cons]; omega

/-- What bytes say, if not too many of them end too early. Those that do are one gap. -/
def decode? (w : Wide σ) (bytes : List UInt8) : Option Text.Decoded :=
  let (out, left) := w.decodeFrom w.start #[] (bytes.map UInt8.toNat)
  if left.isEmpty then some out
  else if w.room.all (left.length ≤ ·) then some (out.push none)
  else none

end Wide

structure Paired where
  single? : Nat → Option Char
  isLead : Nat → Bool
  pair? : Nat → Nat → Option Char

namespace Paired

def ascii? (byte : Nat) : Option Char := if byte < 0x80 then some (Char.ofNat byte) else none

def beyondAscii (pair? : Nat → Nat → Option Char) : Paired := ⟨ascii?, fun _ => true, pair?⟩

def next (p : Paired) (byte : Nat) (rest : List Nat) : Reading Unit :=
  match p.single? byte, p.isLead byte, rest with
  | some c, _, _ => .found [some c] 0 ()
  | none, false, _ => .gap
  | none, true, [] => .cut
  | none, true, second :: _ => .ofChar? (p.pair? byte second) 1

def wide (p : Paired) : Wide Unit where
  start := ()
  next _ := p.next

end Paired
end RequestChain.Charset
