import RequestChain.Text.CombiningClass
import RequestChain.Text.Composite

namespace RequestChain.Text.Normal

/-- The two parts of a syllable. Korean syllables are not in the table: their parts follow from
their numbers. -/
def syllableParts? (n : Nat) : Option (Nat × Nat) :=
  if 0xAC00 ≤ n ∧ n ≤ 0xD7A3 then
    let k := n - 0xAC00
    some (if k % 28 = 0 then (0x1100 + k / 588, 0x1161 + k % 588 / 28)
      else (n - k % 28, 0x11A7 + k % 28))
  else none

/-- The syllable of two parts: of a first consonant and a vowel, or of these as one character and
a last consonant. -/
def syllable? (a b : Nat) : Option Nat :=
  if 0x1100 ≤ a ∧ a < 0x1113 ∧ 0x1161 ≤ b ∧ b < 0x1176 then
    some (0xAC00 + (a - 0x1100) * 588 + (b - 0x1161) * 28)
  else if 0xAC00 ≤ a ∧ a ≤ 0xD7A3 ∧ (a - 0xAC00) % 28 = 0 ∧ 0x11A7 < b ∧ b < 0x11C3 then
    some (a + (b - 0x11A7))
  else none

def parts? (n : Nat) : Option (Nat × Nat) := (syllableParts? n).or (composites.lookup n)

def whole? (a b : Nat) : Option Nat :=
  (syllable? a b).or ((composites.find? fun c => c.2 == (a, b)).map Prod.fst)

/-- The last parts of a character. Only the first of two parts has parts, and no character has
parts in more than four steps. -/
def takeApart : Nat → Nat → List Nat
  | 0, n => [n]
  | depth + 1, n =>
    match parts? n with
    | some (a, b) => takeApart depth a ++ [b]
    | none => [n]

def classOf (n : Nat) : Nat := combiningClass (Char.ofNat n)

/-- Puts a character behind others, the last of which comes first; a mark goes before the marks of
higher classes. -/
def place (n : Nat) : List Nat → List Nat
  | [] => [n]
  | last :: before =>
    if classOf n ≠ 0 ∧ classOf n < classOf last then last :: place n before
    else n :: last :: before

/-- A text that is put together: what is done, a character that may still grow, and the marks on
it, all the last first. -/
structure Growing where
  done : List Nat
  base : Option Nat
  marks : List Nat

def Growing.reversed (g : Growing) : List Nat := g.marks ++ g.base.toList ++ g.done

/-- The next character. It becomes one with the growing one, if there is a character for both and
no mark of its class or a higher one stands between them. -/
def Growing.add (g : Growing) (n : Nat) : Growing :=
  let isFree := g.marks.all fun mark => classOf mark ≠ 0 && classOf mark < classOf n
  match (if isFree then g.base.bind (whole? · n) else none) with
  | some whole => { g with base := some whole }
  | none =>
    if classOf n = 0 then ⟨g.reversed, some n, []⟩ else { g with marks := n :: g.marks }

/-- The normal form of characters that are not always replaced: they are taken apart, the marks are
put in order, and what belongs together is put together again. -/
def compose (ns : List Nat) : List Nat :=
  let apart := ns.flatMap (takeApart 4)
  let ordered := (apart.foldl (fun placed n => place n placed) []).reverse
  ((ordered.foldl Growing.add ⟨[], none, []⟩).reversed).reverse

def isNormal (cs : List Char) : Bool :=
  let ns := cs.map Char.toNat
  !cs.any replaced.has && (cs.all (·.toNat < 0x300) || compose ns == ns)

end RequestChain.Text.Normal
