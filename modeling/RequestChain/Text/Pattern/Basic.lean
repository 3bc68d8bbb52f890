import RequestChain.Text.Blank
import RequestChain.Text.CaseVariant
import RequestChain.Text.Digit
import RequestChain.Text.Word

namespace RequestChain.Text

inductive Kind where
  | digit
  | blank
  | word
  deriving DecidableEq

/-- The character belongs to the class; if only ASCII counts, no other character does. -/
def Kind.holds (asciiOnly : Bool) (c : Char) (kind : Kind) : Bool :=
  (!asciiOnly || c.toNat < 0x80) &&
    match kind with
    | digit => isDigit c
    | blank => isBlank c && !(asciiOnly && 28 ≤ c.toNat && c.toNat < 32)
    | word => isWord c

inductive Member where
  | range (first last : Nat)
  | kind (k : Kind) (negated asciiOnly : Bool)
  deriving DecidableEq

inductive Casing where
  | exact
  | ascii
  | ignored
  deriving DecidableEq

namespace Casing

def small : Casing → Char → Char
  | exact, c => c
  | ascii, c => c.toLower
  | ignored, c => smallForm c

def variants : Casing → Char → List Nat
  | exact, c => [c.toNat]
  | ascii, c => [c.toLower.toNat, c.toUpper.toNat]
  | ignored, c => caseVariants c

end Casing

structure CharSet where
  negated : Bool
  members : List Member
  deriving DecidableEq

def CharSet.holds (set : CharSet) (casing : Casing) (c : Char) : Bool :=
  let variants := casing.variants c
  set.negated != set.members.any fun
    | .range first last => variants.any fun n => first ≤ n && n ≤ last
    | .kind k negated asciiOnly => k.holds asciiOnly (casing.small c) != negated

inductive Anchor where
  | textStart
  | lineStart
  | textEnd
  /-- The end, or before a line feed that ends the text. -/
  | lastLineEnd
  | lineEnd
  | wordEdge (asciiOnly : Bool)
  | noWordEdge (asciiOnly : Bool)
  deriving DecidableEq

def Anchor.holds (text : Array Char) (place : Nat) : Anchor → Bool
  | textStart => place == 0
  | lineStart => place == 0 || text[place - 1]? == some '\n'
  | textEnd => place == text.size
  | lastLineEnd => place == text.size || (place + 1 == text.size && text[place]? == some '\n')
  | lineEnd => place == text.size || text[place]? == some '\n'
  | wordEdge asciiOnly => isEdge asciiOnly
  | noWordEdge asciiOnly => !text.isEmpty && !isEdge asciiOnly
where
  isEdge (asciiOnly : Bool) : Bool :=
    let before := place != 0 && (text[place - 1]?).any (Kind.holds asciiOnly · .word)
    before != (text[place]?).any (Kind.holds asciiOnly · .word)

inductive Greed where
  | most
  | fewest
  | possessive
  deriving DecidableEq

inductive Pattern where
  | nothing
  | anchor (a : Anchor)
  | one (set : CharSet) (casing : Casing)
  | sequence (a b : Pattern)
  | choice (a b : Pattern)
  | repeated (least : Nat) (most : Option Nat) (greed : Greed) (p : Pattern)
  | group (number : Option Nat) (p : Pattern)
  | again (number : Nat) (casing : Casing)
  | firstWay (p : Pattern)
  | ahead (wanted : Bool) (p : Pattern)
  | behind (wanted : Bool) (width : Nat) (p : Pattern)
  | ifGroup (number : Nat) (yes no : Pattern)
  deriving DecidableEq, Inhabited

namespace Pattern

/-- How far a match has come: the place in the text, and what groups have matched, the last one
first, each with its number, its first place and the place after it. -/
structure Progress where
  place : Nat
  groups : List (Nat × Nat × Nat)

abbrev Onward := Progress → Option Progress

/-- Repetitions of `turn`, of which `count` are done. One that has taken nothing since the place
`last` is the last one. -/
def repetitions (turn : Onward → Onward) (least : Nat) (most : Option Nat) (eager : Bool) :
    (bound count : Nat) → (last : Option Nat) → Onward → Onward
  | 0, _, _, onward, p => onward p
  | bound + 1, count, last, onward, p =>
    let next := repetitions turn least most eager bound (count + 1)
    if count < least then turn (next last onward) p
    else
      let more (_ : Unit) : Option Progress :=
        if most.all (count < ·) ∧ last ≠ some p.place then turn (next (some p.place) onward) p
        else none
      if eager then (more ()).orElse fun _ => onward p
      else (onward p).orElse more

/-- Matches the pattern and then goes onward. The ways of a pattern are tried in order, each with
all that comes after it, so the first way on which everything fits is the one that counts. -/
def match? (text : Array Char) : Pattern → Onward → Onward
  | nothing, onward, p => onward p
  | anchor a, onward, p => if a.holds text p.place then onward p else none
  | one set casing, onward, p =>
    match text[p.place]? with
    | some c => if set.holds casing c then onward { p with place := p.place + 1 } else none
    | none => none
  | sequence a b, onward, p => match? text a (match? text b onward) p
  | choice a b, onward, p => (match? text a onward p).orElse fun _ => match? text b onward p
  | repeated least most greed q, onward, p =>
    let bound := least + text.size + 2
    match greed with
    | .most => repetitions (match? text q) least most true bound 0 none onward p
    | .fewest => repetitions (match? text q) least most false bound 0 none onward p
    | .possessive =>
      let turn (onward : Onward) : Onward := fun p => (match? text q some p).bind onward
      (repetitions turn least most true bound 0 none some p).bind onward
  | group none q, onward, p => match? text q onward p
  | group (some n) q, onward, p =>
    match? text q (fun r => onward { r with groups := (n, p.place, r.place) :: r.groups }) p
  | again n casing, onward, p =>
    match p.groups.lookup n with
    | none => none
    | some (first, after) =>
      let taken := (text.extract first after).map casing.small
      let there := (text.extract p.place (p.place + taken.size)).map casing.small
      if taken = there then onward { p with place := p.place + taken.size } else none
  | firstWay q, onward, p => (match? text q some p).bind onward
  | ahead wanted q, onward, p =>
    match match? text q some p, wanted with
    | some r, true => onward { r with place := p.place }
    | none, false => onward p
    | _, _ => none
  | behind wanted width q, onward, p =>
    let found :=
      if p.place < width then none else match? text q some { p with place := p.place - width }
    match found, wanted with
    | some r, true => onward { r with place := p.place }
    | none, false => onward p
    | _, _ => none
  | ifGroup n yes no, onward, p =>
    if (p.groups.lookup n).isSome then match? text yes onward p else match? text no onward p

def occursIn (q : Pattern) (text : String) : Bool :=
  let cs := text.toList.toArray
  (List.range (cs.size + 1)).any fun place => (q.match? cs some ⟨place, []⟩).isSome

abbrev Width := Nat × Option Nat

namespace Width

def add (a b : Width) : Width :=
  (a.1 + b.1, a.2.bind fun m => b.2.map (m + ·))

def either (a b : Width) : Width :=
  (min a.1 b.1, a.2.bind fun m => b.2.map (max m))

def times (least : Nat) (most : Option Nat) (a : Width) : Width :=
  (least * a.1, if a.2 = some 0 ∨ most = some 0 then some 0
    else a.2.bind fun m => most.map (· * m))

def fixed? (a : Width) : Option Nat := if a.2 = some a.1 then some a.1 else none

end Width

def width (groups : Nat → Width) : Pattern → Width
  | nothing | anchor _ | ahead _ _ | behind _ _ _ => (0, some 0)
  | one _ _ => (1, some 1)
  | sequence a b => (width groups a).add (width groups b)
  | choice a b => (width groups a).either (width groups b)
  | repeated least most _ p => (width groups p).times least most
  | group _ p | firstWay p => width groups p
  | again n _ => groups n
  | ifGroup _ yes no => (width groups yes).either (width groups no)

end Pattern
end RequestChain.Text
