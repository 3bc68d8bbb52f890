import RequestChain.Text.Hex
import RequestChain.Text.Pattern.Basic

namespace RequestChain.Text.Pattern

inductive Sign where
  | plain (c : Char)
  | escaped (c : Char)

namespace Sign

def ofChars? : List Char → Option (List Sign)
  | [] => some []
  | '\\' :: c :: cs => (ofChars? cs).map (escaped c :: ·)
  | ['\\'] => none
  | c :: cs => (ofChars? cs).map (plain c :: ·)

def plain? : Sign → Option Char
  | plain c => some c
  | escaped _ => none

/-- The plain signs at the front that satisfy a test, but no more than so many, and the others. -/
def spanUpTo (p : Char → Bool) : Nat → List Sign → List Char × List Sign
  | n + 1, plain c :: rest =>
    if p c then
      let (cs, rest) := spanUpTo p n rest
      (c :: cs, rest)
    else ([], plain c :: rest)
  | _, signs => ([], signs)

def digits (signs : List Sign) : List Char × List Sign := spanUpTo Char.isDigit signs.length signs

def upTo? (last : Char) : List Sign → Option (List Char × List Sign)
  | [] => none
  | plain c :: rest =>
    if c = last then some ([], rest)
    else (upTo? last rest).map fun (cs, rest) => (c :: cs, rest)
  | escaped c :: rest => (upTo? last rest).map fun (cs, rest) => ('\\' :: c :: cs, rest)

end Sign

structure Options where
  ignoreCase : Bool := false
  lines : Bool := false
  dotAll : Bool := false
  spacious : Bool := false
  asciiOnly : Bool := false
  unicode : Bool := false

namespace Options

def casing (o : Options) : Casing :=
  if o.ignoreCase then (if o.asciiOnly then .ascii else .ignored) else .exact

def set (on : Bool) (o : Options) : Char → Options
  | 'i' => { o with ignoreCase := on }
  | 'm' => { o with lines := on }
  | 's' => { o with dotAll := on }
  | 'x' => { o with spacious := on }
  | 'a' => { o with asciiOnly := on }
  | _ => { o with unicode := on }

/-- The options for a part of the pattern. There the last one of `a` and `u` counts. -/
def within (o : Options) (on off : List Char) : Options :=
  let o := if on.contains 'u' then { o with asciiOnly := false } else o
  off.foldl (set false) (on.foldl (set true) o)

end Options

structure Scan where
  rest : List Sign
  options : Options
  groups : Array (Option Width)
  names : List (String × Nat)
  /-- How many groups there were before a look behind, within it. -/
  before : Option Nat
  asked : List Nat

namespace Scan

def widthOf (s : Scan) (n : Nat) : Width := ((s.groups[n - 1]?).join).getD (0, some 0)

/-- The group is complete, and it is not one of the same look behind. -/
def canRefer (s : Scan) (n : Nat) : Bool :=
  n != 0 && ((s.groups[n - 1]?).join).isSome && s.before.all (n ≤ ·)

def one (s : Scan) (negated : Bool) (members : List Member) : Pattern :=
  .one ⟨negated, members⟩ s.options.casing

def literal (s : Scan) (n : Nat) : Pattern := s.one false [.range n n]

def refer? (s : Scan) (n : Nat) : Option (Pattern × Scan) :=
  if s.canRefer n then some (.again n s.options.casing, s) else none

end Scan

def hexNumber? (count : Nat) (signs : List Sign) : Option (Nat × List Sign) :=
  let (ds, rest) := Sign.spanUpTo (fun c => (Hex.value? c).isSome) count signs
  if ds.length = count then
    some (ds.foldl (fun n d => n * 16 + (Hex.value? d).getD 0) 0, rest)
  else none

def octal (ds : List Char) : Nat := ds.foldl (fun n d => n * 8 + (d.toNat - 48)) 0

def isOctal (c : Char) : Bool := '0' ≤ c && c ≤ '7'

def letterEscapes : List (Char × Nat) :=
  [('a', 7), ('f', 12), ('n', 10), ('r', 13), ('t', 9), ('v', 11), ('\\', 0x5C)]

/-- The character of an escaped sign, with the signs after it. Letters without a meaning cannot be
escaped, and digits have other meanings. -/
def escapedChar? (c : Char) (rest : List Sign) : Option (Nat × List Sign) :=
  match letterEscapes.lookup c with
  | some n => some (n, rest)
  | none =>
    match c with
    | 'x' => hexNumber? 2 rest
    | 'u' => hexNumber? 4 rest
    | 'U' => (hexNumber? 8 rest).filter fun (n, _) => n ≤ 0x10FFFF
    | c => if c.isAlphanum then none else some (c.toNat, rest)

def kind? : Char → Option (Kind × Bool)
  | 'd' => some (.digit, false)
  | 'D' => some (.digit, true)
  | 's' => some (.blank, false)
  | 'S' => some (.blank, true)
  | 'w' => some (.word, false)
  | 'W' => some (.word, true)
  | _ => none

def member? (asciiOnly : Bool) : Sign → List Sign → Option (Member × List Sign)
  | .plain c, rest => some (.range c.toNat c.toNat, rest)
  | .escaped c, rest =>
    match kind? c with
    | some (k, negated) => some (.kind k negated asciiOnly, rest)
    | none =>
      if c = 'b' then some (.range 8 8, rest)
      else if isOctal c then
        let (ds, rest) := Sign.spanUpTo isOctal 2 rest
        let n := octal (c :: ds)
        if n ≤ 0o377 then some (.range n n, rest) else none
      else (escapedChar? c rest).map fun (n, rest) => (.range n n, rest)

/-- The members of a set up to its closing bracket, and the signs after that. At the front even that
bracket is a member. A member with a hyphen and another one is a range, which must not be empty. -/
def members? (asciiOnly : Bool) : Nat → (front : Bool) → List Sign → Option (List Member × List Sign)
  | 0, _, _ => none
  | _, _, [] => none
  | bound + 1, front, sign :: rest =>
    if !front && sign.plain? == some ']' then some ([], rest)
    else do
      let (first, rest) ← member? asciiOnly sign rest
      match rest with
      | .plain '-' :: .plain ']' :: rest => return ([first, .range 0x2D 0x2D], rest)
      | .plain '-' :: next :: rest =>
        let (last, rest) ← member? asciiOnly next rest
        match first, last with
        | .range a _, .range b _ =>
          if b < a then none
          else
            let (more, rest) ← members? asciiOnly bound false rest
            return (.range a b :: more, rest)
        | _, _ => none
      | rest =>
        let (more, rest) ← members? asciiOnly bound false rest
        return (first :: more, rest)

/-- A backslash and a digit other than zero: a group once more, or the number of a character in
three octal digits. -/
def numbered? (c : Char) (s : Scan) : Option (Pattern × Scan) :=
  match s.rest with
  | .plain d :: rest =>
    if d.isDigit then
      match isOctal c && isOctal d, rest with
      | true, .plain e :: more =>
        if isOctal e then
          let n := octal [c, d, e]
          if n ≤ 0o377 then some (s.literal n, { s with rest := more }) else none
        else { s with rest := rest }.refer? (Nat.ofDigitChars 10 [c, d] 0)
      | _, _ => { s with rest := rest }.refer? (Nat.ofDigitChars 10 [c, d] 0)
    else s.refer? (Nat.ofDigitChars 10 [c] 0)
  | _ => s.refer? (Nat.ofDigitChars 10 [c] 0)

def escape? (c : Char) (s : Scan) : Option (Pattern × Scan) :=
  match kind? c with
  | some (k, negated) => some (s.one false [.kind k negated s.options.asciiOnly], s)
  | none =>
    match c with
    | 'A' => some (.anchor .textStart, s)
    | 'Z' => some (.anchor .textEnd, s)
    | 'b' => some (.anchor (.wordEdge s.options.asciiOnly), s)
    | 'B' => some (.anchor (.noWordEdge s.options.asciiOnly), s)
    | '0' =>
      let (ds, rest) := Sign.spanUpTo isOctal 2 s.rest
      some (s.literal (octal ds), { s with rest := rest })
    | c =>
      if c.isDigit then numbered? c s
      else (escapedChar? c s.rest).map fun (n, rest) => (s.literal n, { s with rest := rest })

def count? (ds : List Char) : Option Nat :=
  if ds.isEmpty then none else some (Nat.ofDigitChars 10 ds 0)

/-- The bounds between braces, after the opening one: the least and the greatest number, and the
signs after them. Without digits there is no such bound. -/
def braced? (signs : List Sign) : Option (Nat × Option Nat × List Sign) :=
  match Sign.digits signs with
  | (low, .plain '\x7d' :: rest) => (count? low).map fun n => (n, some n, rest)
  | (low, .plain ',' :: rest) =>
    match Sign.digits rest with
    | (high, .plain '\x7d' :: rest) => some ((count? low).getD 0, count? high, rest)
    | _ => none
  | _ => none

def bounds? (c : Char) (rest : List Sign) : Option (Nat × Option Nat × List Sign) :=
  match c with
  | '*' => some (0, none, rest)
  | '+' => some (1, none, rest)
  | '?' => some (0, some 1, rest)
  | '\x7b' => braced? rest
  | _ => none

def greed : List Sign → Greed × List Sign
  | .plain '?' :: rest => (.fewest, rest)
  | .plain '+' :: rest => (.possessive, rest)
  | rest => (.most, rest)

/-- The last one of some patterns, which stand in reverse, repeated. An anchor cannot be repeated,
nor a repetition. -/
def repeatLast? (least : Nat) (most : Option Nat) (greed : Greed) :
    List Pattern → Option (List Pattern)
  | [] | .anchor _ :: _ | .repeated _ _ _ _ :: _ => none
  | p :: others =>
    if most.any (· < least) ∨ 0xFFFFFFFF ≤ max least (most.getD 0) then none
    else some (.repeated least most greed p :: others)

/-- Patterns one after another, which stand in reverse. -/
def joined (items : List Pattern) : Pattern := items.foldl (fun p q => .sequence q p) .nothing

def isName : List Char → Bool
  | [] => false
  | c :: cs => isWord c && !isDigit c && cs.all isWord

/-- Letters that set options: those turned on, those turned off after a hyphen, the sign after
them, and the signs after that. -/
structure Letters where
  on : List Char
  off : List Char
  last : Char
  rest : List Sign

def letters? (signs : List Sign) : Option Letters :=
  let isOption (c : Char) : Bool := "imsxau".toList.contains c
  let (on, rest) := Sign.spanUpTo isOption signs.length signs
  if on.contains 'a' ∧ on.contains 'u' then none
  else
    match rest with
    | .plain '-' :: rest =>
      let (off, rest) := Sign.spanUpTo isOption rest.length rest
      if off.isEmpty ∨ off.any (fun c => c == 'a' || c == 'u' || on.contains c) then none
      else
        match rest with
        | .plain ':' :: rest => some ⟨on, off, ':', rest⟩
        | _ => none
    | .plain c :: rest =>
      if on.isEmpty ∨ ¬(c = ':' ∨ c = ')') then none else some ⟨on, [], c, rest⟩
    | _ => none

def condition? (name : List Char) (s : Scan) : Option (Nat × Scan) := do
  let (n, s) ←
    if isName name then (s.names.lookup (String.ofList name)).map (·, s)
    else if !name.isEmpty && name.all Char.isDigit then
      let n := Nat.ofDigitChars 10 name 0
      some (n, { s with asked := n :: s.asked })
    else none
  if n = 0 ∨ (s.before.isSome ∧ !s.canRefer n) then none else return (n, s)

def openGroup? (name : Option (List Char)) (s : Scan) : Option (Nat × Scan) :=
  let n := s.groups.size + 1
  let s := { s with groups := s.groups.push none }
  match name with
  | none => some (n, s)
  | some name =>
    let name := String.ofList name
    if (s.names.lookup name).isSome then none
    else some (n, { s with names := (name, n) :: s.names })

def isSpace (sign : Sign) : Bool :=
  (sign.plain?).any fun c => c == ' ' || (9 ≤ c.toNat && c.toNat ≤ 13)

def afterRemark (signs : List Sign) : List Sign :=
  (signs.dropWhile fun sign => sign.plain? != some '\n').drop 1

mutual

def choiceAt : Nat → (front : Bool) → Scan → Option (Pattern × Scan)
  | 0, _, _ => none
  | bound + 1, front, s => do
    let (a, s) ← sequenceAt bound front [] s
    match s.rest with
    | .plain '|' :: rest =>
      let (b, s) ← choiceAt bound false { s with rest := rest }
      return (.choice a b, s)
    | _ => return (a, s)

def sequenceAt : Nat → (front : Bool) → List Pattern → Scan → Option (Pattern × Scan)
  | 0, _, _, _ => none
  | bound + 1, front, items, s =>
    match s.rest with
    | [] | .plain '|' :: _ | .plain ')' :: _ => some (joined items, s)
    | sign :: rest =>
      let s := { s with rest := rest }
      if s.options.spacious && isSpace sign then sequenceAt bound front items s
      else if s.options.spacious && sign.plain? == some '#' then
        sequenceAt bound front items { s with rest := afterRemark rest }
      else
        match sign with
        | .escaped c => do
          let (p, s) ← escape? c s
          sequenceAt bound front (p :: items) s
        | .plain '(' => do
          let (p, s) ← parenthesisAt bound (front && items.isEmpty) s
          sequenceAt bound front (p.toList ++ items) s
        | .plain '[' => do
          let (negated, rest) :=
            match rest with
            | .plain '^' :: rest => (true, rest)
            | rest => (false, rest)
          let (members, rest) ← members? s.options.asciiOnly (rest.length + 1) true rest
          sequenceAt bound front (s.one negated members :: items) { s with rest := rest }
        | .plain '.' =>
          let p := s.one true (if s.options.dotAll then [] else [.range 10 10])
          sequenceAt bound front (p :: items) s
        | .plain '^' =>
          let a := if s.options.lines then .lineStart else .textStart
          sequenceAt bound front (.anchor a :: items) s
        | .plain '$' =>
          let a := if s.options.lines then .lineEnd else .lastLineEnd
          sequenceAt bound front (.anchor a :: items) s
        | .plain c =>
          match bounds? c rest with
          | none => sequenceAt bound front (s.literal c.toNat :: items) s
          | some (least, most, rest) => do
            let (greed, rest) := greed rest
            let items ← repeatLast? least most greed items
            sequenceAt bound front items { s with rest := rest }

/-- What stands in parentheses, after the opening one. Remarks and options for the whole pattern
match nothing by themselves; such options can stand at the front only. -/
def parenthesisAt : Nat → (front : Bool) → Scan → Option (Option Pattern × Scan)
  | 0, _, _ => none
  | bound + 1, front, s =>
    match s.rest with
    | .plain '?' :: .plain 'P' :: .plain '<' :: rest => do
      let (name, rest) ← Sign.upTo? '>' rest
      if isName name then numberedAt bound (some name) { s with rest := rest } else none
    | .plain '?' :: .plain 'P' :: .plain '=' :: rest => do
      let (name, rest) ← Sign.upTo? ')' rest
      let n ← if isName name then s.names.lookup (String.ofList name) else none
      let (p, s) ← { s with rest := rest }.refer? n
      return (some p, s)
    | .plain '?' :: .plain ':' :: rest => do
      let (p, s) ← closedAt bound { s with rest := rest }
      return (some (.group none p), s)
    | .plain '?' :: .plain '>' :: rest => do
      let (p, s) ← closedAt bound { s with rest := rest }
      return (some (.firstWay p), s)
    | .plain '?' :: .plain '#' :: rest => do
      let (_, rest) ← Sign.upTo? ')' rest
      return (none, { s with rest := rest })
    | .plain '?' :: .plain '=' :: rest => do
      let (p, s) ← closedAt bound { s with rest := rest }
      return (some (.ahead true p), s)
    | .plain '?' :: .plain '!' :: rest => do
      let (p, s) ← closedAt bound { s with rest := rest }
      return (some (.ahead false p), s)
    | .plain '?' :: .plain '<' :: .plain c :: rest => do
      if c ≠ '=' ∧ c ≠ '!' then none
      else
        let before := s.before
        let (p, s) ← closedAt bound
          { s with rest := rest, before := before.or (some s.groups.size) }
        let width ← (p.width s.widthOf).fixed?
        return (some (.behind (c == '=') width p), { s with before := before })
    | .plain '?' :: .plain '(' :: rest => do
      let (name, rest) ← Sign.upTo? ')' rest
      let (n, s) ← condition? name { s with rest := rest }
      let (yes, s) ← sequenceAt bound false [] s
      let (no, s) ←
        match s.rest with
        | .plain '|' :: rest => sequenceAt bound false [] { s with rest := rest }
        | _ => some (.nothing, s)
      match s.rest with
      | .plain ')' :: rest => return (some (.ifGroup n yes no), { s with rest := rest })
      | _ => none
    | .plain '?' :: rest => do
      let letters ← letters? rest
      let outer := s.options
      let s := { s with rest := letters.rest }
      if letters.last = ')' then
        if front then
          return (none, { s with options := letters.on.foldl (Options.set true) outer })
        else none
      else
        let (p, s) ← closedAt bound { s with options := outer.within letters.on letters.off }
        return (some (.group none p), { s with options := outer })
    | _ => numberedAt bound none s

def numberedAt : Nat → Option (List Char) → Scan → Option (Option Pattern × Scan)
  | 0, _, _ => none
  | bound + 1, name, s => do
    let (n, s) ← openGroup? name s
    let (p, s) ← closedAt bound s
    let width := p.width s.widthOf
    return (some (.group (some n) p), { s with groups := s.groups.setIfInBounds (n - 1) (some width) })

def closedAt : Nat → Scan → Option (Pattern × Scan)
  | 0, _ => none
  | bound + 1, s => do
    let (p, s) ← choiceAt bound false s
    match s.rest with
    | .plain ')' :: rest => return (p, { s with rest := rest })
    | _ => none

end

/-- Reads a pattern. What a sign says depends on the backslash before it and on letters that set
options, such as `i` for ignoring case. -/
def parse? (text : String) : Option Pattern := do
  let signs ← Sign.ofChars? text.toList
  let (p, s) ← choiceAt (6 * signs.length + 6) true ⟨signs, {}, #[], [], none, []⟩
  if s.rest.isEmpty ∧ s.asked.all (· ≤ s.groups.size) ∧ ¬(s.options.asciiOnly ∧ s.options.unicode)
  then return p
  else none

end RequestChain.Text.Pattern
