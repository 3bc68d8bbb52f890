import RequestChain.Text.CaseTable
import RequestChain.Text.Cased

namespace RequestChain.Text

def rangeImage (rows : List (Nat × Nat × Nat × Nat)) (n : Nat) : Option Nat :=
  (rows.find? fun (first, last, step, _) => first ≤ n && n ≤ last && (n - first) % step == 0).map
    fun (first, _, _, image) => image + (n - first)

def mapCase (ranges : List (Nat × Nat × Nat × Nat)) (expansions : List (Nat × List Nat))
    (c : Char) : List Char :=
  match rangeImage ranges c.toNat with
  | some n => [Char.ofNat n]
  | none =>
    match expansions.lookup c.toNat with
    | some ns => ns.map Char.ofNat
    | none => [c]

/-- Upper case: `ß` becomes `SS`. -/
def upper (s : String) : String :=
  String.ofList (s.toList.flatMap (mapCase upperRanges upperExpansions))

/-- A capital sigma at this place ends a word: before it a character with a case comes first, and
after it none, both without what is passed over. -/
def endsWord (before after : List Char) : Bool :=
  (before.find? fun c => !isPassedOver c).any isCased &&
    !(after.find? fun c => !isPassedOver c).any isCased

def lowerFrom (before : List Char) : List Char → List Char
  | [] => []
  | c :: cs =>
    (if c = 'Σ' then [if endsWord before cs then 'ς' else 'σ']
      else mapCase lowerRanges lowerExpansions c) ++ lowerFrom (c :: before) cs

/-- Lower case. A sigma at the end of a word has a form of its own. -/
def lower (s : String) : String := String.ofList (lowerFrom [] s.toList)

end RequestChain.Text
