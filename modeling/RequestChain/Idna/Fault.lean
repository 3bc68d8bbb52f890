import RequestChain.Text.Hex
import RequestChain.Text.Quoted

namespace RequestChain

inductive IdnaFault where
  | emptyName
  | nameTooLong
  | emptyLabel
  | labelTooLong
  | notNormal
  | reservedHyphens
  | outerHyphen
  | initialMark
  | character (c : Char) (position : Nat) (label : String)
  | joiner (c : Char) (position : Nat) (label : String)
  | context (c : Char) (position : Nat) (label : String)
  | initialDirection (label : String)
  | direction (isRightToLeft : Bool) (position : Nat)
  | mixedNumbers
  | finalDirection
  /-- After the mark of a label that is written in ASCII there is nothing. -/
  | nothingWritten
  | finalHyphen
  | notWritten

namespace IdnaFault

def numbered (c : Char) : String :=
  let ds := (Nat.toDigits 16 c.toNat).map Char.toUpper
  "U+" ++ String.ofList (List.replicate (4 - ds.length) '0' ++ ds)

def message : IdnaFault → String
  | emptyName => "Empty domain"
  | nameTooLong => "Domain too long"
  | emptyLabel => "Empty Label"
  | labelTooLong => "Label too long"
  | notNormal => "Label must be in Normalization Form C"
  | reservedHyphens => "Label has disallowed hyphens in 3rd and 4th position"
  | outerHyphen => "Label must not start or end with a hyphen"
  | initialMark => "Label begins with an illegal combining character"
  | character c position label =>
    s!"Codepoint {numbered c} at position {position} of {Text.quoted label} not allowed"
  | joiner c position label =>
    s!"Joiner {numbered c} not allowed at position {position} in {Text.quoted label}"
  | context c position label =>
    s!"Codepoint {numbered c} not allowed at position {position} in {Text.quoted label}"
  | initialDirection label =>
    s!"First codepoint in label {Text.quoted label} must be directionality L, R or AL"
  | direction isRightToLeft position =>
    let which := if isRightToLeft then "right-to-left" else "left-to-right"
    s!"Invalid direction for codepoint at position {position} in a {which} label"
  | mixedNumbers => "Can not mix numeral types in a right-to-left label"
  | finalDirection => "Label ends with illegal codepoint directionality"
  | nothingWritten => "Malformed A-label, no Punycode eligible content found"
  | finalHyphen => "A-label must not end with a hyphen"
  | notWritten => "Invalid A-label"

end IdnaFault
end RequestChain
