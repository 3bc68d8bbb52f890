namespace RequestChain.Text

/-- A set of code points: the first and the last member of each range. -/
abbrev CodeRanges := List (Nat × Nat)

def CodeRanges.has (ranges : CodeRanges) (c : Char) : Bool :=
  ranges.any fun (first, last) => first ≤ c.toNat && c.toNat ≤ last

/-- The character is in one of the ranges, of which only every other member counts, the first one
included. -/
def CodeRanges.hasEveryOther (ranges : CodeRanges) (c : Char) : Bool :=
  ranges.any fun (first, last) =>
    first ≤ c.toNat && c.toNat ≤ last && (c.toNat - first) % 2 == 0

end RequestChain.Text
