import RequestChain.Compression.Stream

namespace RequestChain.Compression

/-- A prefix code: how many words there are of each length from one on, and their symbols in the
order of the words. -/
structure PrefixCode where
  counts : List Nat
  symbols : Array Nat

namespace PrefixCode

def longest : Nat := 15

def symbolsOf (lengths : List Nat) (length : Nat) : List Nat :=
  lengths.zipIdx.filterMap fun (n, symbol) => if n = length then some symbol else none

/-- The code of words with these lengths, by symbol; zero is no word. Lengths after the greatest
that occurs are left out, but for the first. -/
def ofLengths (lengths : List Nat) : PrefixCode :=
  let all := (List.range longest).map fun n => symbolsOf lengths (n + 1)
  let top := max 1 (lengths.foldl max 0)
  ⟨(all.take top).map List.length, all.flatten.toArray⟩

/-- What is left of the space of words of the longest length, none if there are too many words. -/
def space? (code : PrefixCode) : Option Nat :=
  code.counts.foldlM (fun left count => if count ≤ 2 * left then some (2 * left - count) else none) 1

def isFull (code : PrefixCode) : Bool := code.space? == some 0

/-- The code is full, or it has at most one word, of length one. -/
def isUsable (code : PrefixCode) : Bool :=
  code.isFull || (code.space?.isSome && code.counts.length == 1)

/-- Takes a word, and gives its symbol if it has one. `word` holds the bits so far, `first` the
first word of this length and `index` the number of shorter words. -/
def takeFrom (symbols : Array Nat) : List Nat → Nat → Nat → Nat → Unpack (Option Nat)
  | [], _, _, _ => return none
  | count :: counts, word, first, index => do
    let word := 2 * word + (← takeBit).toNat
    if word < first + count then return symbols[index + (word - first)]?
    takeFrom symbols counts word (2 * (first + count)) (index + count)

def take? (code : PrefixCode) : Unpack (Option Nat) := takeFrom code.symbols code.counts 0 0 0

end PrefixCode
end RequestChain.Compression
