import RequestChain.Text.Hex
import RequestChain.Text.Unprintable

namespace RequestChain.Text

def numbered (c : Char) : List Char :=
  let n := c.toNat
  if n < 0x100 then '\\' :: 'x' :: Hex.digits 2 n
  else if n < 0x10000 then '\\' :: 'u' :: Hex.digits 4 n
  else '\\' :: 'U' :: Hex.digits 8 n

def quotedChar (mark c : Char) : List Char :=
  if c = mark ∨ c = '\\' then ['\\', c]
  else if c = '\n' then ['\\', 'n']
  else if c = '\r' then ['\\', 'r']
  else if c = '\t' then ['\\', 't']
  else if isPrintable c then [c]
  else numbered c

/-- The text as a message quotes it: between single quotes, or between double quotes if it holds a
single quote and no double one. -/
def quoted (s : String) : String :=
  let cs := s.toList
  let mark := if '\'' ∈ cs ∧ '"' ∉ cs then '"' else '\''
  String.ofList (mark :: cs.flatMap (quotedChar mark) ++ [mark])

end RequestChain.Text
