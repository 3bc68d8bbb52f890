import RequestChain.Text.Blank

namespace RequestChain.Authorization

/-- Splits a header at its first space into scheme and credential; a blank header is none. -/
def split (header : Option String) : Option (String × String) :=
  match header.map fun h => (Text.strip h).toList with
  | none | some [] => none
  | some cs =>
    some (String.ofList (cs.takeWhile (· ≠ ' ')), String.ofList ((cs.dropWhile (· ≠ ' ')).drop 1))

def join (parts : String × String) : String :=
  if parts.2 = "" then parts.1 else parts.1 ++ " " ++ parts.2

def forwarded (header : Option String) : Option String := (split header).map join

end RequestChain.Authorization
