import RequestChain.Idna.Name
import RequestChain.Text.Case
import RequestChain.Url.Escape
import RequestChain.Url.Fault

namespace RequestChain.Url

def splitAt (test : Char → Bool) : List Char → List (List Char)
  | [] => [[]]
  | c :: cs =>
    match splitAt test cs with
    | [] => [[c]]
    | first :: rest => if test c then [] :: first :: rest else (c :: first) :: rest

def cut (test : Char → Bool) (cs : List Char) : List Char × List Char :=
  (cs.takeWhile (!test ·), cs.dropWhile (!test ·))

def isOctet (ds : List Char) : Bool :=
  ds.all Char.isDigit && !ds.isEmpty && ds.length ≤ 3 &&
    (ds.length == 1 || ds.head? != some '0') && Nat.ofDigitChars 10 ds 0 ≤ 255

def isIPv4 (host : List Char) : Bool :=
  let parts := splitAt (· == '.') host
  parts.length == 4 && parts.all isOctet

def looksLikeIPv4 (host : List Char) : Bool :=
  let parts := splitAt (· == '.') host
  parts.length == 4 && parts.all fun ds => !ds.isEmpty && ds.all Char.isDigit

def isGroup (ds : List Char) : Bool :=
  !ds.isEmpty && ds.length ≤ 4 && ds.all fun c => (Hex.value? c).isSome

def ipv6Groups? (host : List Char) : Option (List (List Char)) :=
  let parts := splitAt (· == ':') host
  match parts.getLast? with
  | none => none
  | some last =>
    if last.contains '.' then
      if isIPv4 last then some (parts.dropLast ++ [['0'], ['0']]) else none
    else some parts

/-- Eight groups, or fewer with one gap. The gap at an end is written with two colons. -/
def isIPv6Groups (parts : List (List Char)) : Bool :=
  let inner := parts.tail.dropLast
  let gaps := inner.countP List.isEmpty
  let groups := parts.filter fun p => !p.isEmpty
  let fromStart := (parts.head?.any List.isEmpty)
  let atEnd := (parts.getLast?.any List.isEmpty)
  let openStart := !fromStart || inner.head?.any List.isEmpty
  let openEnd := !atEnd || inner.getLast?.any List.isEmpty
  3 ≤ parts.length && parts.length ≤ 9 && groups.all isGroup &&
    (if gaps = 0 then groups.length == 8 && !fromStart && !atEnd
     else gaps == 1 && groups.length < 8 && openStart && openEnd)

def isIPv6 (host : List Char) : Bool :=
  let (address, zone) := cut (· == '%') host
  let zoned :=
    match zone with
    | [] => true
    | _ :: name => !name.isEmpty && !name.contains '%'
  zoned && (ipv6Groups? address).any isIPv6Groups

def canonicalHost (written : String) : Except UrlFault String :=
  let cs := written.toList
  if cs.isEmpty then .ok ""
  else if looksLikeIPv4 cs then
    if isIPv4 cs then .ok written else .error (.badIPv4 written)
  else if cs.head? = some '[' ∧ cs.getLast? = some ']' then
    let inner := cs.tail.dropLast
    if isIPv6 inner then .ok (String.ofList inner) else .error (.badIPv6 written)
  else if cs.all (·.toNat < 0x80) then .ok (escape hostSafe (Text.lower written))
  else
    (Idna.writeName (Text.lower written)).mapError fun _ => .badName written

end RequestChain.Url
