import RequestChain.Number.Whole
import RequestChain.Url.Basic
import RequestChain.Url.Host

namespace RequestChain.Url

structure Parts where
  scheme : String
  authority : String
  path : String
  query : Option String
  fragment : Option String

def lengthLimit : Nat := 65536

/-- A scheme and its colon at the front, which may both be missing. An empty scheme may have a
colon. -/
def cutScheme (cs : List Char) : List Char × List Char :=
  let (name, rest) := cut (· == ':') cs
  let inside (c : Char) : Bool := c.isAlphanum || c == '+' || c == '.' || c == '-'
  match rest with
  | _ :: after =>
    if name.isEmpty || (name.head?.any Char.isAlpha && name.all inside) then (name, after)
    else ([], cs)
  | [] => ([], cs)

def cutMarked (mark : List Char) (ends : Char → Bool) (cs : List Char) :
    Option (List Char) × List Char :=
  if mark.isPrefixOf cs then
    let (part, rest) := cut ends (cs.drop mark.length)
    (some part, rest)
  else (none, cs)

def Parts.after (scheme : List Char) (cs : List Char) : Parts :=
  let (authority, cs) := cutMarked ['/', '/'] (fun c => c == '/' || c == '?' || c == '#') cs
  let (path, cs) := cut (fun c => c == '?' || c == '#') cs
  let (query, cs) := cutMarked ['?'] (· == '#') cs
  let (fragment, _) := cutMarked ['#'] (fun _ => false) cs
  { scheme := String.ofList scheme
    authority := String.ofList (authority.getD [])
    path := String.ofList path
    query := query.map String.ofList
    fragment := fragment.map String.ofList }

def Parts.ofChars (cs : List Char) : Parts :=
  let (scheme, cs) := cutScheme cs
  .after scheme cs

def cutLast (test : Char → Bool) (cs : List Char) : Option (List Char × List Char) :=
  match cs.reverse.dropWhile (!test ·) with
  | [] => none
  | _ :: before => some (before.reverse, (cs.reverse.takeWhile (!test ·)).reverse)

/-- User, host and port of an authority. A host between brackets may hold colons. -/
def cutAuthority (authority : String) : List Char × List Char × List Char :=
  let (user, cs) := (cutLast (· == '@') authority.toList).getD ([], authority.toList)
  let bracketed : Option (List Char × List Char) :=
    match cs with
    | '[' :: inner => (cutLast (· == ']') inner).map fun (h, rest) => ('[' :: h ++ [']'], rest)
    | _ => none
  let (host, rest) := bracketed.getD (cut (· == ':') cs)
  match rest with
  | ':' :: port => (user, host, port)
  | port => (user, host, port)

def portOf (scheme : String) (written : List Char) : Except UrlFault (Option Int) :=
  if written.isEmpty then .ok none
  else
    match Whole.read? (String.ofList written) with
    | none => .error (.badPort (String.ofList written))
    | some n => .ok (if usualPort? scheme = some n then none else some n)

/-- A path without `.` and `..`: each `..` takes back the part before it. -/
def plainPath (path : String) : String :=
  let parts := splitAt (· == '/') path.toList
  let dots : List (List Char) := [['.'], ['.', '.']]
  if parts.all (!dots.contains ·) then path
  else
    let kept := parts.foldl (fun (kept : List (List Char)) part =>
      if part = ['.'] then kept
      else if part = ['.', '.'] then (if kept = [[]] then kept else kept.tail)
      else part :: kept) []
    String.intercalate "/" (kept.reverse.map String.ofList)

def pathFault? (hasScheme hasAuthority : Bool) (path : String) : Option UrlFault :=
  match path.toList with
  | '/' :: '/' :: _ => if hasScheme || hasAuthority then none else some .doubleSlash
  | '/' :: _ | [] => none
  | c :: _ =>
    if hasAuthority then some .unrootedPath
    else if c = ':' ∧ !hasScheme then some .leadingColon
    else none

/-- The address of parts. The host may be another one than that of the authority. -/
def ofParts (p : Parts) (host : Option String) : Except UrlFault Url := do
  let (user, name, port) := cutAuthority p.authority
  let scheme := p.scheme.toLower
  let user := escape userSafe (String.ofList user)
  let name ← canonicalHost (host.getD (String.ofList name))
  let port ← portOf p.scheme port
  let hasScheme := scheme ≠ ""
  let hasAuthority := user ≠ "" || name ≠ "" || port.isSome
  match pathFault? hasScheme hasAuthority p.path with
  | some fault => .error fault
  | none =>
    let path := if hasScheme || hasAuthority then plainPath p.path else p.path
    return ⟨scheme, user, name, port, escape pathSafe path, p.query.map (escape querySafe),
      p.fragment.map (escape fragmentSafe)⟩

def isControl (c : Char) : Bool := c.toNat < 0x20 || c.toNat == 0x7F

/-- Reads an address. It is cut at its marks, which always succeeds; then each part is checked and
put into its form. -/
def parse (s : String) : Except UrlFault Url :=
  let cs := s.toList
  if lengthLimit < cs.length then .error .tooLong
  else
    match cs.find? isControl with
    | some c => .error (.control c (cs.takeWhile (!isControl ·)).length)
    | none => ofParts (.ofChars cs) none

def parts (u : Url) : Parts := ⟨u.scheme, u.authority, u.path, u.query, u.fragment⟩

def checkPart (name : String) (part : String) : Except UrlFault Unit :=
  let cs := part.toList
  if lengthLimit < cs.length then .error (.partTooLong name)
  else
    match cs.find? isControl with
    | some c => .error (.partControl name c (cs.takeWhile (!isControl ·)).length)
    | none => .ok ()

def ofNewParts (p : Parts) (host : Option String) : Except UrlFault Url := do
  checkPart "scheme" p.scheme
  checkPart "authority" p.authority
  checkPart "path" p.path
  checkPart "query" (p.query.getD "")
  checkPart "fragment" (p.fragment.getD "")
  ofParts p host

def withTarget (u : Url) (target : String) : Except UrlFault Url :=
  let (path, rest) := cut (· == '?') target.toList
  let query := if rest.isEmpty then none else some (String.ofList rest.tail)
  ofNewParts { u.parts with path := String.ofList path, query } none

/-- The address with another fragment, which is not escaped. -/
def withFragment (u : Url) (fragment : String) : Except UrlFault Url :=
  ofNewParts { u.parts with fragment := some fragment } none

def withHost (u : Url) (host : String) : Except UrlFault Url :=
  let cs := host.toList
  let isBare := cs.contains ':' && !(cs.head? = some '[' && cs.getLast? = some ']')
  ofNewParts u.parts (some (if isBare then "[" ++ host ++ "]" else host))

end RequestChain.Url
