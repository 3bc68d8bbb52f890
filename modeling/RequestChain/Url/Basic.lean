import RequestChain.Idna.Name
import RequestChain.Url.Escape

namespace RequestChain

/-- An address in its parts. An IPv6 host stands without its brackets; a port that is the usual one
of the scheme is left out. -/
structure Url where
  scheme : String
  user : String
  host : String
  port : Option Int
  path : String
  query : Option String
  fragment : Option String
  deriving DecidableEq, Inhabited

namespace Url

def marked (mark : String) (part : Option String) : String :=
  match part with
  | some s => mark ++ s
  | none => ""

def hostText (u : Url) : String :=
  (if ':' ∈ u.host.toList then "[" ++ u.host ++ "]" else u.host) ++
    marked ":" (u.port.map fun n => s!"{n}")

def authority (u : Url) : String :=
  (if u.user = "" then "" else u.user ++ "@") ++ u.hostText

def text (u : Url) : String :=
  (if u.scheme = "" then "" else u.scheme ++ ":") ++
    (if u.authority = "" then "" else "//" ++ u.authority) ++
    u.path ++ marked "?" u.query ++ marked "#" u.fragment

/-- Path and query; an empty path is a slash. -/
def target (u : Url) : String :=
  (if u.path = "" then "/" else u.path) ++ marked "?" u.query

def isAbsolute (u : Url) : Bool := u.scheme ≠ "" && u.host ≠ ""

def usualPort? : String → Option Int
  | "ftp" => some 21
  | "http" | "ws" => some 80
  | "https" | "wss" => some 443
  | _ => none

def effectivePort (u : Url) : Option Int :=
  u.port.or (if u.scheme = "http" ∨ u.scheme = "https" then usualPort? u.scheme else none)

def hostName (u : Url) : Except IdnaFault String :=
  if Idna.written.isPrefixOf u.host.toList then Idna.readName u.host else .ok u.host

def sameOrigin (a b : Url) : Except IdnaFault Bool := do
  if a.scheme ≠ b.scheme then return false
  return (← a.hostName) == (← b.hostName) && a.effectivePort == b.effectivePort

/-- The second address is the first with encryption, both at their usual ports. -/
def isEncryptedForm (a b : Url) : Except IdnaFault Bool := do
  return (← a.hostName) == (← b.hostName) && a.scheme == "http" && a.effectivePort == some 80 &&
    b.scheme == "https" && b.effectivePort == some 443

/-- What one address is told may be told to another: they have one origin, or encryption is all
that is added. -/
def keepsTrust (url old : Url) : Except IdnaFault Bool := do
  if ← url.sameOrigin old then return true
  old.isEncryptedForm url

def credentials? (u : Url) : Option (String × String) :=
  let cs := u.user.toList
  let name := unescape (String.ofList (cs.takeWhile (· ≠ ':')))
  let password := unescape (String.ofList ((cs.dropWhile (· ≠ ':')).drop 1))
  if name = "" ∧ password = "" then none else some (name, password)

end Url
end RequestChain
