import RequestChain.Url.Parse

namespace RequestChain.Url

/-- A reference in its parts. The parameters follow the last element of the path after a
semicolon. -/
structure Reference where
  scheme : String
  authority : String
  path : List Char
  parameters : List Char
  query : String
  fragment : String

namespace Reference

def relativeSchemes : List String :=
  ["", "ftp", "http", "gopher", "nntp", "imap", "wais", "file", "https", "shttp", "mms",
    "prospero", "rtsp", "rtsps", "rtspu", "sftp", "svn", "svn+ssh", "ws", "wss"]

def authoritySchemes : List String :=
  ["", "ftp", "http", "gopher", "nntp", "telnet", "imap", "wais", "file", "mms", "https", "shttp",
    "snews", "prospero", "rtsp", "rtsps", "rtspu", "rsync", "svn", "svn+ssh", "sftp", "nfs",
    "git", "git+ssh", "ws", "wss"]

def parameterSchemes : List String :=
  ["", "ftp", "hdl", "prospero", "http", "imap", "https", "shttp", "rtsp", "rtsps", "rtspu", "sip",
    "sips", "mms", "sftp", "tel"]

def cutParameters (path : List Char) : List Char × List Char :=
  let last := (path.reverse.takeWhile (· ≠ '/')).reverse
  let (kept, parameters) := cut (· == ';') last
  (path.take (path.length - last.length) ++ kept, parameters.drop 1)

/-- A text as a reference. Without a scheme of its own it has the one that is given. -/
def ofText (scheme text : String) : Reference :=
  let (own, cs) := cutScheme text.toList
  let p := Parts.after own (if own.isEmpty then text.toList else cs)
  let scheme := if own.isEmpty then scheme else p.scheme.toLower
  let (path, parameters) :=
    if parameterSchemes.contains scheme then cutParameters p.path.toList else (p.path.toList, [])
  ⟨scheme, p.authority, path, parameters, p.query.getD "", p.fragment.getD ""⟩

def text (r : Reference) : String :=
  let path := r.path ++ (if r.parameters.isEmpty then [] else ';' :: r.parameters)
  let hasAuthority := r.authority ≠ "" ||
    (r.scheme ≠ "" && authoritySchemes.contains r.scheme) || ['/', '/'].isPrefixOf path
  let isOpen := hasAuthority && !path.isEmpty && path.head? ≠ some '/'
  (if r.scheme = "" then "" else r.scheme ++ ":") ++
    (if hasAuthority then "//" ++ r.authority else "") ++ (if isOpen then "/" else "") ++
    String.ofList path ++ (if r.query = "" then "" else "?" ++ r.query) ++
    (if r.fragment = "" then "" else "#" ++ r.fragment)

def withoutGaps : List (List Char) → List (List Char)
  | [] => []
  | first :: rest =>
    match rest.getLast? with
    | none => [first]
    | some last => first :: rest.dropLast.filter (!·.isEmpty) ++ [last]

/-- A path relative to another: the other's last part gives way, and dots are resolved. -/
def joinPath (base path : List Char) : List Char :=
  let baseParts := splitAt (· == '/') base
  let baseParts := if baseParts.getLast? = some [] then baseParts else baseParts.dropLast
  let parts :=
    if path.head? = some '/' then splitAt (· == '/') path
    else withoutGaps (baseParts ++ splitAt (· == '/') path)
  let kept := parts.foldl (fun (kept : List (List Char)) part =>
    if part = ['.', '.'] then kept.tail else if part = ['.'] then kept else part :: kept) []
  let ending : List (List Char) :=
    if parts.getLast? ∈ [some ['.'], some ['.', '.']] then [[]] else []
  match ['/'].intercalate (kept.reverse ++ ending) with
  | [] => ['/']
  | joined => joined

/-- A reference as it is meant in the document at an address. One of another scheme, or of a scheme
without relative addresses, stands for itself. -/
def join (base reference : String) : String :=
  let b := ofText "" base
  let r := ofText b.scheme reference
  if base = "" then reference
  else if reference = "" then base
  else if r.scheme ≠ b.scheme || !relativeSchemes.contains r.scheme then reference
  else if authoritySchemes.contains r.scheme && r.authority ≠ "" then r.text
  else
    let authority := if authoritySchemes.contains r.scheme then b.authority else r.authority
    let r := { r with authority }
    if r.path.isEmpty && r.parameters.isEmpty then
      text { r with
        path := b.path
        parameters := b.parameters
        query := if r.query = "" then b.query else r.query }
    else text { r with path := joinPath b.path r.path }

end Reference
end RequestChain.Url
