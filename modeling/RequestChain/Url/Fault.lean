import RequestChain.Text.Quoted

namespace RequestChain

inductive UrlFault where
  | tooLong
  | control (c : Char) (position : Nat)
  | badPort (port : String)
  | badIPv4 (host : String)
  | badIPv6 (host : String)
  | badName (host : String)
  | partTooLong (name : String)
  | partControl (name : String) (c : Char) (position : Nat)
  | unrootedPath
  | doubleSlash
  | leadingColon
  deriving DecidableEq

def UrlFault.message : UrlFault → String
  | tooLong => "URL too long"
  | control c position =>
    s!"Invalid non-printable ASCII character in URL, {Text.quoted c.toString} " ++
      s!"at position {position}."
  | badPort port => s!"Invalid port: {Text.quoted port}"
  | badIPv4 host => s!"Invalid IPv4 address: {Text.quoted host}"
  | badIPv6 host => s!"Invalid IPv6 address: {Text.quoted host}"
  | badName host => s!"Invalid IDNA hostname: {Text.quoted host}"
  | partTooLong name => s!"URL component '{name}' too long"
  | partControl name c position =>
    s!"Invalid non-printable ASCII character in URL {name} component, " ++
      s!"{Text.quoted c.toString} at position {position}."
  | unrootedPath => "For absolute URLs, path must be empty or begin with '/'"
  | doubleSlash => "Relative URLs cannot have a path starting with '//'"
  | leadingColon => "Relative URLs cannot have a path starting with ':'"

end RequestChain
