import RequestChain.Url.Reference

namespace RequestChain.Url

def asBase (u : Url) : Except UrlFault Url :=
  if u.target.toList.getLast? = some '/' then .ok u else u.withTarget (u.target ++ "/")

/-- Appends a relative address to a base, also one that starts with a slash. An absolute address
stands for itself. -/
def append (base u : Url) : Except UrlFault Url :=
  if u.isAbsolute then .ok u
  else base.withTarget (base.target ++ String.ofList (u.target.toList.dropWhile (· == '/')))

def resolve (base u : Url) : Except UrlFault Url := parse (Reference.join base.text u.text)

end RequestChain.Url
