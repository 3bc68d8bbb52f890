import RequestChain.Http.Body
import RequestChain.Http.Message
import RequestChain.Http.Reason
import RequestChain.Json.Finite
import RequestChain.Json.Writer
import RequestChain.Run.Call
import RequestChain.Text.Base64
import RequestChain.Text.Case
import RequestChain.Text.Hex
import RequestChain.Url.Resolve

namespace RequestChain

inductive SendFault where
  | url (fault : UrlFault)
  | header (text : String)
  | body
  | location (fault : UrlFault)
  | hostName (fault : IdnaFault)
  /-- A response came from an address without a scheme. -/
  | noScheme (address : String)
  | response (fault : BodyFault)
  | tooManyRedirects
  | transport (message : String)

namespace SendFault

def numbered (c : Char) : String :=
  let (mark, width) : List Char × Nat :=
    if c.toNat < 0x100 then (['x'], 2) else if c.toNat < 0x10000 then (['u'], 4) else (['U'], 8)
  String.ofList ('\\' :: mark ++ Hex.digits width c.toNat)

def notAscii (s : String) : String :=
  let isAscii (c : Char) : Bool := c.toNat < 0x80
  let cs := s.toList
  let start := (cs.takeWhile isAscii).length
  let run := (cs.dropWhile isAscii).takeWhile (!isAscii ·)
  let which :=
    match run with
    | [c] => s!"character '{numbered c}' in position {start}"
    | _ => s!"characters in position {start}-{start + run.length - 1}"
  s!"'ascii' codec can't encode {which}: ordinal not in range(128)"

def message : SendFault → String
  | url fault => fault.message
  | header text => notAscii text
  | body => "Out of range float values are not JSON compliant"
  | location fault => s!"Invalid URL in location header: {fault.message}."
  | hostName fault => fault.message
  | noScheme address => s!"unknown url type: {Text.quoted address}"
  | response fault => fault.message
  | tooManyRedirects => "Exceeded maximum allowed redirects."
  | transport message => message

end SendFault

/-- A client for the calls of runs: the address that relative ones are appended to, and whether
redirections are followed. -/
structure HttpClient where
  base : Url
  followRedirects : Bool

namespace HttpClient

def ofBase (base : String) (followRedirects : Bool) : Except UrlFault HttpClient := do
  return ⟨← (← Url.parse base).asBase, followRedirects⟩

def basicAuthorization (name password : String) : String :=
  "Basic " ++ Text.Base64.encode (Text.Utf8.encode (name ++ ":" ++ password))

/-- The body of a call and its media type; null is none. -/
def encodeBody : Json → Except SendFault (String × Option String)
  | .null => .ok ("", none)
  | v => if v.isFinite then .ok (v.write .dense, some "application/json") else .error .body

def encodeHeader : Option String → Except SendFault (Option String)
  | none | some "" => .ok none
  | some value =>
    if value.toList.all (·.toNat < 0x80) then .ok (some value) else .error (.header value)

/-- The request of a call. Credentials in the address go before the call's own header. -/
def request (client : HttpClient) (call : Call) : Except SendFault HttpRequest := do
  let url ← ((Url.parse call.url).bind client.base.append).mapError .url
  let header ← encodeHeader call.authorization
  let (body, contentType) ← encodeBody call.body
  let credentials := url.credentials?.map fun (name, password) => basicAuthorization name password
  return ⟨Text.upper call.method, url, body, credentials.or header, contentType⟩

def reply (response : HttpResponse) (body : List UInt8) : Except SendFault Reply := do
  let text ← (response.text body).mapError .response
  let given := String.ofList (response.reason.toList.filter (·.toNat < 0x80))
  return { status := response.status
           text
           reason := if given = "" then standardReason response.status else given }

def location? (response : HttpResponse) : Option String :=
  if response.status ∈ [301, 302, 303, 307, 308] then headerValue? "location" response.headers
  else none

/-- The address of a redirection. A scheme without a host keeps the host; a fragment is kept where
there is no new one. -/
def redirectUrl (old : Url) (location : String) : Except SendFault Url := do
  let url ← (Url.parse location).mapError .location
  let url ←
    if url.scheme = "" then pure url
    else do
      let name ← url.hostName.mapError .hostName
      if name = "" then
        (url.withHost (← old.hostName.mapError .hostName)).mapError .url
      else pure url
  let url ← (if url.isAbsolute then .ok url else old.resolve url).mapError .url
  let fragment := Url.unescape (old.fragment.getD "")
  if fragment ≠ "" && url.fragment.getD "" = "" then (url.withFragment fragment).mapError .url
  else return url

def redirectMethod (status : Int) (method : String) : String :=
  if (status = 303 ∨ status = 302) ∧ method ≠ "HEAD" then "GET"
  else if status = 301 ∧ method = "POST" then "GET"
  else method

/-- The request after a redirection. A method that has become GET loses the body; a request that
goes elsewhere loses its authorization, unless encryption is all that changes. -/
def redirected (old : HttpRequest) (status : Int) (location : String) :
    Except SendFault HttpRequest := do
  let url ← redirectUrl old.url location
  let method := redirectMethod status old.method
  let keep ← (url.keepsTrust old.url).mapError .hostName
  return { old with
    method
    url
    body := if method ≠ old.method && method = "GET" then "" else old.body
    authorization := if keep then old.authorization else none }

def redirectLimit : Nat := 20

/-- A response came from an address with a scheme: a colon comes after some characters and before
any slash. What comes after the last number sign does not count. -/
def checkScheme (url : Url) : Except SendFault Unit :=
  let cs := url.text.toList
  let (front, shown) :=
    match Url.cutLast (· == '#') cs with
    | none => (cs, cs)
    | some (front, tag) => (front, if tag.isEmpty then front else cs)
  let name := front.takeWhile fun c => c ≠ '/' && c ≠ ':'
  if !name.isEmpty && (front.drop name.length).head? = some ':' then .ok ()
  else .error (.noScheme (String.ofList shown))

def checkHeaders (response : HttpResponse) : Except SendFault Unit :=
  let texts := response.headers.flatMap fun (name, value) => [name, value]
  match texts.find? fun s => !s.toList.all (·.toNat < 0x80) with
  | some s => .error (.header s)
  | none => .ok ()

/-- What a response leads to: a reply, or another request with the reply that stands if it is not
followed. -/
def outcome (request : HttpRequest) (response : HttpResponse) :
    Except SendFault (Option HttpRequest × Except SendFault Reply) := do
  checkHeaders response
  let body ← response.unpackedBody.mapError .response
  checkScheme request.url
  let next ← (location? response).mapM (redirected request response.status)
  return (next, reply response body)

/-- Sends a request and follows redirections, `left` at most. A redirection to an address that
cannot be read raises an exception even if it is not to be followed. -/
def follow (client : HttpClient) : Nat → HttpRequest → Exchange CallResult
  | left, request => .ask request fun
    | .error message => .done (.error (SendFault.transport message).message)
    | .ok response =>
      match outcome request response with
      | .error fault => .done (.error fault.message)
      | .ok (some next, reply) =>
        if client.followRedirects then
          match left with
          | 0 => .done (.error SendFault.tooManyRedirects.message)
          | left + 1 => follow client left next
        else .done (reply.mapError SendFault.message)
      | .ok (none, reply) => .done (reply.mapError SendFault.message)

/-- Makes a call. What cannot be sent or followed raises an exception. -/
def send (client : HttpClient) (call : Call) : Exchange CallResult :=
  match client.request call with
  | .error fault => .done (.error fault.message)
  | .ok request => client.follow redirectLimit request

end HttpClient
end RequestChain
