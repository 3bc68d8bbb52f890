import RequestChain.Http.Client
import RequestChain.Http.MediaType
import RequestChain.Json.Bytes
import RequestChain.Request.Check
import RequestChain.Run.Basic
import RequestChain.Settings
import RequestChain.Text.Latin1

namespace RequestChain

/-- The state of the gateway. It is ready while it has a client for the calls of its runs. -/
structure Gateway where
  settings : Settings
  client : Option HttpClient

structure Inbound where
  method : String
  path : String
  headers : List (String × List UInt8)
  body : List UInt8
  peer : Option String

namespace Inbound

/-- The value of the first header of a name, which is given in small letters. Its bytes are read
as Latin-1. -/
def header? (r : Inbound) (name : String) : Option String :=
  (r.headers.find? fun h => h.1.toLower == name).map fun h => Text.Latin1.decode h.2

/-- The path as it is seen in the address of the request. Marks that would end a path there are
escaped, and tabs and ends of lines fall out. -/
def shownPath (r : Inbound) : String :=
  let escaped : Char → List Char
    | '?' => "%3F".toList
    | '#' => "%23".toList
    | c => [c]
  let address := ((r.header? "host").getD "").toList ++ r.path.toList.flatMap escaped
  let address := address.filter (· ∉ ['\t', '\n', '\r'])
  let afterHost := address.dropWhile (· ∉ ['/', '?', '#'])
  String.ofList (afterHost.takeWhile (· ∉ ['?', '#']))

end Inbound

inductive Page where
  | text (mediaType body : String)
  /-- Complaints about the request's body. -/
  | complaints (cs : List Complaint)
  | moved (path : String)

structure Outbound where
  status : Nat
  page : Page
  requestId : Option String

namespace Gateway

def idle (settings : Settings) : Gateway := ⟨settings, none⟩

def start (settings : Settings) : Except UrlFault Gateway := do
  return ⟨settings, some (← HttpClient.ofBase settings.baseUrl settings.followRedirects)⟩

def stop (g : Gateway) : Gateway := { g with client := none }

inductive Service where
  | live
  | ready
  | composite
  | description (mediaType : String)

def Service.ofName? : String → Option Service
  | "/health/live" => some live
  | "/health/ready" => some ready
  | "/api/composite" => some composite
  | "/openapi.json" => some (description "application/json")
  | "/docs" | "/docs/oauth2-redirect" | "/redoc" => some (description "text/html; charset=utf-8")
  | _ => none

/-- The service at a path. One end of a line may follow its name. -/
def Service.ofPath? (path : String) : Option Service :=
  match path.toList.reverse with
  | '\n' :: name => ofName? (String.ofList name.reverse)
  | _ => ofName? path

def Service.methods : Service → List String
  | live | ready => ["GET"]
  | composite => ["POST"]
  | description _ => ["GET", "HEAD"]

def jsonPage (v : Json) : Page := .text "application/json" (v.write .dense)

def detail (text : String) : Page := jsonPage (.obj [("detail", .str text)])

def readiness (isReady : Bool) : Page :=
  let status := if isReady then "ready" else "not_ready"
  let client := if isReady then "ok" else "not_initialized"
  jsonPage (.obj [("status", .str status), ("checks", .obj [("downstream_client", .str client)])])

inductive Content where
  | nothing
  | value (v : Json)
  | undeclared
  /-- Text that should be JSON and is not, from this character on. -/
  | invalid (offset : Nat)
  | unreadable

def content (r : Inbound) : Content :=
  if r.body.isEmpty then .nothing
  else if !(r.header? "content-type").any MediaType.isJson then .undeclared
  else
    match (Json.textOfBytes? r.body).map Json.read with
    | none => .unreadable
    | some (.ok v) => .value v
    | some (.error e) =>
      match e.fault with
      | .tooManyDigits _ => .unreadable
      | _ => .invalid e.offset

def requestOf (c : Content) : Checked Request :=
  let place : List PlaceStep := [.name "body"]
  match c with
  | .nothing => Checked.refuse .missing place
  | .value v => Request.check .modelAttributesType place v
  | .undeclared | .unreadable => Checked.refuse .modelAttributesType place
  | .invalid offset => Checked.refuse .jsonInvalid (place ++ [.index offset])

def received (r : Inbound) (request : Request) : LogEntry :=
  let peer := r.peer.getD "unknown"
  ⟨.info, s!"POST request to \"{r.shownPath}\" from \"{peer}\" " ++
    s!"with values: {logged (request.toJson false)}"⟩

structure Draft where
  status : Nat
  page : Page
  log : List LogEntry

def quiet (status : Nat) (page : Page) : Exchange Draft := .done ⟨status, page, []⟩

/-- Runs a request. The answer is JSON, or plain text if it shows a trace. -/
def runRequest (client : HttpClient) (r : Inbound) (request : Request) : Exchange Draft :=
  ((request.run (r.header? "authorization")).via client.send).map fun answer =>
    let mediaType := if request.debug then "text/plain; charset=utf-8" else "application/json"
    ⟨answer.status, .text mediaType answer.content, [received r request]⟩

/-- The answer to a composite request: first its text must be JSON, then the gateway must be
ready, then the request must have its shape. -/
def composite (g : Gateway) (r : Inbound) : Exchange Draft :=
  match content r, g.client with
  | .unreadable, _ => quiet 400 (detail "There was an error parsing the body")
  | .invalid offset, _ => quiet 422 (.complaints (requestOf (.invalid offset)).complaints)
  | _, none => quiet 503 (detail "Composite service not ready")
  | c, some client =>
    match requestOf c with
    | .error complaints => quiet 422 (.complaints complaints)
    | .ok request => runRequest client r request

def serve (g : Gateway) (r : Inbound) : Service → Exchange Draft
  | .live => quiet 200 (jsonPage (.obj [("status", .str "ok")]))
  | .ready => quiet 200 (readiness g.client.isSome)
  | .composite => g.composite r
  | .description mediaType => quiet 200 (.text mediaType "")

def unslashed? (path : String) : Option String :=
  match path.toList.reverse with
  | '/' :: rest => some (String.ofList (rest.dropWhile (· == '/')).reverse)
  | _ => none

/-- The answer for the path and method of a request. A body that is too long is refused before
anything else. -/
def route (g : Gateway) (r : Inbound) : Exchange Draft :=
  if g.settings.maxBodyBytes < r.body.length then
    quiet 413 (detail s!"Payload too large (max {g.settings.maxBodyBytes} bytes)")
  else
    match Service.ofPath? r.path with
    | some service =>
      if r.method ∈ service.methods then g.serve r service
      else quiet 405 (detail "Method Not Allowed")
    | none =>
      match (unslashed? r.path).filter fun p => (Service.ofPath? p).isSome with
      | some path => quiet 307 (.moved path)
      | none => quiet 404 (detail "Not Found")

def handle (g : Gateway) (r : Inbound) : Exchange (Outbound × List LogEntry) :=
  (g.route r).map fun draft =>
    (⟨draft.status, draft.page, (r.header? "x-request-id").filter (· ≠ "")⟩,
      ⟨.info, s!"req start {r.method} {r.shownPath}"⟩ :: draft.log ++
        [⟨.info, s!"req end status={draft.status}"⟩])

end Gateway
end RequestChain
