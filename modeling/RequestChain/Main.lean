import RequestChain.CommandLine
import RequestChain.Http.Framing
import Std.Async.DNS
import Std.Async.TCP

open RequestChain Std.Async Std.Net

def converse {Q A α : Type} (answer : Q → IO A) : Dialogue Q A α → IO α
  | .done result => return result
  | .ask question next => do converse answer (next (← answer question))

/-- What a connection sends until it is closed. -/
partial def receiveAll (socket : TCP.Socket.Client) (sofar : ByteArray) : Async ByteArray := do
  match ← socket.recv? 65536 with
  | some bytes => receiveAll socket (sofar ++ bytes)
  | none => return sofar

def socketAddress (port : UInt16) : IPAddr → SocketAddress
  | .v4 address => .v4 ⟨address, port⟩
  | .v6 address => .v6 ⟨address, port⟩

def exchange (request : HttpRequest) : Async WireResult := do
  let port := (request.url.effectivePort.getD 80).toNat
  let addresses ← DNS.getAddrInfo request.url.host s!"{port}"
  match addresses[0]? with
  | none => return .error "All connection attempts failed"
  | some address =>
    let socket ← TCP.Socket.Client.mk
    socket.connect (socketAddress port.toUInt16 address)
    socket.send (ByteArray.mk request.bytes.toArray)
    let bytes ← receiveAll socket ByteArray.empty
    match HttpResponse.ofBytes? bytes.data.toList with
    | some response => return .ok response
    | none => return .error "Server disconnected without sending a response."

/-- The response to a request. Only unencrypted connections can be made. -/
def answerRequest (request : HttpRequest) : IO WireResult := do
  if request.url.scheme ≠ "http" then
    return .error s!"No connection can be made for the scheme '{request.url.scheme}'."
  try (exchange request).block
  catch e => return .error (toString e)

def readSource (source : String) : IO (Option String) := do
  try
    if source = "-" then return some (← (← IO.getStdin).readToEnd)
    else return some (← IO.FS.readFile source)
  catch _ => return none

def environment : IO Settings.Environment := do
  let names := (Settings.toJson {}).members.map fun m => Settings.variableStart ++ m.1
  let spellings := names.flatMap fun name => [name, name.toUpper]
  spellings.filterMapM fun name => do return (← IO.getEnv name).map fun value => (name, value)

/-- How many brackets of a text can be open at a time. -/
def nestingLimit : Nat := 991

def main (args : List String) : IO UInt32 := do
  let text ←
    match CommandLine.parse args with
    | .run source _ => readSource source
    | _ => pure none
  let ending ←
    converse answerRequest (CommandLine.run nestingLimit args (← environment) fun _ => text)
  match ending with
  | .exit _ output => (← IO.getStdout).putStr output
  | .uncaught error => (← IO.getStderr).putStrLn error.message
  return ending.code.toUInt32
