import RequestChain.Json.Basic
import RequestChain.Number.Decimal
import RequestChain.Number.Setting
import RequestChain.Request.Check
import RequestChain.Text.Case

namespace RequestChain

structure Settings where
  logLevel : String := "INFO"
  host : String := "0.0.0.0"
  port : Int := 8000
  maxBodyBytes : Int := 2000000
  /-- The address that relative endpoints are appended to. -/
  baseUrl : String := ""
  timeout : Double := .ofRatio false 100 1
  verifyTls : Bool := true
  followRedirects : Bool := true
  maxConnections : Int := 20
  deriving DecidableEq

namespace Settings

/-- Environment variables and their values; of two with one name the later counts. -/
abbrev Environment := List (String × String)

def variableStart : String := "composite_"

/-- The value of the variable of a setting, whose name may be in letters of any case. -/
def Environment.value? (env : Environment) (name : String) : Option String :=
  (env.reverse.find? fun v => Text.lower v.1 == variableStart ++ name).map Prod.snd

def check {α : Type} (env : Environment) (name : String) (standard : α)
    (read : String → Except ComplaintKind α) : Checked α :=
  match env.value? name with
  | none => .ok standard
  | some text =>
    match read text with
    | .ok value => .ok value
    | .error kind => Checked.refuse kind [.name name]

def readWhole (text : String) : Except ComplaintKind Int :=
  match Whole.readSetting text with
  | .number n => .ok n
  | .tooLong => .error .intParsingSize
  | .noNumber => .error .intParsing

def readTruth (text : String) : Except ComplaintKind Bool :=
  (Request.truthOfText? text).elim (.error .boolParsing) .ok

def readSeconds (text : String) : Except ComplaintKind Double :=
  (Double.readSetting? text).elim (.error .floatParsing) .ok

def ofEnvironment (env : Environment) : Checked Settings :=
  let standard : Settings := {}
  let text (name standard : String) : String := (env.value? name).getD standard
  let whole (name : String) (standard : Int) : Checked Int := check env name standard readWhole
  let truth (name : String) (standard : Bool) : Checked Bool := check env name standard readTruth
  let seconds := check env "timeout_sec" standard.timeout readSeconds
  let checked :=
    (whole "port" standard.port).both <|
    (whole "max_body_bytes" standard.maxBodyBytes).both <|
    seconds.both <|
    (truth "verify_ssl" standard.verifyTls).both <|
    (truth "follow_redirects" standard.followRedirects).both <|
    whole "max_connections" standard.maxConnections
  checked.map fun (port, maxBodyBytes, timeout, verifyTls, followRedirects, maxConnections) =>
    { logLevel := text "log_level" standard.logLevel
      host := text "host" standard.host
      port
      maxBodyBytes
      baseUrl := text "base_url" standard.baseUrl
      timeout
      verifyTls
      followRedirects
      maxConnections }

def toJson (s : Settings) : Json :=
  .obj [
    ("log_level", .str s.logLevel),
    ("host", .str s.host),
    ("port", .int s.port),
    ("max_body_bytes", .int s.maxBodyBytes),
    ("base_url", .str s.baseUrl),
    ("timeout_sec", .float s.timeout),
    ("verify_ssl", .bool s.verifyTls),
    ("follow_redirects", .bool s.followRedirects),
    ("max_connections", .int s.maxConnections)]

end Settings
end RequestChain
