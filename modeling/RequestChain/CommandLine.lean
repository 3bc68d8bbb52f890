import RequestChain.Http.Client
import RequestChain.Json.Nesting
import RequestChain.Request.Check
import RequestChain.Run.Basic
import RequestChain.Settings

namespace RequestChain.CommandLine

inductive Flag where
  | help
  | debug
  | authorization
  | verbose
  deriving DecidableEq

namespace Flag

def spellings : List (String × Flag) :=
  [("-h", help), ("--help", help), ("--debug", debug), ("--auth", authorization),
   ("--verbose", verbose), ("-v", verbose)]

def ofLetter? (c : Char) : Option Flag := spellings.lookup (String.ofList ['-', c])

end Flag

inductive Attached where
  | nothing
  | value (s : String)
  | letters (cs : List Char)

inductive Word where
  | plain (s : String)
  | separator
  | flag (f : Flag) (attached : Attached)
  | unknown

/-- Digits of any script, with or without a point in front of some; a line may end after them. -/
def isNumber (cs : List Char) : Bool :=
  let isWhole (ds : List Char) : Bool :=
    !(ds.takeWhile Text.isDigit).isEmpty && ds.dropWhile Text.isDigit ∈ [[], ['\n']]
  isWhole cs ||
    match cs.dropWhile Text.isDigit with
    | '.' :: fraction => isWhole fraction
    | _ => false

/-- The option that a text with two hyphens begins, with what is attached after an equals sign;
`none` if it could be several, `some none` if it is no option. -/
def longWord? (cs : List Char) : Option (Option (Flag × Attached)) :=
  let name := cs.takeWhile (· ≠ '=')
  let attached : Attached :=
    match cs.dropWhile (· ≠ '=') with
    | [] => .nothing
    | _ :: value => .value (String.ofList value)
  match Flag.spellings.filter fun s => name.isPrefixOf s.1.toList with
  | [] => some none
  | [s] => some (some (s.2, attached))
  | _ => none

/-- A text that starts with a hyphen and is no option: a plain one if it is a negative number or
holds a space. -/
def otherWord (arg : String) : Word :=
  let cs := arg.toList
  if isNumber cs.tail || cs.contains ' ' then .plain arg else .unknown

/-- The form of an argument; `none` if it abbreviates several options. -/
def word? (arg : String) : Option Word :=
  match Flag.spellings.lookup arg, arg.toList with
  | some f, _ => some (.flag f .nothing)
  | none, '-' :: '-' :: cs =>
    match longWord? ('-' :: '-' :: cs) with
    | none => none
    | some (some (f, attached)) => some (.flag f attached)
    | some none => some (otherWord arg)
  | none, '-' :: c :: cs =>
    match Flag.ofLetter? c, cs with
    | some f, '=' :: value => some (.flag f (.value (String.ofList value)))
    | some f, cs => some (.flag f (.letters cs))
    | none, _ => some (otherWord arg)
  | none, _ => some (.plain arg)

def words? : List String → Option (List Word)
  | [] => some []
  | "--" :: rest => some (.separator :: rest.map .plain)
  | arg :: rest => do return (← word? arg) :: (← words? rest)

structure Options where
  source : Option String := none
  debug : Bool := false
  authorization : Option String := none
  verbose : Bool := false
  surplus : Bool := false

inductive Invocation where
  | wrong
  | help
  | run (source : String) (options : Options)

def Options.set (o : Options) : Flag → Options
  | .debug => { o with debug := true }
  | .verbose => { o with verbose := true }
  | .help | .authorization => o

/-- The options of letters that are written together after a hyphen, and whether they end at a
letter that is no option. None of them can have a value or another hyphen. -/
def letters? : List Char → Option (List Flag × Bool)
  | [] => some ([], false)
  | '-' :: _ | '=' :: _ => none
  | c :: cs =>
    match Flag.ofLetter? c with
    | none => some ([], true)
    | some f => (letters? cs).map fun (flags, surplus) => (f :: flags, surplus)

/-- The options that one argument gives, and whether there is something in it that has no place. -/
def given? (f : Flag) : Attached → Option (List Flag × Bool)
  | .nothing => some ([f], false)
  | .value _ => none
  | .letters cs => (letters? cs).map fun (flags, surplus) => (f :: flags, surplus)

/-- Goes through the arguments. A plain one is the source; a second one has no place, nor has a
separator that does not stand next to the source. -/
def read (o : Options) (afterSource : Bool) : List Word → Invocation
  | [] =>
    match o.source with
    | some source => if o.surplus then .wrong else .run source o
    | none => .wrong
  | .plain s :: rest =>
    if o.source.isNone then read { o with source := some s } true rest
    else read { o with surplus := true } false rest
  | .separator :: rest =>
    read { o with surplus := o.surplus || (o.source.isSome && !afterSource) } false rest
  | .unknown :: rest => read { o with surplus := true } false rest
  | .flag .authorization (.value value) :: rest =>
    read { o with authorization := some value } false rest
  | .flag .authorization _ :: .plain value :: rest =>
    read { o with authorization := some value } false rest
  | .flag .authorization _ :: _ => .wrong
  | .flag f attached :: rest =>
    match given? f attached with
    | none => .wrong
    | some (flags, surplus) =>
      if .help ∈ flags then .help
      else
        let o := flags.foldl Options.set o
        read { o with surplus := o.surplus || surplus } false rest

def parse (args : List String) : Invocation :=
  match words? args with
  | none => .wrong
  | some words => read {} false words

def helpText : String :=
  "usage: run_composite [-h] [--debug] [--auth AUTHORIZATION] [--verbose] source\n\n" ++
  "Run a composite request file against live downstream services\n\n" ++
  "positional arguments:\n" ++
  "  source                Path to a composite request JSON file, or '-' for\n" ++
  "                        stdin\n\n" ++
  "options:\n" ++
  "  -h, --help            show this help message and exit\n" ++
  "  --debug               Include the step trace in the output\n" ++
  "  --auth AUTHORIZATION  Authorization header to forward, e.g. 'Bearer xyz'\n" ++
  "  --verbose, -v         Verbose logging\n"

inductive Uncaught where
  | settings (complaints : List Complaint)
  | logLevel (name : String)
  | nesting (bracket : Char)
  | notAnObject (v : Json)
  | baseUrl (fault : UrlFault)
  deriving DecidableEq

/-- The complaint about a value that should be a table and is none. -/
def assignmentMessage : Json → String
  | .arr _ => "list indices must be integers or slices, not str"
  | .str _ => "'str' object does not support item assignment"
  | .int _ => "'int' object does not support item assignment"
  | .float _ => "'float' object does not support item assignment"
  | .bool _ => "'bool' object does not support item assignment"
  | .null => "'NoneType' object does not support item assignment"
  | .obj _ => ""

def Uncaught.message : Uncaught → String
  | settings complaints => String.intercalate "\n" (complaints.map fun c => c.kind.code)
  | logLevel name => s!"Unknown level: {Text.quoted name}"
  | nesting bracket =>
    let what := if bracket = '[' then "array" else "object"
    s!"maximum recursion depth exceeded while decoding a JSON {what} from a unicode string"
  | notAnObject v => assignmentMessage v
  | baseUrl fault => fault.message

inductive Ending where
  | exit (code : Nat) (output : String)
  | uncaught (error : Uncaught)
  deriving DecidableEq

namespace Ending

/-- An error that nothing handles gives the exit code 1, as a run that failed does. -/
def code : Ending → Nat
  | exit code _ => code
  | uncaught _ => 1

def output : Ending → String
  | exit _ output => output
  | uncaught _ => ""

def refused : Ending := .exit 2 ""

end Ending

/-- The value with the trace switched on, if that is asked for. It is switched on before anything
else is known of the value, so one that is no object is not refused but ends in an error. -/
def switched (debug : Bool) (v : Json) : Except Ending Json :=
  match debug, v with
  | false, v => .ok v
  | true, .obj members => .ok (.obj (Entries.put "debug" (.bool true) members))
  | true, v => .error (.uncaught (.notAnObject v))

/-- The request that a text holds. Its brackets may be open `limit` at a time. -/
def request (limit : Nat) (debug : Bool) (text : String) : Except Ending Request :=
  match Json.tooDeep? limit text with
  | some bracket => .error (.uncaught (.nesting bracket))
  | none =>
    match Json.read text with
    | .error _ => .error .refused
    | .ok v => (switched debug v).bind fun v => (Request.ofJson v).mapError fun _ => .refused

def logLevels : List String :=
  ["CRITICAL", "FATAL", "ERROR", "WARN", "WARNING", "INFO", "DEBUG", "NOTSET"]

def answer (settings : Settings) (authorization : Option String) (request : Request) :
    Exchange Ending :=
  match HttpClient.ofBase settings.baseUrl settings.followRedirects with
  | .error fault => .done (.uncaught (.baseUrl fault))
  | .ok client =>
    ((request.run authorization).via client.send).map fun answer =>
      .exit (if Reply.isSuccess answer.status then 0 else 1)
        (s!"Status: {answer.status}\n" ++ answer.content)

/-- The command with its options, in an environment and with the text of its source, if the source
can be read. -/
def execute (limit : Nat) (options : Options) (env : Settings.Environment)
    (text : Option String) : Exchange Ending :=
  match Settings.ofEnvironment env with
  | .error complaints => .done (.uncaught (.settings complaints))
  | .ok settings =>
    if !options.verbose && settings.logLevel ∉ logLevels then
      .done (.uncaught (.logLevel settings.logLevel))
    else
      match text with
      | none => .done .refused
      | some text =>
        match request limit options.debug text with
        | .error ending => .done ending
        | .ok request => answer settings options.authorization request

/-- The whole command; `textOf` gives the text of a source that can be read, and `limit` is how
many brackets the reader can follow into each other. -/
def run (limit : Nat) (args : List String) (env : Settings.Environment)
    (textOf : String → Option String) : Exchange Ending :=
  match parse args with
  | .wrong => .done .refused
  | .help => .done (.exit 0 helpText)
  | .run source options => execute limit options env (textOf source)

end RequestChain.CommandLine
