import RequestChain.Text.Latin1
import RequestChain.Http.Message
import RequestChain.Number.Whole
import RequestChain.Text.Hex

namespace RequestChain

def lineEnd : String := "\r\n"

def headerLine (name value : String) : String := name ++ ": " ++ value ++ lineEnd

def HttpRequest.bytes (q : HttpRequest) : List UInt8 :=
  let body := Text.Utf8.encode q.body
  let lines := [
    s!"{q.method} {q.url.target} HTTP/1.1" ++ lineEnd,
    headerLine "Host" q.url.hostText,
    headerLine "Accept" "*/*",
    headerLine "Connection" "close",
    ((q.authorization.map (headerLine "Authorization")).getD ""),
    ((q.contentType.map (headerLine "Content-Type")).getD ""),
    (if body.isEmpty then "" else headerLine "Content-Length" s!"{body.length}"),
    lineEnd]
  Text.Utf8.encode (String.join lines) ++ body

namespace HttpResponse

def cutLine : List UInt8 → Option (List UInt8 × List UInt8)
  | 13 :: 10 :: rest => some ([], rest)
  | b :: rest => (cutLine rest).map fun (line, rest) => (b :: line, rest)
  | [] => none

/-- Lines up to an empty one, and the bytes after that. Each line takes one of `fuel`. -/
def cutHead : Nat → List UInt8 → Option (List String × List UInt8)
  | 0, _ => none
  | fuel + 1, bytes => do
    let (line, rest) ← cutLine bytes
    if line.isEmpty then return ([], rest)
    let (lines, rest) ← cutHead fuel rest
    return (Text.Latin1.decode line :: lines, rest)

def statusLine? (line : String) : Option (Int × String) :=
  match line.splitOn " " with
  | version :: status :: reason =>
    if version.startsWith "HTTP/1." then
      (Whole.ofChars? status.toList).map fun n => (n, String.intercalate " " reason)
    else none
  | _ => none

def header? (line : String) : Option (String × String) :=
  match line.toList.dropWhile (· ≠ ':') with
  | [] => none
  | _ :: value =>
    some (String.ofList (line.toList.takeWhile (· ≠ ':')), Text.strip (String.ofList value))

/-- The body of chunks, each after a line with its length in hexadecimal digits, the last one of
length zero. Each chunk takes one of `fuel`. -/
def joinChunks : Nat → List UInt8 → Option (List UInt8)
  | 0, _ => none
  | fuel + 1, bytes => do
    let (line, rest) ← cutLine bytes
    let digits := (Text.Latin1.decode line).toList.takeWhile fun c => (Hex.value? c).isSome
    let size := digits.foldl (fun n c => n * 16 + (Hex.value? c).getD 0) 0
    if digits.isEmpty || rest.length < size then none
    else if size = 0 then return []
    else
      let (_, after) ← cutLine (rest.drop size)
      return rest.take size ++ (← joinChunks fuel after)

/-- The body that the headers announce: chunks, a number of bytes, or all to the end. -/
def bodyOf? (headers : List (String × String)) (bytes : List UInt8) : Option (List UInt8) :=
  let isChunked :=
    (headerValue? "transfer-encoding" headers).any fun s => s.toLower.endsWith "chunked"
  if isChunked then joinChunks bytes.length bytes
  else
    match (headerValue? "content-length" headers).bind fun s => Whole.ofChars? s.toList with
    | none => some bytes
    | some n => if bytes.length < n.toNat then none else some (bytes.take n.toNat)

def ofBytes? (bytes : List UInt8) : Option HttpResponse := do
  let (lines, rest) ← cutHead bytes.length bytes
  let (status, reason) ← lines.head?.bind statusLine?
  let headers ← lines.tail.mapM header?
  return ⟨status, reason, headers, ← bodyOf? headers rest⟩

end HttpResponse
end RequestChain
