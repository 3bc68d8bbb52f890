import RequestChain.Charset.Name
import RequestChain.Compression.Wrapped
import RequestChain.Http.MediaType
import RequestChain.Http.Message

namespace RequestChain

inductive BodyFault where
  | packing (fault : CompressionFault)
  | mediaType (fault : MediaTypeFault)
  | charset (fault : CharsetFault)

def BodyFault.message : BodyFault → String
  | packing fault => fault.message
  | mediaType fault => fault.message
  | charset fault => fault.message

inductive Packing where
  | gzip
  | deflate

namespace Packing

def ofName? : String → Option Packing
  | "gzip" => some gzip
  | "deflate" => some deflate
  | _ => none

/-- Unpacks bytes. Blocks may lack what they are usually wrapped in. -/
def unpack (packing : Packing) (bytes : List UInt8) : Except CompressionFault (List UInt8) :=
  match packing with
  | gzip => Compression.unpackLong.run bytes
  | deflate =>
    match Compression.unpackShort.run bytes with
    | .ok unpacked => .ok unpacked
    | .error _ => Compression.Deflate.unpack.run bytes

end Packing

namespace HttpResponse

/-- The ways in which the body was packed, the last one first. Names that are not known are passed
over. -/
def packings (r : HttpResponse) : List Packing :=
  let names := (headerValues "content-encoding" r.headers).flatMap fun s => s.splitOn ","
  (names.filterMap fun name => Packing.ofName? (Text.strip name).toLower).reverse

def unpackedBody (r : HttpResponse) : Except BodyFault (List UInt8) :=
  (r.packings.foldlM (fun bytes packing => Packing.unpack packing bytes) r.body).mapError .packing

/-- The ASCII text of a parameter. Where its charset is not known, or the text is none in it, the
text is taken as it stands. -/
def asciiText? (value : MediaType.Value) : Option String :=
  let text : String :=
    match value.charset with
    | none => value.text
    | some name =>
      let bytes := value.text.toList.map fun c => UInt8.ofNat c.toNat
      let charset := Charset.ofName? (if name = "" then "ascii" else name)
      (charset.bind fun charset => charset.textOf? bytes).getD value.text
  if text.toList.all (·.toNat < 0x80) then some text else none

def charset (r : HttpResponse) : Except MediaTypeFault Charset := do
  match headerValue? "content-type" r.headers with
  | none => return .utf8
  | some mediaType =>
    let value ← MediaType.parameter? "charset" mediaType
    return ((value.bind asciiText?).bind Charset.ofName?).getD .utf8

/-- The text of an unpacked body. An empty one needs no charset. -/
def text (r : HttpResponse) (body : List UInt8) : Except BodyFault String := do
  if body.isEmpty then return ""
  let charset ← r.charset.mapError .mediaType
  return (← (charset.decode body).mapError .charset).lossy

end HttpResponse
end RequestChain
