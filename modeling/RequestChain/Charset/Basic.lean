import RequestChain.Charset.Page
import RequestChain.Text.Hex
import RequestChain.Text.Punycode
import RequestChain.Text.Utf16
import RequestChain.Text.Utf32
import RequestChain.Text.Utf7
import RequestChain.Text.Utf8

namespace RequestChain

inductive Charset where
  | ascii
  | latin1
  | utf7
  | utf8
  | utf8Marked
  /-- UTF-16; where the order of bytes is not given, a mark shows it. -/
  | utf16 (order : Option Text.ByteOrder)
  /-- UTF-32; where the order of bytes is not given, a mark shows it. -/
  | utf32 (order : Option Text.ByteOrder)
  | page (p : Charset.Page)
  | wide (read : List UInt8 → Option Text.Decoded)
  | punycode
  | unusable (remark : String)

inductive CharsetFault where
  | unmarked (name : String)
  | unusable (remark : String)
  | notAscii (byte place : Nat)
  | overfull

def CharsetFault.message : CharsetFault → String
  | unmarked name => s!"{name} stream does not start with BOM"
  | unusable remark => remark
  | notAscii byte place =>
    s!"'ascii' codec can't decode byte 0x" ++ String.ofList (Hex.digits 2 byte) ++
      s!" in position {place}: ordinal not in range(128)"
  | overfull => "pending buffer overflow"

namespace Charset

def decode (charset : Charset) (bytes : List UInt8) : Except CharsetFault Text.Decoded :=
  match charset with
  | ascii =>
    .ok (bytes.map fun b => if b < 0x80 then some (Char.ofNat b.toNat) else none).toArray
  | latin1 => .ok (bytes.map fun b => some (Char.ofNat b.toNat)).toArray
  | utf7 => .ok (Text.Utf7.decode bytes)
  | utf8 => .ok (Text.Utf8.decode bytes)
  | utf8Marked => .ok (Text.Utf8.decodeMarked bytes)
  | utf16 (some order) => .ok (Text.Utf16.decode order bytes)
  | utf16 none => (Text.Utf16.decodeMarked? bytes).elim (.error (.unmarked "UTF-16")) .ok
  | utf32 (some order) => .ok (Text.Utf32.decode order bytes)
  | utf32 none => (Text.Utf32.decodeMarked? bytes).elim (.error (.unmarked "UTF-32")) .ok
  | page p => .ok (p.decode bytes)
  | wide read => (read bytes).elim (.error .overfull) .ok
  | punycode =>
    let (digits, basic) := Text.Punycode.parts (bytes.map fun b => Char.ofNat b.toNat)
    match digits.findIdx? (0x80 ≤ ·.toNat) with
    | some i => .error (.notAscii ((digits[i]?.map Char.toNat).getD 0) i)
    | none => .ok ((Text.Punycode.decodeSome digits basic).map some).toArray
  | unusable remark => .error (.unusable remark)

def ordered : Charset → Charset
  | utf16 none => utf16 (some .littleFirst)
  | utf32 none => utf32 (some .littleFirst)
  | charset => charset

/-- The text of bytes, if all of them mean something. A mark that shows the order of bytes may be
missing. -/
def textOf? (charset : Charset) (bytes : List UInt8) : Option String :=
  match charset.decode bytes with
  | .ok said => said.gapless?
  | .error _ => (charset.ordered.decode bytes).toOption.bind Text.Decoded.gapless?

end Charset
end RequestChain
