import RequestChain.Text.Utf16
import RequestChain.Text.Utf32
import RequestChain.Text.Utf8

namespace RequestChain.Json

/-- The text of bytes, if they are text. As JSON starts with an ASCII character, the zeros among the
first bytes tell UTF-16 and UTF-32 from UTF-8. Half a character that stands alone is U+FFFD. -/
def textOfBytes? (bytes : List UInt8) : Option String :=
  let said : Text.Decoded :=
    match bytes with
    | 0 :: 0 :: _ :: _ :: _ => Text.Utf32.decodeUnits .bigFirst bytes
    | 0 :: _ :: _ :: _ :: _ => Text.Utf16.decodeUnits .bigFirst bytes
    | _ :: 0 :: 0 :: 0 :: _ => Text.Utf32.decodeUnits .littleFirst bytes
    | _ :: 0 :: _ :: _ :: _ => Text.Utf16.decodeUnits .littleFirst bytes
    | [0, _] => Text.Utf16.decodeUnits .bigFirst bytes
    | [_, 0] => Text.Utf16.decodeUnits .littleFirst bytes
    | _ => Text.Utf8.decodeMarked bytes
  said.gapless?

end RequestChain.Json
