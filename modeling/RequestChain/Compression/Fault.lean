namespace RequestChain

inductive CompressionFault where
  | header
  | method
  | windowSize
  | headerFlags
  | headerChecksum
  | blockType
  | storedLengths
  | tooManySymbols
  | lengthCode
  | lengthRepeat
  | noEndOfBlock
  | literalCode
  | distanceCode
  | literalSymbol
  | distanceSymbol
  | distanceTooFar
  | checksum
  | length
  | dictionary
  deriving DecidableEq

namespace CompressionFault

def remark : CompressionFault → Option String
  | header => some "incorrect header check"
  | method => some "unknown compression method"
  | windowSize => some "invalid window size"
  | headerFlags => some "unknown header flags set"
  | headerChecksum => some "header crc mismatch"
  | blockType => some "invalid block type"
  | storedLengths => some "invalid stored block lengths"
  | tooManySymbols => some "too many length or distance symbols"
  | lengthCode => some "invalid code lengths set"
  | lengthRepeat => some "invalid bit length repeat"
  | noEndOfBlock => some "invalid code -- missing end-of-block"
  | literalCode => some "invalid literal/lengths set"
  | distanceCode => some "invalid distances set"
  | literalSymbol => some "invalid literal/length code"
  | distanceSymbol => some "invalid distance code"
  | distanceTooFar => some "invalid distance too far back"
  | checksum => some "incorrect data check"
  | length => some "incorrect length check"
  | dictionary => none

def message (f : CompressionFault) : String :=
  match f.remark with
  | some remark => s!"Error -3 while decompressing data: {remark}"
  | none => "Error 2 while decompressing data"

end CompressionFault
end RequestChain
