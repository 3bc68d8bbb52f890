import RequestChain.Sorting.Basic
import RequestChain.Text.Blank
import RequestChain.Text.Hex
import RequestChain.Text.Latin1
import RequestChain.Text.Replace

namespace RequestChain

/-- Why the parameters of a media type cannot be read: a section with a number is compared with one
without. -/
inductive MediaTypeFault where
  | mixedSections (numberedFirst : Bool)

def MediaTypeFault.message : MediaTypeFault → String
  | mixedSections true => "'<' not supported between instances of 'int' and 'NoneType'"
  | mixedSections false => "'<' not supported between instances of 'NoneType' and 'int'"

namespace MediaType

/-- Cuts at semicolons that do not stand between quotes. A quote with a backslash before it neither
opens nor closes. -/
def pieces : Bool → List Char → List (List Char)
  | _, [] => [[]]
  | inQuotes, '\\' :: '"' :: cs =>
    match pieces inQuotes cs with
    | [] => [['\\', '"']]
    | first :: rest => ('\\' :: '"' :: first) :: rest
  | inQuotes, c :: cs =>
    if c = ';' ∧ !inQuotes then [] :: pieces false cs
    else
      match pieces (inQuotes != (c == '"')) cs with
      | [] => [[c]]
      | first :: rest => (c :: first) :: rest

/-- A text without the quotes or angle brackets around it. Between quotes a backslash may protect
itself and a quote. -/
def bare (s : String) : String :=
  let cs := s.toList
  let inner := String.ofList cs.tail.dropLast
  if cs.length < 2 then s
  else if cs.head? = some '"' ∧ cs.getLast? = some '"' then
    Text.replaceAll "\\\"" "\"" (Text.replaceAll "\\\\" "\\" inner)
  else if cs.head? = some '<' ∧ cs.getLast? = some '>' then inner
  else s

def named (piece : List Char) : String × String :=
  let trimmed (cs : List Char) : String := String.ofList (Text.trim Text.isBlank cs)
  match piece.dropWhile (· ≠ '=') with
  | [] => (trimmed piece, "")
  | _ :: text => ((trimmed (piece.takeWhile (· ≠ '='))).toLower, bare (trimmed text))

/-- A section of a parameter's text. The sections of one parameter have numbers, if there are
several. -/
structure Section where
  number : Option Nat
  text : String
  escaped : Bool

/-- The name of a parameter and the number of a section of it, where a name says so: an asterisk,
and perhaps a number with another asterisk, follow the parameter's name. -/
def sectionName? (name : String) : Option (String × Option Nat) :=
  let isInside (c : Char) : Bool := c.isAlphanum || c == '_'
  let cs := name.toList
  let word := cs.takeWhile isInside
  match word, cs.dropWhile isInside with
  | _ :: _, ['*'] => some (String.ofList word, none)
  | _ :: _, '*' :: more =>
    let ds := more.takeWhile Char.isDigit
    if !ds.isEmpty && [[], ['*']].contains (more.dropWhile Char.isDigit) then
      some (String.ofList word, some (Nat.ofDigitChars 10 ds 0))
    else none
  | _, _ => none

/-- The order of sections: by number, then by text, and escaped ones last. -/
def Section.before : Sorting.Order MediaTypeFault Section := fun a b =>
  let later : Bool := a.text < b.text || (a.text == b.text && !a.escaped && b.escaped)
  match a.number, b.number with
  | none, none => .ok later
  | some m, some n => .ok (m < n || (m == n && later))
  | some _, none => .error (.mixedSections true)
  | none, some _ => .error (.mixedSections false)

/-- The text with its escapes taken back. Each stands for a character of Latin-1. -/
def unescape : List Char → List Char
  | '%' :: a :: b :: rest =>
    match Hex.value? a, Hex.value? b with
    | some x, some y => Char.ofNat (x * 16 + y) :: unescape rest
    | _, _ => '%' :: unescape (a :: b :: rest)
  | c :: rest => c :: unescape rest
  | [] => []

/-- The value of a parameter: its text, and for one with escapes the charset, perhaps not named,
that the text is in as Latin-1. -/
structure Value where
  text : String
  charset : Option String

/-- The value of sections. Where one is escaped, charset and language come before the text, each
with an apostrophe after it. -/
def valueOf (sections : List Section) : Value :=
  let texts := sections.map fun s =>
    if s.escaped then unescape s.text.toList else s.text.toList
  let whole := texts.flatten
  let apart (c : Char) : Bool := c ≠ '\''
  let marked := whole.dropWhile apart
  match (marked.drop 1).dropWhile apart with
  | _ :: text =>
    if sections.any Section.escaped then
      ⟨String.ofList text, some (String.ofList (whole.takeWhile apart))⟩
    else ⟨String.ofList whole, none⟩
  | [] => ⟨String.ofList whole, if sections.any Section.escaped then some "" else none⟩

def collect (name : String) (s : Section) :
    List (String × List Section) → List (String × List Section)
  | [] => [(name, [s])]
  | (other, ss) :: rest =>
    if other = name then (other, ss ++ [s]) :: rest else (other, ss) :: collect name s rest

def sections : List (String × String) → List (String × List Section) → List (String × List Section)
  | [], found => found
  | (name, text) :: rest, found =>
    match sectionName? name with
    | some (word, number) =>
      sections rest (collect word ⟨number, text, name.toList.getLast? = some '*'⟩ found)
    | none => sections rest found

/-- The parameters of a media type. Those in sections come last. -/
def parameters (mediaType : String) : Except MediaTypeFault (List (String × Value)) := do
  match (pieces false mediaType.toList).map named with
  | [] => return []
  | first :: rest =>
    let plain := first :: rest.filter fun p => (sectionName? p.1).isNone
    let cut ← (sections rest []).mapM fun (name, ss) => do
      return (name, valueOf (← Sorting.sort Section.before ss))
    return plain.map (fun p => (p.1, ⟨p.2, none⟩)) ++ cut

def parameter? (name mediaType : String) : Except MediaTypeFault (Option Value) := do
  return ((← parameters mediaType).find? fun p => p.1.toLower == name).map Prod.snd

/-- Type and subtype in small letters; without exactly one slash it is plain text. -/
def essence (mediaType : String) : String × String :=
  let first := mediaType.toList.takeWhile (· ≠ ';')
  let first := (String.ofList (Text.trim Text.isBlank first)).toLower.toList
  if first.count '/' = 1 then
    (String.ofList (first.takeWhile (· ≠ '/')),
      String.ofList ((first.dropWhile (· ≠ '/')).drop 1))
  else ("text", "plain")

def isJson (mediaType : String) : Bool :=
  let (main, sub) := essence mediaType
  main == "application" && (sub == "json" || sub.endsWith "+json")

end MediaType
end RequestChain
