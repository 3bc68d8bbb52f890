import RequestChain.Json.Reader
import RequestChain.Json.Writer

namespace RequestChain

/-- The text by which a JSON value is bound: a string without quotes, a container indented. -/
def Json.bindingText : Json → String
  | .str s => s
  | .arr items => (Json.arr items).pretty
  | .obj members => (Json.obj members).pretty
  | v => v.spaced

/-- The value of a variable: one text, or a list of texts. Either has one wire form, the text that
templates put in. -/
inductive Bound where
  | text (s : String)
  | list (items : List String)
  deriving DecidableEq, Inhabited

namespace Bound

def encodeList (items : List String) : String := (Json.arr (items.map .str)).spaced

def arrayItems? (text : String) : Option (List String) :=
  match Json.read? text with
  | some (.arr items) => some (items.map Json.bindingText)
  | _ => none

/-- The items of a text: those of a JSON array, else the text itself. -/
def decodeList (text : String) : List String := (arrayItems? text).getD [text]

def isArray (text : String) : Bool := (arrayItems? text).isSome

def wire : Bound → String
  | .text s => s
  | .list items => encodeList items

def elements : Bound → List String
  | .text s => decodeList s
  | .list items => items

/-- The value of matched JSON values: one match is a text, any other number a list. -/
def ofMatches : List Json → Bound
  | [v] => .text v.bindingText
  | vs => .list (vs.map Json.bindingText)

/-- The value after a step returned another. A single text returned by an iterating step is added
to what is there: at the end of a list, at the end of a text that is an array, or after a text
that is none. Otherwise the new value takes the place of the old. -/
def merge (existing : Option Bound) (returned : Bound) (iterating : Bool) : Bound :=
  match existing, iterating, returned with
  | some (.list items), true, .text s => .list (items ++ [s])
  | some (.text old), true, .text s =>
    match arrayItems? old with
    | some items => .list (items ++ [s])
    | none => .list [old, s]
  | _, _, _ => returned

end Bound
end RequestChain
