namespace RequestChain

inductive ComplaintKind where
  | modelType
  | modelAttributesType
  | listType
  | dictType
  | stringType
  | boolType
  | boolParsing
  | intParsing
  | intParsingSize
  | floatParsing
  | missing
  | jsonInvalid
  deriving DecidableEq

def ComplaintKind.code : ComplaintKind → String
  | modelType => "model_type"
  | modelAttributesType => "model_attributes_type"
  | listType => "list_type"
  | dictType => "dict_type"
  | stringType => "string_type"
  | boolType => "bool_type"
  | boolParsing => "bool_parsing"
  | intParsing => "int_parsing"
  | intParsingSize => "int_parsing_size"
  | floatParsing => "float_parsing"
  | missing => "missing"
  | jsonInvalid => "json_invalid"

inductive PlaceStep where
  | name (s : String)
  | index (n : Nat)
  deriving DecidableEq

structure Complaint where
  kind : ComplaintKind
  place : List PlaceStep
  deriving DecidableEq

/-- A checked value, or all complaints about the input in the order in which they were found. -/
abbrev Checked (α : Type) := Except (List Complaint) α

namespace Checked

variable {α β : Type}

def complaints : Checked α → List Complaint
  | .ok _ => []
  | .error cs => cs

def refuse (kind : ComplaintKind) (place : List PlaceStep) : Checked α := .error [⟨kind, place⟩]

/-- Both values, or the complaints about the first and then those about the second. -/
def both (a : Checked α) (b : Checked β) : Checked (α × β) :=
  match a, b with
  | .ok x, .ok y => .ok (x, y)
  | a, b => .error (a.complaints ++ b.complaints)

def all : List (Checked α) → Checked (List α)
  | [] => .ok []
  | a :: rest => (a.both (all rest)).map fun (x, xs) => x :: xs

end Checked
end RequestChain
