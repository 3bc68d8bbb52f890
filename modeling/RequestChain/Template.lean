import RequestChain.Json.Writer
import RequestChain.Text.Replace

namespace RequestChain

/-- Names and the texts that replace their tokens, in the order of replacement. -/
abbrev Scope := List (String × String)

namespace Template

def token (name : String) : String := "\x7b" ++ name ++ "\x7d"

def substitute (template : String) (scope : Scope) : String :=
  scope.foldl (fun text entry => Text.replaceAll (token entry.1) entry.2 text) template

/-- Replaces the tokens of several scopes, name by name over the whole text, so what one name puts
in is seen by the names after it. A token that no scope knows stays as it is. -/
def render (template : String) (scopes : List Scope) : String :=
  scopes.foldl substitute template

def floatWords : FloatWords := ⟨"nan", "inf"⟩

end Template

namespace Json

/-- The text that a value becomes inside a template: a string is taken as it is, null is empty. -/
def inlineText : Json → String
  | .null => ""
  | .str s => s
  | .float x => String.ofList (x.chars Template.floatWords)
  | v => v.spaced

def scope (members : List (String × Json)) : Scope :=
  members.map fun m => (m.1, m.2.inlineText)

mutual

/-- Renders each string and each name in a value. Members whose names become one are merged. -/
def render (scopes : List Scope) : Json → Json
  | .str s => .str (Template.render s scopes)
  | .arr items => .arr (renderItems scopes items)
  | .obj members => .obj (Entries.collect (renderMembers scopes members))
  | .null => .null
  | .bool b => .bool b
  | .int n => .int n
  | .float x => .float x

def renderItems (scopes : List Scope) : List Json → List Json
  | [] => []
  | v :: vs => render scopes v :: renderItems scopes vs

def renderMembers (scopes : List Scope) : List (String × Json) → List (String × Json)
  | [] => []
  | (name, v) :: ms => (Template.render name scopes, render scopes v) :: renderMembers scopes ms

end

def renderObject (scopes : List Scope) (members : List (String × Json)) :
    List (String × Json) :=
  Entries.collect (renderMembers scopes members)

end Json
end RequestChain
