import Mathlib
import RequestChain.Proofs.Run.Plays
import RequestChain.Proofs.Template.Value
import RequestChain.Proofs.Variable.Place

namespace RequestChain.Run

section Entry

variable {call : Call} {repeats : Bool} {document : Except ExtractionError Json}
  {p q : Progress} {entry other : String × String} {rest : List (String × String)}

end Entry

section Entries

variable {call : Call} {repeats : Bool} {document : Except ExtractionError Json}
  {p : Progress} {entries : List (String × String)}

end Entries

/-- Where an expression holds a token, what it selects depends on the entries before it. -/
example :
    let scopeAfter (entries : List (String × String)) : Scope :=
      (bindReturns ⟨"GET", "/x", .null, none⟩ false
        (Selection.document "\x7b\"a\": \"c\", \"c\": \"x\"\x7d") entries .start).2.store.scope
    scopeAfter [("a", "a"), ("b", "['\x7ba\x7d']")] = [("a", "c"), ("b", "x")] ∧
    scopeAfter [("b", "['\x7ba\x7d']"), ("a", "a")] = [("a", "c")] := by
  cbv

end RequestChain.Run
