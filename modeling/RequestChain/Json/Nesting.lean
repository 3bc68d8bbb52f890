import RequestChain.Json.Reader

namespace RequestChain.Json

def isOpening (c : Char) : Bool := c == '[' || c == '{'

def isClosing (c : Char) : Bool := c == ']' || c == '}'

/-- The text from the first bracket on that opens where `limit` others are open. Brackets within
quotes do not count. -/
def deepBracket? (limit : Nat) : Nat → Bool → List Char → Option (List Char)
  | _, _, [] => none
  | depth, true, '\\' :: _ :: cs => deepBracket? limit depth true cs
  | depth, true, c :: cs => deepBracket? limit depth (c != '"') cs
  | depth, false, c :: cs =>
    if isOpening c then
      if depth = limit then some (c :: cs) else deepBracket? limit (depth + 1) false cs
    else deepBracket? limit (if isClosing c then depth - 1 else depth) (c == '"') cs

/-- The bracket at which a reader gives up that can follow `limit` brackets into each other: all is
well before it, and a value is due where it stands. -/
def tooDeep? (limit : Nat) (text : String) : Option Char :=
  let cs := text.toList
  match deepBracket? limit 0 false cs with
  | none | some [] => none
  | some (c :: rest) =>
    match document (cs.take (cs.length - (rest.length + 1))) with
    | .error (.noValue, []) => some c
    | _ => none

theorem deepBracket?_eq_none {limit depth : Nat} {quoted : Bool} {cs : List Char}
    (h : depth + cs.countP isOpening ≤ limit) : deepBracket? limit depth quoted cs = none := by
  fun_induction deepBracket? limit depth quoted cs with
  | case1 => rfl
  | case2 depth c cs ih =>
    simp only [List.countP_cons] at h
    exact ih (by omega)
  | case3 depth c cs _ ih =>
    simp only [List.countP_cons] at h
    exact ih (by omega)
  | case4 c cs hopening =>
    simp only [List.countP_cons, hopening, ↓reduceIte] at h
    omega
  | case5 depth c cs hopening _ ih =>
    simp only [List.countP_cons, hopening, ↓reduceIte] at h
    exact ih (by omega)
  | case6 depth c cs hopening ih =>
    simp only [List.countP_cons] at h
    refine ih ?_
    split <;> omega

/-- A text cannot be too deep that has no more than `limit` brackets. -/
theorem tooDeep?_eq_none {limit : Nat} {text : String}
    (h : text.toList.countP isOpening ≤ limit) : tooDeep? limit text = none := by
  have hnone : deepBracket? limit 0 false text.toList = none :=
    deepBracket?_eq_none (by rwa [Nat.zero_add])
  simp only [tooDeep?, hnone]

end RequestChain.Json
