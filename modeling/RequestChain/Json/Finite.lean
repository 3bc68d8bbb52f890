import RequestChain.Json.Basic

namespace RequestChain.Json

mutual

def isFinite : Json → Bool
  | .float (.finite ..) => true
  | .float _ => false
  | .arr items => areFinite items
  | .obj members => membersAreFinite members
  | .null | .bool _ | .int _ | .str _ => true

def areFinite : List Json → Bool
  | [] => true
  | v :: vs => isFinite v && areFinite vs

def membersAreFinite : List (String × Json) → Bool
  | [] => true
  | (_, v) :: ms => isFinite v && membersAreFinite ms

end
end RequestChain.Json
