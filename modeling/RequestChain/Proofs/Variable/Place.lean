import RequestChain.Proofs.Entries
import RequestChain.Variable.Store

namespace RequestChain.Store

variable {s : Store} {name : String} {value : Bound} {i : Nat}

theorem mem_names_iff : name ∈ s.names ↔ ∃ value, s.get? name = some value := by
  rw [names, Entries.mem_names_iff, Option.isSome_iff_exists]
  rfl

theorem getElem?_entries_iff :
    s.entries[i]? = some (name, value) ↔ s.names[i]? = some name ∧ s.get? name = some value :=
  Entries.getElem?_eq_some_iff s.nodup

theorem names_bind_of_mem (h : name ∈ s.names) : (s.bind name value).names = s.names := by
  rw [names_bind, if_pos h]

theorem names_scope (s : Store) : Entries.names s.scope = s.names := by
  simp [Entries.names, scope, names]

theorem getElem?_scope (h : s.entries[i]? = some (name, value)) :
    s.scope[i]? = some (name, value.wire) := by
  simp [scope, h]

end RequestChain.Store
