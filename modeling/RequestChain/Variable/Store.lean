import RequestChain.Template
import RequestChain.Variable.Bound

namespace RequestChain

structure Store where
  entries : List (String × Bound)
  nodup : (Entries.names entries).Nodup

namespace Store

def empty : Store := ⟨[], List.nodup_nil⟩

instance : Inhabited Store := ⟨empty⟩

def names (s : Store) : List String := Entries.names s.entries

def get? (name : String) (s : Store) : Option Bound := Entries.get? name s.entries

def contains (name : String) (s : Store) : Bool := (s.get? name).isSome

/-- Binds a variable, in its old place if it has one. -/
def bind (name : String) (value : Bound) (s : Store) : Store :=
  ⟨Entries.put name value s.entries, Entries.nodup_names_put s.nodup⟩

def scope (s : Store) : Scope := s.entries.map fun e => (e.1, e.2.wire)

theorem get?_bind (name other : String) (value : Bound) (s : Store) :
    (s.bind name value).get? other = if name = other then some value else s.get? other :=
  Entries.get?_put name other value s.entries

theorem names_bind (name : String) (value : Bound) (s : Store) :
    (s.bind name value).names =
      if name ∈ s.names then s.names else s.names ++ [name] :=
  Entries.names_put name value s.entries

end Store
end RequestChain
