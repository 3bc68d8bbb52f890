namespace RequestChain.Entries

variable {α : Type}

def names (xs : List (String × α)) : List String := xs.map Prod.fst

def get? (name : String) : List (String × α) → Option α
  | [] => none
  | (n, v) :: rest => if n = name then some v else get? name rest

/-- Gives `name` the value: in its old place if it has one, else at the end. -/
def put (name : String) (value : α) : List (String × α) → List (String × α)
  | [] => [(name, value)]
  | (n, v) :: rest => if n = name then (n, value) :: rest else (n, v) :: put name value rest

/-- Puts the pairs one after another, so that a repeated name keeps its first place and its last
value. -/
def collect (pairs : List (String × α)) : List (String × α) :=
  pairs.foldl (fun acc p => put p.1 p.2 acc) []

theorem names_put (name : String) (value : α) (xs : List (String × α)) :
    names (put name value xs) =
      if name ∈ names xs then names xs else names xs ++ [name] := by
  induction xs with
  | nil => simp [put, names]
  | cons x rest ih =>
    obtain ⟨n, v⟩ := x
    by_cases h : n = name
    · simp [put, names, h]
    · have h' : ¬ name = n := fun e => h e.symm
      simp only [names] at ih
      by_cases hm : name ∈ rest.map Prod.fst <;> simp_all [put, names]

theorem nodup_names_put {name : String} {value : α} {xs : List (String × α)}
    (h : (names xs).Nodup) : (names (put name value xs)).Nodup := by
  rw [names_put]
  split
  · exact h
  · rename_i hn
    refine List.nodup_append.2 ⟨h, by simp, fun a ha b hb => ?_⟩
    rw [List.mem_singleton.1 hb]
    exact fun e => hn (e ▸ ha)

theorem get?_put (name other : String) (value : α) (xs : List (String × α)) :
    get? other (put name value xs) = if name = other then some value else get? other xs := by
  induction xs with
  | nil => simp [put, get?]
  | cons x rest ih =>
    obtain ⟨n, v⟩ := x
    by_cases hn : n = name
    · subst hn
      by_cases h : n = other <;> simp [put, get?, h]
    · by_cases h : n = other
      · have : ¬ name = other := fun e => hn (h.trans e.symm)
        simp only [put, if_neg hn, get?, if_pos h, if_neg this]
      · simp [put, get?, hn, h, ih]

end RequestChain.Entries
