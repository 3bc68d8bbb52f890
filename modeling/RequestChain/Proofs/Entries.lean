import Mathlib.Data.List.Induction
import RequestChain.Entries

namespace RequestChain.Entries

variable {α β : Type}

theorem put_of_not_mem {name : String} {xs : List (String × α)} (h : name ∉ names xs)
    (value : α) : put name value xs = xs ++ [(name, value)] := by
  induction xs with
  | nil => rfl
  | cons x xs ih =>
    obtain ⟨n, v⟩ := x
    simp only [names, List.map_cons, List.mem_cons, not_or] at h
    rw [put, if_neg (fun he => h.1 he.symm), ih h.2]
    rfl

theorem foldl_put_of_nodup {done pairs : List (String × α)} (h : (names (done ++ pairs)).Nodup) :
    pairs.foldl (fun acc p => put p.1 p.2 acc) done = done ++ pairs := by
  induction pairs generalizing done with
  | nil => simp
  | cons p pairs ih =>
    have hp : p.1 ∉ names done := by
      intro hm
      simp only [names, List.map_append, List.map_cons] at h
      exact (List.nodup_append.1 h).2.2 p.1 hm p.1 List.mem_cons_self rfl
    rw [List.foldl_cons, put_of_not_mem hp, ih (by simpa using h), List.append_assoc]
    rfl

/-- Without a repeated name collecting changes nothing. -/
theorem collect_of_nodup {pairs : List (String × α)} (h : (names pairs).Nodup) :
    collect pairs = pairs :=
  foldl_put_of_nodup h

theorem ne_fst_of_mem {name : String} {e : String × α} {xs : List (String × α)}
    (h : name ∉ names xs) (he : e ∈ xs) : name ≠ e.1 := by
  intro heq
  subst heq
  exact h (List.mem_map_of_mem he)

/-- An entry after putting is the new one or an old one of another name. -/
theorem mem_put {name : String} {value : α} {e : String × α} {xs : List (String × α)}
    (hn : (names xs).Nodup) (h : e ∈ put name value xs) :
    e = (name, value) ∨ e ∈ xs ∧ e.1 ≠ name := by
  induction xs with
  | nil => exact .inl (List.mem_singleton.1 h)
  | cons x xs ih =>
    obtain ⟨n, v⟩ := x
    obtain ⟨hnot, hrest⟩ := List.nodup_cons.1 hn
    rw [put] at h
    split at h
    · rename_i heq
      subst heq
      rcases List.mem_cons.1 h with rfl | h
      · exact .inl rfl
      · exact .inr ⟨List.mem_cons_of_mem _ h, (ne_fst_of_mem hnot h).symm⟩
    · rename_i hne
      rcases List.mem_cons.1 h with rfl | h
      · exact .inr ⟨List.mem_cons_self, hne⟩
      · exact (ih hrest h).imp_right fun hm => ⟨List.mem_cons_of_mem _ hm.1, hm.2⟩

/-- The names that are collected differ, and what holds of the values of all pairs holds of the
values that are collected. -/
theorem collect_of_forall {P : α → Prop} {pairs : List (String × α)} (h : ∀ e ∈ pairs, P e.2) :
    (names (collect pairs)).Nodup ∧ ∀ e ∈ collect pairs, P e.2 := by
  have hfold : ∀ done : List (String × α), (names done).Nodup → (∀ e ∈ done, P e.2) →
      (names (pairs.foldl (fun acc p => put p.1 p.2 acc) done)).Nodup ∧
        ∀ e ∈ pairs.foldl (fun acc p => put p.1 p.2 acc) done, P e.2 := by
    induction pairs with
    | nil => exact fun _ hn hd => ⟨hn, hd⟩
    | cons p pairs ih =>
      intro done hn hd
      refine ih (fun e he => h e (List.mem_cons_of_mem _ he)) _ (nodup_names_put hn) ?_
      intro e he
      rcases mem_put hn he with rfl | ⟨hm, _⟩
      · exact h p List.mem_cons_self
      · exact hd e hm
  exact hfold [] List.nodup_nil (by simp)

theorem collect_append_singleton (pairs : List (String × α)) (p : String × α) :
    collect (pairs ++ [p]) = put p.1 p.2 (collect pairs) := by
  simp [collect]

theorem nodup_names_collect (pairs : List (String × α)) : (names (collect pairs)).Nodup := by
  induction pairs using List.reverseRecOn with
  | nil => exact List.nodup_nil
  | append_singleton pairs p ih =>
    rw [collect_append_singleton]
    exact nodup_names_put ih

/-- A value that comes last is new unless it came before. -/
theorem eraseDups_append_singleton (values : List String) (value : String) :
    (values ++ [value]).eraseDups =
      if value ∈ values then values.eraseDups else values.eraseDups ++ [value] := by
  rw [List.eraseDups_append]
  by_cases h : value ∈ values
  · simp [List.removeAll, h]
  · simp [List.removeAll, h, List.eraseDups_cons]

/-- The names that are collected are in the order in which they first came. -/
theorem names_collect (pairs : List (String × α)) :
    names (collect pairs) = (names pairs).eraseDups := by
  induction pairs using List.reverseRecOn with
  | nil => rfl
  | append_singleton pairs p ih =>
    have hnames : names (pairs ++ [p]) = names pairs ++ [p.1] := by simp [names]
    rw [collect_append_singleton, names_put, ih, hnames, eraseDups_append_singleton]
    simp only [List.mem_eraseDups]

/-- The last value under a name is the one that is collected. -/
theorem get?_collect_of_last {name : String} {value : α} {before after : List (String × α)}
    (h : name ∉ names after) :
    get? name (collect (before ++ (name, value) :: after)) = some value := by
  induction after using List.reverseRecOn with
  | nil =>
    rw [collect_append_singleton, get?_put, if_pos rfl]
  | append_singleton after p ih =>
    simp only [names, List.map_append, List.mem_append, not_or, List.map_cons, List.map_nil,
      List.mem_singleton] at h
    rw [← List.cons_append, ← List.append_assoc, collect_append_singleton, get?_put,
      if_neg fun he => h.2 he.symm]
    exact ih h.1

theorem mem_names_iff {name : String} {xs : List (String × α)} :
    name ∈ names xs ↔ (get? name xs).isSome = true := by
  induction xs with
  | nil => simp [names, get?]
  | cons x xs ih =>
    obtain ⟨n, v⟩ := x
    by_cases h : n = name
    · simp [names, get?, h]
    · have h' : ¬ name = n := fun he => h he.symm
      simpa [names, get?, h, h'] using ih

theorem get?_eq_none_iff {name : String} {xs : List (String × α)} :
    get? name xs = none ↔ name ∉ names xs := by
  rw [mem_names_iff, Option.not_isSome_iff_eq_none]

theorem mem_of_get? {name : String} {value : α} {xs : List (String × α)}
    (h : get? name xs = some value) : (name, value) ∈ xs := by
  induction xs with
  | nil => cases h
  | cons x xs ih =>
    obtain ⟨n, v⟩ := x
    rw [get?] at h
    split at h
    · rename_i he
      cases h
      exact he ▸ List.mem_cons_self
    · exact List.mem_cons_of_mem _ (ih h)

/-- Where no name stands twice, the order does not matter to a look-up. -/
theorem get?_perm (name : String) {xs ys : List (String × α)} (h : (names xs).Nodup)
    (hp : xs.Perm ys) : get? name xs = get? name ys := by
  induction hp with
  | nil => rfl
  | cons x _ ih =>
    rw [get?, get?, ih (List.nodup_cons.1 h).2]
  | swap x y xs =>
    obtain ⟨hnot, _⟩ := List.nodup_cons.1 h
    by_cases hx : x.1 = name
    · have hy : y.1 ≠ name := fun hy => hnot (hy.trans hx.symm ▸ List.mem_cons_self)
      simp only [get?, hx, hy, ↓reduceIte]
    · simp only [get?, hx, ↓reduceIte]
  | trans hp _ ih ih' => exact (ih h).trans (ih' ((hp.map Prod.fst).nodup_iff.1 h))

/-- Where no name stands twice, what stands at a place is what is found under its name. -/
theorem getElem?_eq_some_iff {name : String} {value : α} {xs : List (String × α)} {i : Nat}
    (h : (names xs).Nodup) :
    xs[i]? = some (name, value) ↔ (names xs)[i]? = some name ∧ get? name xs = some value := by
  induction xs generalizing i with
  | nil => simp [names]
  | cons x xs ih =>
    obtain ⟨n, v⟩ := x
    obtain ⟨hn, hrest⟩ := List.nodup_cons.1 h
    cases i with
    | zero =>
      by_cases he : n = name
      · simp [names, get?, he]
      · simp [names, he]
    | succ i =>
      have hne : (names xs)[i]? = some name → ¬ n = name :=
        fun hi he => hn (he ▸ List.mem_of_getElem? hi)
      rw [List.getElem?_cons_succ, ih hrest]
      constructor
      · rintro ⟨hi, hv⟩
        exact ⟨hi, by rw [get?, if_neg (hne hi), hv]⟩
      · rintro ⟨hi, hv⟩
        rw [get?, if_neg (hne hi)] at hv
        exact ⟨hi, hv⟩

theorem get?_of_mem {name : String} {value : α} {xs : List (String × α)} (h : (names xs).Nodup)
    (hm : (name, value) ∈ xs) : get? name xs = some value := by
  obtain ⟨i, hi⟩ := List.mem_iff_getElem?.1 hm
  exact ((getElem?_eq_some_iff h).1 hi).2

/-- Where no name stands twice, the names in their order and the value under each are all there
is. -/
theorem eq_of_get?_eq {xs ys : List (String × α)} (hn : (names xs).Nodup)
    (h : names xs = names ys) (hget : ∀ name ∈ names xs, get? name xs = get? name ys) :
    xs = ys := by
  have hn' : (names ys).Nodup := h ▸ hn
  have hlength : xs.length = ys.length := by simpa [names] using congrArg List.length h
  apply List.ext_getElem?
  intro i
  cases hi : xs[i]? with
  | none =>
    have hle : ys.length ≤ i := hlength ▸ List.getElem?_eq_none_iff.1 hi
    exact (List.getElem?_eq_none_iff.2 hle).symm
  | some e =>
    obtain ⟨hname, hvalue⟩ := (getElem?_eq_some_iff hn).1 hi
    rw [hget e.1 (List.mem_of_getElem? hname)] at hvalue
    exact ((getElem?_eq_some_iff hn').2 ⟨h ▸ hname, hvalue⟩).symm

theorem get?_append (name : String) (xs ys : List (String × α)) :
    get? name (xs ++ ys) = (get? name xs).or (get? name ys) := by
  induction xs with
  | nil => rfl
  | cons x xs ih =>
    obtain ⟨n, v⟩ := x
    by_cases h : n = name <;> simp [get?, h, ih]

theorem names_map (f : α → β) (xs : List (String × α)) :
    names (xs.map fun e => (e.1, f e.2)) = names xs := by
  rw [names, List.map_map]
  rfl

theorem get?_map (f : α → β) (name : String) (xs : List (String × α)) :
    get? name (xs.map fun e => (e.1, f e.2)) = (get? name xs).map f := by
  induction xs with
  | nil => rfl
  | cons x xs ih =>
    obtain ⟨n, v⟩ := x
    by_cases h : n = name
    · simp [get?, h]
    · simpa [get?, h] using ih

/-- Putting commutes with a change of the values. -/
theorem put_map (f : α → β) (name : String) (value : α) (xs : List (String × α)) :
    put name (f value) (xs.map fun e => (e.1, f e.2)) =
      (put name value xs).map fun e => (e.1, f e.2) := by
  induction xs with
  | nil => rfl
  | cons x xs ih =>
    obtain ⟨n, v⟩ := x
    by_cases h : n = name
    · simp [put, h]
    · simpa [put, h] using ih

def rename (old new : String) (xs : List (String × α)) : List (String × α) :=
  xs.map fun e => (if e.1 = old then new else e.1, e.2)

/-- Under the new name stands what stood under the old one; all other names but the old are as they
were. -/
theorem get?_rename {old new : String} {xs : List (String × α)} (h : new ∉ names xs)
    (name : String) :
    get? name (rename old new xs) =
      if name = new then get? old xs else if name = old then none else get? name xs := by
  induction xs with
  | nil => simp [rename, get?]
  | cons x xs ih =>
    obtain ⟨n, v⟩ := x
    simp only [names, List.map_cons, List.mem_cons, not_or] at h
    have hrest := ih h.2
    simp only [rename, List.map_cons, get?] at hrest ⊢
    -- the first entry has the old name, the name that is looked up, or neither
    rw [hrest]
    grind

end RequestChain.Entries
