import RequestChain.Text.Replace

namespace RequestChain.Text

def Occurs (old s : String) : Prop := old.toList <:+: s.toList

instance (old s : String) : Decidable (Occurs old s) :=
  inferInstanceAs (Decidable (old.toList <:+: s.toList))

variable {old new xs ys : List Char}

theorem replaceFrom_cons_of_begins {x : Char} (h : old <+: x :: xs) :
    replaceFrom old new 0 (x :: xs) = new ++ replaceFrom old new (old.length - 1) xs := by
  rw [replaceFrom, if_pos (List.isPrefixOf_iff_prefix.2 h)]

theorem replaceFrom_cons_of_not_begins {x : Char} (h : ¬ old <+: x :: xs) :
    replaceFrom old new 0 (x :: xs) = x :: replaceFrom old new 0 xs := by
  rw [replaceFrom, if_neg fun hp => h (List.isPrefixOf_iff_prefix.1 hp)]

theorem replaceFrom_of_absent (h : ¬ old <:+: xs) : replaceFrom old new 0 xs = xs := by
  induction xs with
  | nil => rfl
  | cons x xs ih =>
    have hhead : ¬ old <+: x :: xs := fun hp => h hp.isInfix
    have htail : ¬ old <:+: xs := fun hi => h (List.infix_cons hi)
    rw [replaceFrom_cons_of_not_begins hhead, ih htail]

theorem replaceFrom_skip (skip : Nat) (xs : List Char) :
    replaceFrom old new skip xs = replaceFrom old new 0 (xs.drop skip) := by
  induction xs generalizing skip with
  | nil => cases skip <;> rfl
  | cons x xs ih =>
    cases skip with
    | zero => rfl
    | succ skip => exact ih skip

theorem replaceFrom_self (hne : old ≠ []) : replaceFrom old new 0 old = new := by
  obtain ⟨c, cs, rfl⟩ := List.exists_cons_of_ne_nil hne
  rw [replaceFrom_cons_of_begins List.prefix_rfl, replaceFrom_skip]
  simp [replaceFrom]

/-- Where the old text occurs, the new one is in the result. -/
theorem infix_replaceFrom (hne : old ≠ []) (h : old <:+: xs) :
    new <:+: replaceFrom old new 0 xs := by
  induction xs with
  | nil => exact absurd (List.infix_nil.1 h) hne
  | cons x xs ih =>
    by_cases hp : old <+: x :: xs
    · rw [replaceFrom_cons_of_begins hp]
      exact (List.prefix_append _ _).isInfix
    · rw [replaceFrom_cons_of_not_begins hp]
      exact List.infix_cons (ih ((List.infix_cons_iff.1 h).resolve_left hp))

/-- An occurrence that begins on one side of the place and ends on the other would be split into
two parts, neither of them empty. If there is none, replacing goes on apart on the two sides. -/
theorem replaceFrom_append (h : ∀ u v, old = u ++ v → u <:+ xs → v <+: ys → u = [] ∨ v = [])
    {skip : Nat} (hs : skip ≤ xs.length) :
    replaceFrom old new skip (xs ++ ys) =
      replaceFrom old new skip xs ++ replaceFrom old new 0 ys := by
  induction xs generalizing skip with
  | nil =>
    obtain rfl : skip = 0 := Nat.le_zero.1 hs
    rfl
  | cons x xs ih =>
    have htail : ∀ u v, old = u ++ v → u <:+ xs → v <+: ys → u = [] ∨ v = [] :=
      fun u v ho hu hv => h u v ho (hu.trans (List.suffix_cons x xs)) hv
    cases skip with
    | succ skip => exact ih htail (Nat.le_of_succ_le_succ hs)
    | zero =>
      by_cases hp : old <+: x :: xs
      · have hl : old.length - 1 ≤ xs.length := by
          have := hp.length_le
          simp only [List.length_cons] at this
          omega
        have hp' : old <+: x :: (xs ++ ys) := hp.trans (List.prefix_append (x :: xs) ys)
        rw [List.cons_append, replaceFrom_cons_of_begins hp, replaceFrom_cons_of_begins hp',
          ih htail hl, List.append_assoc]
      · have hp' : ¬ old <+: x :: (xs ++ ys) := by
          -- too long for `x :: xs`, it would cross the place
          intro hlong
          rcases List.prefix_or_prefix_of_prefix hlong (List.prefix_append (x :: xs) ys) with
            hshort | ⟨v, rfl⟩
          · exact hp hshort
          · have hv : v <+: ys := (List.prefix_append_right_inj (x :: xs)).1 hlong
            rcases h (x :: xs) v rfl List.suffix_rfl hv with hx | rfl
            · cases hx
            · exact hp (by simp)
        rw [List.cons_append, replaceFrom_cons_of_not_begins hp, replaceFrom_cons_of_not_begins hp',
          ih htail (Nat.zero_le _), List.cons_append]

theorem replaceFrom_of_length_lt (h : xs.length < old.length) : replaceFrom old new 0 xs = xs :=
  replaceFrom_of_absent fun hi => Nat.not_le_of_lt h hi.length_le

theorem replaceFrom_of_not_mem {c : Char} (hc : c ∈ old) (h : c ∉ xs) :
    replaceFrom old new 0 xs = xs :=
  replaceFrom_of_absent fun hi => h (hi.subset hc)

/-- Characters that the old text does not have are copied as they are. -/
theorem replaceFrom_append_of_outside {gap : List Char} (hne : old ≠ [])
    (h : ∀ c ∈ gap, c ∉ old) (ys : List Char) :
    replaceFrom old new 0 (gap ++ ys) = gap ++ replaceFrom old new 0 ys := by
  obtain ⟨o, os, rfl⟩ := List.exists_cons_of_ne_nil hne
  induction gap with
  | nil => rfl
  | cons c gap ih =>
    obtain ⟨hc, hgap⟩ := List.forall_mem_cons.1 h
    have hp : ¬ o :: os <+: c :: (gap ++ ys) := by
      intro hp
      obtain ⟨rfl, _⟩ := List.cons_prefix_cons.1 hp
      exact hc List.mem_cons_self
    rw [List.cons_append, replaceFrom_cons_of_not_begins hp, ih hgap, List.cons_append]

/-- No occurrence crosses a gap of characters that `old` does not hold. -/
theorem replaceFrom_gap {gap : List Char} (hold : old ≠ []) (hne : gap ≠ [])
    (h : ∀ c ∈ gap, c ∉ old) (xs ys : List Char) :
    replaceFrom old new 0 (xs ++ (gap ++ ys)) =
      replaceFrom old new 0 xs ++ (gap ++ replaceFrom old new 0 ys) := by
  rw [replaceFrom_append ?_ (Nat.zero_le _), replaceFrom_append_of_outside hold h]
  obtain ⟨c, gap, rfl⟩ := List.exists_cons_of_ne_nil hne
  intro u v ho _ hv
  cases v with
  | nil => exact .inr rfl
  | cons d v =>
    obtain ⟨rfl, _⟩ := List.cons_prefix_cons.1 hv
    have hmem : d ∈ old := by simp [ho]
    exact absurd hmem (h d List.mem_cons_self)

/-- What does not hold a mark occurs inside the marks, if it occurs between and on them. -/
theorem infix_of_infix_marked {mark : Char} (hne : old ≠ []) (hmark : mark ∉ old)
    (h : old <:+: mark :: (xs ++ [mark])) : old <:+: xs := by
  rcases List.infix_cons_iff.1 h with hp | hi
  · obtain ⟨c, cs, rfl⟩ := List.exists_cons_of_ne_nil hne
    obtain ⟨rfl, _⟩ := List.cons_prefix_cons.1 hp
    exact absurd List.mem_cons_self hmark
  · rcases List.infix_concat_iff.1 hi with hs | hi
    · rcases List.suffix_concat_iff.1 hs with rfl | ⟨cs, rfl, _⟩
      · exact absurd rfl hne
      · exact absurd (by simp) hmark
    · exact hi

variable {first last : Char} {name piece : List Char}

theorem last_mem_of_append_eq {u v : List Char} (h : first :: (name ++ [last]) = u ++ v)
    (hv : v ≠ []) : last ∈ v := by
  rcases List.eq_nil_or_concat v with rfl | ⟨w, c, rfl⟩
  · exact absurd rfl hv
  · rw [← List.cons_append, List.concat_eq_append, ← List.append_assoc] at h
    have hc := (List.append_inj' h rfl).2
    rw [List.cons.injEq] at hc
    simp [hc.1]

/-- A piece that is as long as `old` and has neither its first nor its last character outlasts the
replacement. -/
theorem infix_replaceFrom_of_apart (hfirst : first ∉ piece) (hlast : last ∉ piece)
    (hl : (first :: (name ++ [last])).length ≤ piece.length) (h : piece <:+: xs) :
    piece <:+: replaceFrom (first :: (name ++ [last])) new 0 xs := by
  obtain ⟨before, after, rfl⟩ := h
  -- an occurrence that begins before the piece would end in it, as it is too short to hold it
  have hbefore : ∀ u v, first :: (name ++ [last]) = u ++ v → u <:+ before →
      v <+: piece ++ after → u = [] ∨ v = [] := by
    intro u v ho _ hv
    by_cases hne : v = []
    · exact .inr hne
    · have hle : v.length ≤ piece.length := by
        have := congrArg List.length ho
        rw [List.length_append] at this
        omega
      have hpiece : v <+: piece :=
        List.prefix_of_prefix_length_le hv (List.prefix_append piece after) hle
      exact absurd (hpiece.subset (last_mem_of_append_eq ho hne)) hlast
  -- and none begins in it
  have hafter : ∀ u v, first :: (name ++ [last]) = u ++ v → u <:+ piece → v <+: after →
      u = [] ∨ v = [] := by
    intro u v ho hu _
    cases u with
    | nil => exact .inl rfl
    | cons c u =>
      obtain ⟨rfl, _⟩ := List.cons.inj ho
      exact absurd (hu.subset List.mem_cons_self) hfirst
  have hnot : ¬ first :: (name ++ [last]) <:+: piece := fun hi =>
    hfirst (hi.subset List.mem_cons_self)
  rw [List.append_assoc, replaceFrom_append hbefore (Nat.zero_le _),
    replaceFrom_append hafter (Nat.zero_le _), replaceFrom_of_absent hnot,
    ← List.append_assoc]
  exact List.infix_append _ _ _

/-- What is put in does not hold `last` and is no part of `name`: the two together at the head of
the result were at the head of the text. -/
theorem prefix_of_prefix_replaceFrom (hlast : last ∉ new) (hpart : ¬ new <:+: name)
    (h : name ++ [last] <+: replaceFrom old new 0 xs) : name ++ [last] <+: xs := by
  induction xs generalizing name with
  | nil =>
    have := List.prefix_nil.1 h
    simp at this
  | cons x xs ih =>
    by_cases hp : old <+: x :: xs
    · rw [replaceFrom_cons_of_begins hp] at h
      rcases List.prefix_or_prefix_of_prefix h (List.prefix_append new _) with hin | hin
      · exact absurd (hin.subset (by simp)) hlast
      · by_cases hle : new.length ≤ name.length
        · have hname := List.prefix_of_prefix_length_le hin (List.prefix_append name [last]) hle
          exact absurd hname.isInfix hpart
        · have heq : new = name ++ [last] := by
            refine hin.eq_of_length_le ?_
            simp only [List.length_append, List.length_singleton]
            omega
          rw [heq] at hlast
          simp at hlast
    · rw [replaceFrom_cons_of_not_begins hp] at h
      cases name with
      | nil =>
        obtain ⟨rfl, _⟩ := List.cons_prefix_cons.1 h
        simp
      | cons c name =>
        obtain ⟨rfl, htail⟩ := List.cons_prefix_cons.1 h
        have hpart' : ¬ new <:+: name := fun hi => hpart (List.infix_cons hi)
        exact List.cons_prefix_cons.2 ⟨rfl, ih hpart' htail⟩

/-- A text that does not begin in the first of two pieces is in the second. -/
theorem infix_of_infix_append (hfirst : first ∉ ys) (h : first :: name <:+: ys ++ xs) :
    first :: name <:+: xs := by
  induction ys with
  | nil => exact h
  | cons y ys ih =>
    have htail : first ∉ ys := fun hm => hfirst (List.mem_cons_of_mem y hm)
    rcases List.infix_cons_iff.1 h with hp | hi
    · obtain ⟨rfl, _⟩ := List.cons_prefix_cons.1 hp
      exact absurd List.mem_cons_self hfirst
    · exact ih htail hi

/-- If what is put in holds neither `first` nor `last` and is no part of `name`, it does not help
to build the three together. -/
theorem infix_of_infix_replaceFrom (hfirst : first ∉ new) (hlast : last ∉ new)
    (hpart : ¬ new <:+: name) {skip : Nat}
    (h : first :: (name ++ [last]) <:+: replaceFrom old new skip xs) :
    first :: (name ++ [last]) <:+: xs := by
  induction xs generalizing skip with
  | nil => cases skip <;> exact h
  | cons x xs ih =>
    cases skip with
    | succ skip => exact List.infix_cons (ih h)
    | zero =>
      by_cases hp : old <+: x :: xs
      · rw [replaceFrom_cons_of_begins hp] at h
        exact List.infix_cons (ih (infix_of_infix_append hfirst h))
      · rw [replaceFrom_cons_of_not_begins hp] at h
        rcases List.infix_cons_iff.1 h with hhead | htail
        · obtain ⟨rfl, hrest⟩ := List.cons_prefix_cons.1 hhead
          have hbody := prefix_of_prefix_replaceFrom hlast hpart hrest
          exact (List.cons_prefix_cons.2 ⟨rfl, hbody⟩).isInfix
        · exact List.infix_cons (ih htail)

/-- If what is put in holds neither `first` nor `last` and is no part of `name`, no occurrence is
left. -/
theorem not_infix_replaceFrom (hfirst : first ∉ new) (hlast : last ∉ new)
    (hpart : ¬ new <:+: name) {skip : Nat} :
    ¬ first :: (name ++ [last]) <:+: replaceFrom (first :: (name ++ [last])) new skip xs := by
  intro h
  induction xs generalizing skip with
  | nil => cases skip <;> simp [replaceFrom] at h
  | cons x xs ih =>
    cases skip with
    | succ skip => exact ih h
    | zero =>
      by_cases hp : first :: (name ++ [last]) <+: x :: xs
      · rw [replaceFrom_cons_of_begins hp] at h
        exact ih (infix_of_infix_append hfirst h)
      · rw [replaceFrom_cons_of_not_begins hp] at h
        rcases List.infix_cons_iff.1 h with hhead | htail
        · -- it would have been replaced
          obtain ⟨rfl, hrest⟩ := List.cons_prefix_cons.1 hhead
          have hbody := prefix_of_prefix_replaceFrom hlast hpart hrest
          exact hp (List.cons_prefix_cons.2 ⟨rfl, hbody⟩)
        · exact ih htail

/-- What is put in does not hold `first`, so each replacement takes one away. -/
theorem count_replaceFrom_le (hfirst : first ∉ new) (skip : Nat) (xs : List Char) :
    (replaceFrom (first :: name) new skip xs).count first ≤ xs.count first := by
  induction xs generalizing skip with
  | nil => cases skip <;> exact Nat.le_refl _
  | cons x xs ih =>
    cases skip with
    | succ skip => exact Nat.le_trans (ih skip) ((List.sublist_cons_self x xs).count_le first)
    | zero =>
      by_cases hp : first :: name <+: x :: xs
      · rw [replaceFrom_cons_of_begins hp, List.count_append, List.count_eq_zero.2 hfirst,
          Nat.zero_add]
        exact Nat.le_trans (ih _) ((List.sublist_cons_self x xs).count_le first)
      · rw [replaceFrom_cons_of_not_begins hp, List.count_cons, List.count_cons]
        exact Nat.add_le_add_right (ih 0) _

theorem count_replaceFrom_lt (hfirst : first ∉ new) (h : first :: name <:+: xs) :
    (replaceFrom (first :: name) new 0 xs).count first < xs.count first := by
  induction xs with
  | nil => simp at h
  | cons x xs ih =>
    by_cases hp : first :: name <+: x :: xs
    · rw [replaceFrom_cons_of_begins hp, List.count_append, List.count_eq_zero.2 hfirst,
        Nat.zero_add]
      obtain ⟨rfl, _⟩ := List.cons_prefix_cons.1 hp
      rw [List.count_cons_self]
      exact Nat.lt_succ_of_le (count_replaceFrom_le hfirst _ xs)
    · rw [replaceFrom_cons_of_not_begins hp, List.count_cons, List.count_cons]
      exact Nat.add_lt_add_right (ih ((List.infix_cons_iff.1 h).resolve_left hp)) _

theorem replaceAll_of_not_occurs {old s : String} (h : ¬ Occurs old s) (new : String) :
    replaceAll old new s = s := by
  rw [replaceAll, replaceFrom_of_absent h, String.ofList_toList]

end RequestChain.Text
