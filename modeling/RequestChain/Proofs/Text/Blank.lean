import RequestChain.Text.Blank

namespace RequestChain.Text

section Trim

variable {α : Type}

/-- What is left has no element to drop at either end. -/
def IsTrimmed (p : α → Bool) (xs : List α) : Prop :=
  (∀ x ∈ xs.head?, p x = false) ∧ ∀ x ∈ xs.getLast?, p x = false

theorem dropWhile_of_head {p : α → Bool} {xs : List α} (h : ∀ x ∈ xs.head?, p x = false) :
    xs.dropWhile p = xs := by
  cases xs with
  | nil => rfl
  | cons x xs =>
    have hx := h x rfl
    simp [hx]

theorem trim_of_isTrimmed {p : α → Bool} {xs : List α} (h : IsTrimmed p xs) : trim p xs = xs := by
  unfold trim
  rw [dropWhile_of_head h.1, dropWhile_of_head, List.reverse_reverse]
  rw [List.head?_reverse]
  exact h.2

theorem head_dropWhile {p : α → Bool} {xs : List α} :
    ∀ x ∈ (xs.dropWhile p).head?, p x = false := by
  intro x hx
  have h := List.head?_dropWhile_not p xs
  rw [hx] at h
  exact h

/-- What is dropped satisfies the test, and what is left is trimmed. -/
theorem exists_trim_eq (p : α → Bool) (xs : List α) :
    ∃ before after, xs = before ++ trim p xs ++ after ∧ before.all p = true ∧
      after.all p = true ∧ IsTrimmed p (trim p xs) := by
  let ys := xs.dropWhile p
  have hys : ys = trim p xs ++ (ys.reverse.takeWhile p).reverse := by
    unfold trim
    rw [← List.reverse_append, List.takeWhile_append_dropWhile, List.reverse_reverse]
  refine ⟨xs.takeWhile p, (ys.reverse.takeWhile p).reverse, ?_, List.all_takeWhile, ?_, ?_, ?_⟩
  · rw [List.append_assoc, ← hys, List.takeWhile_append_dropWhile]
  · rw [List.all_reverse]
    exact List.all_takeWhile
  · intro x hx
    have hhead : x ∈ ys.head? := by
      rw [hys, List.head?_append, hx]
      rfl
    exact head_dropWhile x hhead
  · intro x hx
    unfold trim at hx
    rw [List.getLast?_reverse] at hx
    exact head_dropWhile x hx

theorem trim_trim (p : α → Bool) (xs : List α) : trim p (trim p xs) = trim p xs := by
  obtain ⟨_, _, _, _, _, h⟩ := exists_trim_eq p xs
  exact trim_of_isTrimmed h

theorem trim_eq_nil_iff {p : α → Bool} {xs : List α} : trim p xs = [] ↔ xs.all p = true := by
  constructor
  · intro h
    obtain ⟨before, after, he, hb, ha, _⟩ := exists_trim_eq p xs
    rw [he, h]
    simp only [List.append_nil, List.all_append, Bool.and_eq_true]
    exact ⟨hb, ha⟩
  · intro h
    have hnone : (xs ++ []).dropWhile p = [] :=
      List.dropWhile_append_of_pos (List.all_eq_true.1 h)
    rw [List.append_nil] at hnone
    unfold trim
    rw [hnone]
    rfl

/-- A trimmed list is found again between elements that satisfy the test. -/
theorem trim_append_append {p : α → Bool} {before xs after : List α} (hb : before.all p = true)
    (hx : IsTrimmed p xs) (ha : after.all p = true) : trim p (before ++ xs ++ after) = xs := by
  cases xs with
  | nil =>
    rw [List.append_nil, trim_eq_nil_iff, List.all_append, hb, ha]
    rfl
  | cons x xs =>
    have hfront : (before ++ (x :: xs ++ after)).dropWhile p = x :: xs ++ after := by
      rw [List.dropWhile_append_of_pos (List.all_eq_true.1 hb)]
      exact dropWhile_of_head fun y hy => hx.1 y hy
    have hback : (after.reverse ++ (x :: xs).reverse).dropWhile p = (x :: xs).reverse := by
      rw [List.dropWhile_append_of_pos fun y hy => List.all_eq_true.1 ha y (List.mem_reverse.1 hy)]
      exact dropWhile_of_head fun y hy => hx.2 y (List.head?_reverse ▸ hy)
    rw [trim, List.append_assoc, hfront, List.reverse_append, hback, List.reverse_reverse]

end Trim

variable {s : String}

theorem isTrimmed_of_strip (h : strip s = s) : IsTrimmed isBlank s.toList := by
  obtain ⟨_, _, _, _, _, htrimmed⟩ := exists_trim_eq isBlank s.toList
  have htrim : trim isBlank s.toList = s.toList := by
    have hs := congrArg String.toList h
    rwa [strip, String.toList_ofList] at hs
  rwa [htrim] at htrimmed

def AllBlank (s : String) : Prop := s.toList.all isBlank = true

instance (s : String) : Decidable (AllBlank s) :=
  inferInstanceAs (Decidable (s.toList.all isBlank = true))

/-- Blanks on both sides of a trimmed text are dropped, and nothing else. -/
theorem strip_append_append {before name after : String} (hb : AllBlank before)
    (hn : IsTrimmed isBlank name.toList) (ha : AllBlank after) :
    strip (before ++ name ++ after) = name := by
  rw [strip, String.toList_append, String.toList_append, trim_append_append hb hn ha,
    String.ofList_toList]

/-- A text is stripped to a trimmed one exactly if it is that one between blanks. -/
theorem strip_eq_iff {name : String} :
    strip s = name ↔ IsTrimmed isBlank name.toList ∧
      ∃ before after, AllBlank before ∧ AllBlank after ∧ s = before ++ name ++ after := by
  constructor
  · rintro rfl
    obtain ⟨before, after, hs, hb, ha, htrimmed⟩ := exists_trim_eq isBlank s.toList
    rw [strip, String.toList_ofList]
    refine ⟨htrimmed, String.ofList before, String.ofList after, ?_, ?_, ?_⟩
    · rwa [AllBlank, String.toList_ofList]
    · rwa [AllBlank, String.toList_ofList]
    · rw [← String.ofList_append, ← String.ofList_append, ← hs, String.ofList_toList]
  · rintro ⟨htrimmed, before, after, hb, ha, rfl⟩
    exact strip_append_append hb htrimmed ha

end RequestChain.Text
