import RequestChain.Authorization
import RequestChain.Proofs.Text.Blank

namespace RequestChain

namespace Authorization

/-- A header that is all blank has no scheme. -/
theorem split_of_blank {h : String} (hb : h.toList.all Text.isBlank = true) :
    split (some h) = none := by
  have htrim := Text.trim_eq_nil_iff.2 hb
  simp [split, Text.strip, htrim]

/-- The scheme ends before the first space of the stripped header, and the credential is all that
comes after that space. -/
theorem split_of_not_blank {h : String} (hb : h.toList.all Text.isBlank = false) :
    split (some h) =
      some (String.ofList ((Text.strip h).toList.takeWhile (· ≠ ' ')),
        String.ofList (((Text.strip h).toList.dropWhile (· ≠ ' ')).drop 1)) := by
  unfold split
  rw [Option.map_some]
  split
  · rename_i he
    cases he
  · -- the text is empty only if all of the header is blank
    rename_i he
    have hnil := Option.some.inj he
    rw [Text.strip, String.toList_ofList, Text.trim_eq_nil_iff, hb] at hnil
    cases hnil
  · rename_i cs _ he
    rw [← Option.some.inj he]

/-- The first blank is put back where it was taken out: a text without blanks at its end has
something after each blank in it. -/
theorem join_parts {cs : List Char} (h : ∀ c ∈ cs.getLast?, Text.isBlank c = false) :
    join (String.ofList (cs.takeWhile (· ≠ ' ')), String.ofList ((cs.dropWhile (· ≠ ' ')).drop 1)) =
      String.ofList cs := by
  have hcs := List.takeWhile_append_dropWhile (p := fun c => decide (c ≠ ' ')) (l := cs)
  cases hd : cs.dropWhile (· ≠ ' ') with
  | nil =>
    rw [hd, List.append_nil] at hcs
    simp only [join, List.drop_nil, hcs]
    rfl
  | cons c rest =>
    have hc : c = ' ' := by
      have hhead : c ∈ (cs.dropWhile (· ≠ ' ')).head? := by
        rw [hd]
        rfl
      simpa using Text.head_dropWhile c hhead
    rw [hd, hc] at hcs
    have hrest : rest ≠ [] := by
      rintro rfl
      have hlast := h ' ' (by rw [← hcs]; simp)
      exact absurd hlast (by decide)
    have hne : String.ofList rest ≠ "" := by
      simpa [String.ext_iff] using hrest
    have happend : String.ofList (cs.takeWhile (· ≠ ' ')) ++ " " ++ String.ofList rest =
        String.ofList (cs.takeWhile (· ≠ ' ') ++ ' ' :: rest) := by
      simp [String.ext_iff]
    simp only [join, List.drop_succ_cons, List.drop_zero, if_neg hne]
    rw [happend, hcs]

/-- Splitting at the first space loses nothing: the parts are put together again to the stripped
header. -/
theorem join_split {h : String} (hb : h.toList.all Text.isBlank = false) :
    ∃ scheme credential, split (some h) = some (scheme, credential) ∧ ' ' ∉ scheme.toList ∧
      join (scheme, credential) = Text.strip h := by
  refine ⟨_, _, split_of_not_blank hb, ?_, ?_⟩
  · intro hm
    rw [String.toList_ofList] at hm
    have hall := List.all_eq_true.1 List.all_takeWhile ' ' hm
    exact absurd hall (by decide)
  · have hlast : ∀ c ∈ (Text.strip h).toList.getLast?, Text.isBlank c = false := by
      obtain ⟨_, _, _, _, _, ht⟩ := Text.exists_trim_eq Text.isBlank h.toList
      rw [Text.strip, String.toList_ofList]
      exact ht.2
    rw [join_parts hlast, String.ofList_toList]

theorem forwarded_of_blank {h : String} (hb : h.toList.all Text.isBlank = true) :
    forwarded (some h) = none := by
  rw [forwarded, split_of_blank hb]
  rfl

theorem forwarded_of_not_blank {h : String} (hb : h.toList.all Text.isBlank = false) :
    forwarded (some h) = some (Text.strip h) := by
  obtain ⟨scheme, credential, hs, _, hj⟩ := join_split hb
  rw [forwarded, hs, Option.map_some, hj]

/-- A header that was carried on is carried on as it is. -/
theorem forwarded_forwarded (header : Option String) :
    forwarded (forwarded header) = forwarded header := by
  cases header with
  | none => rfl
  | some h =>
    cases hb : h.toList.all Text.isBlank with
    | true =>
      rw [forwarded_of_blank hb]
      rfl
    | false =>
      have hstrip : Text.strip (Text.strip h) = Text.strip h := by
        rw [Text.strip, Text.strip, String.toList_ofList, Text.trim_trim]
      have hb' : (Text.strip h).toList.all Text.isBlank = false := by
        rw [Bool.eq_false_iff]
        intro hall
        -- a trimmed text that is all blank is empty, so all of the header is
        rw [← Text.trim_eq_nil_iff, Text.strip, String.toList_ofList, Text.trim_trim,
          Text.trim_eq_nil_iff, hb] at hall
        cases hall
      rw [forwarded_of_not_blank hb, forwarded_of_not_blank hb', hstrip]

end Authorization
end RequestChain
