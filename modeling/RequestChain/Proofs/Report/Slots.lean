import Mathlib
import RequestChain.Proofs.Json.Continued
import RequestChain.Proofs.Json.Replaced
import RequestChain.Proofs.Template.Pieces
import RequestChain.Report

namespace RequestChain

namespace Report

open Template Text

def IsName (s : String) : Prop := s ≠ "" ∧ ∀ c ∈ s.toList, c.isAlphanum = true ∨ c = '_'

/-- Variables that are JSON texts without tokens of variables. -/
structure IsJsonScope (scope : Scope) : Prop where
  nodup : (Entries.names scope).Nodup
  names : ∀ name ∈ Entries.names scope, IsName name
  texts : ∀ e ∈ scope, (Json.read? e.2).isSome = true
  apart : ∀ e ∈ scope, ∀ name ∈ Entries.names scope, ¬ Occurs (token name) e.2

/-- A string that opens a brace is the token of a variable, and no name of a member opens one. -/
def fits (scope : Scope) : Json → Bool
  | .str s => (Entries.names scope).any (token · == s) || !s.toList.contains '{'
  | .obj members => members.all fun m => !m.1.toList.contains '{'
  | _ => true

def slot? (scope : Scope) (s : String) : Option String :=
  Entries.get? s (scope.map fun e => (token e.1, e.2))

def slotText (scope : Scope) (s : String) : List Char :=
  ((slot? scope s).map String.toList).getD (Json.quote false s)

/-- What this is read as. -/
def slotValue (scope : Scope) (s : String) : Json :=
  ((slot? scope s).bind Json.read?).getD (.str s)

variable {name wire s : String} {scope done rest : Scope} {template : Json}

theorem isPrintable_of_isAlphanum {c : Char} (h : c.isAlphanum = true ∨ c = '_') :
    Json.IsPrintable c := by
  rcases h with h | rfl
  · have hne : ∀ d : Char, d.isAlphanum = false → c ≠ d := by
      rintro d hd rfl
      rw [hd] at h
      cases h
    have hcontrol : ∀ n < 0x20, (Char.ofNat n).isAlphanum = false := by decide
    refine ⟨hne _ (by decide), hne _ (by decide), Nat.le_of_not_lt fun hlt => ?_⟩
    exact hne _ (hcontrol c.toNat hlt) (Char.ofNat_toNat c).symm
  · decide

namespace IsName

theorem not_mem (h : IsName name) {c : Char} (hc : c.isAlphanum = false) (hu : c ≠ '_') :
    c ∉ name.toList := by
  intro hm
  rcases h.2 c hm with ha | he
  · rw [hc] at ha
    cases ha
  · exact hu he

theorem isPlain (h : IsName name) : IsPlain name :=
  ⟨h.not_mem (by decide) (by decide), h.not_mem (by decide) (by decide)⟩

theorem quote_token (h : IsName name) :
    Json.quote false (token name) = '"' :: ((token name).toList ++ ['"']) := by
  refine Json.quote_of_isPrintable fun c hc => ?_
  rw [toList_token] at hc
  simp only [List.mem_cons, List.mem_append, List.not_mem_nil, or_false] at hc
  rcases hc with rfl | hc | rfl
  · decide
  · exact isPrintable_of_isAlphanum (h.2 c hc)
  · decide

theorem outside (h : IsName name) : ∀ c ∈ [' ', '\n', ',', ':', '"'], c ∉ (token name).toList := by
  intro c hc hm
  rw [toList_token] at hm
  simp only [List.mem_cons, List.mem_append, List.not_mem_nil, or_false] at hc hm
  rcases hc with rfl | rfl | rfl | rfl | rfl <;> simp [h.not_mem] at hm

theorem isSought_token (h : IsName name) : Json.IsSought (token name).toList where
  brace := by simp [toList_token]
  long := by
    have hne : name.toList ≠ [] := by simpa using h.1
    have := List.length_pos_iff.2 hne
    simp only [toList_token, List.length_cons, List.length_append, List.length_nil]
    omega
  outside := fun c hc => h.outside c (by simp at hc ⊢; tauto)

/-- A token together with its quotes holds nothing of the layout of a JSON text. -/
theorem isSought_quote_token (h : IsName name) :
    Json.IsSought (Json.quote false (token name)) where
  brace := by simp [h.quote_token, h.isSought_token.brace]
  long := by
    have := h.isSought_token.long
    simp only [h.quote_token, List.length_cons, List.length_append, List.length_nil]
    omega
  outside := by
    have hmark : ∀ c ∈ [' ', '\n', ',', ':'], c ≠ '"' := by simp
    intro c hc
    have hin := h.isSought_token.outside c hc
    simp [h.quote_token, hin, hmark c hc]

end IsName

/-- Different names have different tokens. -/
theorem token_injective {other : String} (h : token name = token other) : name = other := by
  have h := congrArg String.toList h
  rw [toList_token, toList_token] at h
  exact String.toList_inj.1 (List.append_cancel_right (List.cons.inj h).2)

theorem fits_str_iff : fits scope (.str s) = true ↔
    (∃ name ∈ Entries.names scope, token name = s) ∨ '{' ∉ s.toList := by
  simp [fits]

/-- A string that fits holds no token, but one of which it consists. -/
theorem not_infix_quote (hn : ∀ name ∈ Entries.names scope, IsName name) (hname : IsName name)
    (hfits : fits scope (.str s) = true) (hne : s ≠ token name) :
    ¬ (token name).toList <:+: Json.quote false s := by
  intro h
  rcases fits_str_iff.1 hfits with ⟨other, ho, rfl⟩ | hs
  · rw [(hn other ho).quote_token] at h
    have hin := infix_of_infix_marked hname.isSought_token.ne_nil (hname.outside _ (by decide)) h
    exact not_occurs_token (hn other ho).isPlain (fun he => hne (by rw [he])) hin
  · exact Json.not_mem_quote hs (h.subset hname.isSought_token.brace)

theorem slot?_append (done rest : Scope) (s : String) :
    slot? (done ++ rest) s = (slot? done s).or (slot? rest s) := by
  rw [slot?, List.map_append, Entries.get?_append]
  rfl

theorem slot?_single (name wire s : String) :
    slot? [(name, wire)] s = if token name = s then some wire else none := rfl

theorem mem_of_slot? (h : slot? scope s = some wire) :
    ∃ name, (name, wire) ∈ scope ∧ token name = s := by
  obtain ⟨e, he, heq⟩ := List.mem_map.1 (Entries.mem_of_get? h)
  obtain ⟨rfl, rfl⟩ := Prod.mk.inj heq
  exact ⟨e.1, he, rfl⟩

theorem nodup_names_tokens (hd : (Entries.names scope).Nodup) :
    (Entries.names (scope.map fun e => (token e.1, e.2))).Nodup := by
  have hnames : Entries.names (scope.map fun e => (token e.1, e.2)) =
      (Entries.names scope).map token := by
    simp [Entries.names]
  rw [hnames]
  exact hd.map fun _ _ => token_injective

theorem slot?_of_mem (hd : (Entries.names scope).Nodup) (h : (name, wire) ∈ scope) :
    slot? scope (token name) = some wire :=
  Entries.get?_of_mem (nodup_names_tokens hd) (List.mem_map_of_mem h)

/-- The order of the variables does not matter to the slots. -/
theorem slot?_perm {reordered : Scope} (hd : (Entries.names scope).Nodup)
    (hp : scope.Perm reordered) : slot? scope = slot? reordered :=
  funext fun s => Entries.get?_perm s (nodup_names_tokens hd) (hp.map _)

theorem slot?_of_not_mem (h : '{' ∉ s.toList) : slot? scope s = none := by
  cases hs : slot? scope s with
  | none => rfl
  | some wire =>
    obtain ⟨name, _, rfl⟩ := mem_of_slot? hs
    exact absurd (by simp [toList_token]) h

theorem slotText_of_slot? (h : slot? scope s = some wire) : slotText scope s = wire.toList := by
  simp [slotText, h]

theorem slotText_of_none (h : slot? scope s = none) : slotText scope s = Json.quote false s := by
  simp [slotText, h]

def fillOne (name wire : String) (cs : List Char) : List Char :=
  replaceFrom (token name).toList wire.toList 0
    (replaceFrom (Json.quote false (token name)) wire.toList 0 cs)

theorem fill_cons (hname : IsName name) (cs : List Char) (scope : Scope) :
    fill (String.ofList cs) ((name, wire) :: scope) =
      fill (String.ofList (fillOne name wire cs)) scope := by
  have hquoted : ("\"" ++ token name ++ "\"").toList = Json.quote false (token name) := by
    simp [hname.quote_token]
  rw [fill, List.foldl_cons, ← fill, replaceAll, replaceAll, String.toList_ofList,
    String.toList_ofList, hquoted, fillOne]

/-- Without the token there is nothing to replace, with quotes around it or without. -/
theorem fillOne_of_no_token (hname : IsName name) {cs : List Char}
    (h : ¬ (token name).toList <:+: cs) : fillOne name wire cs = cs := by
  have hquoted : ¬ Json.quote false (token name) <:+: cs := by
    intro hi
    rw [hname.quote_token] at hi
    exact h ((List.infix_cons (List.prefix_append _ _).isInfix).trans hi)
  rw [fillOne, replaceFrom_of_absent hquoted, replaceFrom_of_absent h]

/-- When its turn comes, a variable is put into the strings that are its token, and into no
other. -/
theorem fillOne_slotText (hscope : IsJsonScope scope)
    (heq : scope = done ++ (name, wire) :: rest) (hfits : fits scope (.str s) = true) :
    fillOne name wire (slotText done s) = slotText (done ++ [(name, wire)]) s := by
  have hmem : (name, wire) ∈ scope := by simp [heq]
  have hnames : name ∈ Entries.names scope := List.mem_map_of_mem hmem
  have hname := hscope.names name hnames
  cases hs : slot? done s with
  | some w =>
    have hsome : slot? (done ++ [(name, wire)]) s = some w := by
      rw [slot?_append, hs, Option.some_or]
    obtain ⟨other, ho, _⟩ := mem_of_slot? hs
    have hw : (other, w) ∈ scope := heq ▸ List.mem_append_left _ ho
    rw [slotText_of_slot? hs, slotText_of_slot? hsome]
    exact fillOne_of_no_token hname (hscope.apart _ hw name hnames)
  | none =>
    rw [slotText_of_none hs]
    by_cases he : token name = s
    · have hsome : slot? (done ++ [(name, wire)]) s = some wire := by
        rw [slot?_append, hs, Option.none_or, slot?_single, if_pos he]
      rw [slotText_of_slot? hsome, ← he, fillOne,
        replaceFrom_self hname.isSought_quote_token.ne_nil]
      exact replaceFrom_of_absent (hscope.apart _ hmem name hnames)
    · have hnone : slot? (done ++ [(name, wire)]) s = none := by
        rw [slot?_append, hs, Option.none_or, slot?_single, if_neg he]
      rw [slotText_of_none hnone]
      exact fillOne_of_no_token hname
        (not_infix_quote hscope.names hname hfits fun h => he h.symm)

/-- In a template that fits, no name of a member opens a brace. -/
theorem not_mem_of_fits (members : List (String × Json)) (h : fits scope (.obj members) = true) :
    ∀ m ∈ members, '{' ∉ m.1.toList := by
  simpa [fits] using h

/-- Putting one variable into the text of a template changes the text of each string and nothing
between the strings. -/
theorem fillOne_charsWith {text text' : String → List Char} (hname : IsName name)
    (hstr : ∀ s, fits scope (.str s) = true → fillOne name wire (text s) = text' s)
    (hfloat : template.isFloatFree = true) (hfits : template.everywhere (fits scope) = true) :
    fillOne name wire (template.charsWith text .pretty 0) =
      template.charsWith text' .pretty 0 := by
  rw [fillOne, Json.replaceFrom_charsWith hname.isSought_quote_token (fun _ _ => rfl)
    not_mem_of_fits template 0 hfloat hfits]
  exact Json.replaceFrom_charsWith hname.isSought_token hstr not_mem_of_fits template 0 hfloat hfits

/-- Putting the variables into the text of a template is putting them into its strings. -/
theorem fill_charsWith (hscope : IsJsonScope scope) (hfloat : template.isFloatFree = true)
    (hfits : template.everywhere (fits scope) = true) (heq : scope = done ++ rest) :
    fill (String.ofList (template.charsWith (slotText done) .pretty 0)) rest =
      String.ofList (template.charsWith (slotText scope) .pretty 0) := by
  induction rest generalizing done with
  | nil =>
    rw [heq, List.append_nil]
    rfl
  | cons entry rest ih =>
    obtain ⟨name, wire⟩ := entry
    have hname := hscope.names name (List.mem_map_of_mem (a := (name, wire)) (by simp [heq]))
    rw [fill_cons hname, fillOne_charsWith hname
      (fun s hs => fillOne_slotText hscope heq hs) hfloat hfits]
    exact ih (by rw [List.append_assoc]; exact heq)

theorem body_eq_fill (hstr : ∀ s, template ≠ .str s) (hnull : template ≠ .null) (scope : Scope) :
    body template scope = fill template.pretty scope := by
  cases template with
  | null => exact absurd rfl hnull
  | str s => exact absurd rfl (hstr s)
  | _ => rfl

/-- The body is the text of the template with the slot of each string filled. -/
theorem body_eq_charsWith (hscope : IsJsonScope scope) (hfloat : template.isFloatFree = true)
    (hfits : template.everywhere (fits scope) = true) (hstr : ∀ s, template ≠ .str s)
    (hnull : template ≠ .null) :
    body template scope = String.ofList (template.charsWith (slotText scope) .pretty 0) := by
  have hnone : slotText [] = Json.quote Json.Style.pretty.ascii := rfl
  rw [body_eq_fill hstr hnull, Json.pretty, Json.write, Json.chars_eq_charsWith, ← hnone]
  exact fill_charsWith hscope hfloat hfits (List.nil_append scope).symm

/-- Whatever the string is, the text that stands for it is read as the value that stands for it. -/
theorem reads_slotText (hscope : IsJsonScope scope) (s : String) :
    Json.Reads (slotText scope s) (slotValue scope s) := by
  cases hs : slot? scope s with
  | none =>
    have hvalue : slotValue scope s = .str s := by simp [slotValue, hs]
    rw [slotText_of_none hs, hvalue]
    exact Json.reads_quote s
  | some wire =>
    obtain ⟨name, hm, _⟩ := mem_of_slot? hs
    obtain ⟨v, hv⟩ := Option.isSome_iff_exists.1 (hscope.texts _ hm)
    have hvalue : slotValue scope s = v := by simp [slotValue, hs, hv]
    rw [slotText_of_slot? hs, hvalue]
    exact Json.reads_of_read? hv

theorem IsJsonScope.perm {reordered : Scope} (h : IsJsonScope scope) (hp : scope.Perm reordered) :
    IsJsonScope reordered := by
  have hnames : ∀ name, name ∈ Entries.names reordered ↔ name ∈ Entries.names scope :=
    fun name => ((hp.map Prod.fst).mem_iff).symm
  exact ⟨(hp.map Prod.fst).nodup_iff.1 h.nodup, fun name hm => h.names name ((hnames name).1 hm),
    fun e he => h.texts e (hp.mem_iff.2 he),
    fun e he name hm => h.apart e (hp.mem_iff.2 he) name ((hnames name).1 hm)⟩

theorem fits_perm {reordered : Scope} (hp : scope.Perm reordered) :
    fits reordered = fits scope := by
  funext v
  cases v with
  | str s =>
    have hany : (Entries.names scope).any (token · == s) =
        (Entries.names reordered).any (token · == s) := (hp.map Prod.fst).any_eq
    rw [fits, fits, hany]
  | _ => rfl

/-- A template that was read and holds no double; it is neither a string nor null, and null is no
template. Each string in it opens no brace or is the token of a variable; no name of a member opens
a brace. Each variable has a name of ASCII letters, digits and underscores, and is a JSON text
without tokens of variables. Then the body is read as the template with values in the places of
its strings: that of the variable for a token, and the string itself for any other. It is the same
in whichever order the variables stand. -/
theorem template_is_read_with_values_in_its_slots (text : String) (template : Json) (scope : Scope)
    (hread : Json.read? text = some template) (hfloat : template.isFloatFree = true)
    (hstr : ∀ s, template ≠ .str s) (hnull : template ≠ .null)
    (hfits : template.everywhere (fits scope) = true) (hscope : IsJsonScope scope) :
    (∃ body, (∀ r : Report, (r.respond template scope).lines =
        (r.trace "[RESPONSE]").lines ++ [body]) ∧
      Json.read? body = some (template.mapStrings (slotValue scope))) ∧
    (∀ e ∈ scope, Json.read? e.2 = some (slotValue scope (token e.1))) ∧
    (∀ s, '{' ∉ s.toList → slotValue scope s = .str s) ∧
    ∀ reordered, scope.Perm reordered →
      ∀ r : Report, r.respond template reordered = r.respond template scope := by
  have hbody := body_eq_charsWith hscope hfloat hfits hstr hnull
  have hexact := Json.isExact_of_isProper template (Json.isProper_of_read? hread) hfloat
  refine ⟨⟨body template scope, fun _ => rfl, ?_⟩, ?_, ?_, ?_⟩
  · rw [hbody]
    exact Json.read?_ofList_of_reads
      (Json.reads_charsWith Json.pretty_isReadable (reads_slotText hscope) template 0 hexact)
  · intro e he
    obtain ⟨v, hv⟩ := Option.isSome_iff_exists.1 (hscope.texts e he)
    simp [slotValue, slot?_of_mem hscope.nodup he, hv]
  · intro s hs
    simp [slotValue, slot?_of_not_mem hs]
  · intro reordered hp r
    have hslot : slotText reordered = slotText scope := by
      funext s
      rw [slotText, slotText, slot?_perm hscope.nodup hp]
    have hfits' : template.everywhere (fits reordered) = true := by
      rw [fits_perm hp]
      exact hfits
    have hsame : body template reordered = body template scope := by
      rw [hbody, body_eq_charsWith (hscope.perm hp) hfloat hfits' hstr hnull, hslot]
    simp only [respond, hsame]

/-- An object with quotes and braces in it and a list between blanks are put in; a string that only
closes a brace stays, and so does an empty object. -/
theorem object_and_list_are_put_into_their_slots :
    let text := "\x7b\"x\": [\"\x7ba\x7d\", \"a\x7d\", \x7b\x7d, null], \"y\": \"\x7bb_2\x7d\"\x7d"
    let template := Json.obj
      [("x", .arr [.str "\x7ba\x7d", .str "a\x7d", .obj [], .null]), ("y", .str "\x7bb_2\x7d")]
    let scope : Scope := [("a", "\x7b\"k\": \"\\\"\x7bc\x7d\\\"\"\x7d"), ("b_2", " [1, 2] ")]
    let filled := Json.obj [("x", .arr [.obj [("k", .str "\"\x7bc\x7d\"")], .str "a\x7d", .obj [],
      .null]), ("y", .arr [.int 1, .int 2])]
    Json.read? text = some template ∧ template.isFloatFree = true ∧
    (∀ s, template ≠ .str s) ∧ template ≠ .null ∧
    template.everywhere (fits scope) = true ∧ IsJsonScope scope ∧
    ∃ body, (∀ r : Report, (r.respond template scope).lines =
        (r.trace "[RESPONSE]").lines ++ [body]) ∧
      (∀ r : Report, r.respond template scope.reverse = r.respond template scope) ∧
      Json.read? body = some filled := by
  intro text template scope filled
  have hread : Json.read? text = some template := by cbv
  have hfloat : template.isFloatFree = true := by decide
  have hfits : template.everywhere (fits scope) = true := by decide +kernel
  have hscope : IsJsonScope scope :=
    ⟨by decide +kernel, by simp [scope, Entries.names, IsName], by decide +kernel,
      by decide +kernel⟩
  have hfilled : template.mapStrings (slotValue scope) = filled := by decide +kernel
  obtain ⟨⟨body, hlines, hbody⟩, _, _, hsame⟩ := template_is_read_with_values_in_its_slots text
    template scope hread hfloat (by simp [template]) (by simp [template]) hfits hscope
  exact ⟨hread, hfloat, by simp [template], by simp [template], hfits, hscope, body, hlines,
    hsame _ scope.reverse_perm.symm, hfilled ▸ hbody⟩

/-- Null as a template: it is none, and the body is the object of all variables. -/
theorem null_is_read_as_the_object_of_variables :
    let scope : Scope := [("n", "1")]
    Json.read? "null" = some .null ∧ Json.null.isFloatFree = true ∧ (∀ s, Json.null ≠ .str s) ∧
    Json.null.everywhere (fits scope) = true ∧ IsJsonScope scope ∧
    (∀ r : Report, (r.respond .null scope).lines =
      (r.trace "[RESPONSE]").lines ++ [body .null scope]) ∧
    Json.read? (body .null scope) = some (.obj [("n", .int 1)]) ∧
    Json.read? (body .null scope) ≠ some (Json.null.mapStrings (slotValue scope)) := by
  intro scope
  have hbody : Json.read? (body .null scope) = some (.obj [("n", .int 1)]) := by cbv
  have hscope : IsJsonScope scope :=
    ⟨by decide +kernel, by simp [scope, Entries.names, IsName], by decide +kernel,
      by decide +kernel⟩
  refine ⟨by cbv, rfl, by simp, rfl, hscope, fun _ => rfl, hbody, ?_⟩
  rw [hbody]
  simp [Json.mapStrings]

end Report
end RequestChain
