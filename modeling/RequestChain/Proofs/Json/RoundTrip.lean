import RequestChain.Proofs.Entries
import RequestChain.Proofs.Json.Scalars

namespace RequestChain

namespace Json

mutual

/-- The value comes back from its text: it holds no double, no whole number with more digits than
are read, and no object that repeats a name. -/
def isExact : Json → Bool
  | .float _ => false
  | .int n => (Nat.toDigits 10 n.natAbs).length ≤ digitLimit
  | .arr items => areExact items
  | .obj members => decide (Entries.names members).Nodup && membersAreExact members
  | .null | .bool _ | .str _ => true

def areExact : List Json → Bool
  | [] => true
  | v :: vs => isExact v && areExact vs

def membersAreExact : List (String × Json) → Bool
  | [] => true
  | (_, v) :: ms => isExact v && membersAreExact ms

end

mutual

/-- The characters of a value that stands at a depth, with `text` for its strings. -/
def charsWith (text : String → List Char) (style : Style) (depth : Nat) : Json → List Char
  | .str s => text s
  | .arr [] => ['[', ']']
  | .arr (v :: vs) =>
    '[' :: style.lead (depth + 1) ++ charsWith text style (depth + 1) v ++
      itemsWith text style (depth + 1) vs ++ style.lead depth ++ [']']
  | .obj [] => ['\x7b', '\x7d']
  | .obj ((name, v) :: ms) =>
    '\x7b' :: style.lead (depth + 1) ++ quote style.ascii name ++ style.colon.toList ++
      charsWith text style (depth + 1) v ++ membersWith text style (depth + 1) ms ++
      style.lead depth ++ ['\x7d']
  | .null => chars style depth .null
  | .bool b => chars style depth (.bool b)
  | .int n => chars style depth (.int n)
  | .float x => chars style depth (.float x)

def itemsWith (text : String → List Char) (style : Style) (depth : Nat) : List Json → List Char
  | [] => []
  | v :: vs =>
    style.between depth ++ charsWith text style depth v ++ itemsWith text style depth vs

def membersWith (text : String → List Char) (style : Style) (depth : Nat) :
    List (String × Json) → List Char
  | [] => []
  | (name, v) :: ms =>
    style.between depth ++ quote style.ascii name ++ style.colon.toList ++
      charsWith text style depth v ++ membersWith text style depth ms

end

mutual

def mapStrings (f : String → Json) : Json → Json
  | .str s => f s
  | .arr items => .arr (mapItems f items)
  | .obj members => .obj (mapMembers f members)
  | .null => .null
  | .bool b => .bool b
  | .int n => .int n
  | .float x => .float x

def mapItems (f : String → Json) : List Json → List Json
  | [] => []
  | v :: vs => mapStrings f v :: mapItems f vs

def mapMembers (f : String → Json) : List (String × Json) → List (String × Json)
  | [] => []
  | (name, v) :: ms => (name, mapStrings f v) :: mapMembers f ms

end

def Follows (rest : List Char) : Prop := ∀ c ∈ rest.head?, c ∈ [',', ']', '\x7d', '\n']

def Reads (cs : List Char) (v : Json) : Prop :=
  ∀ fuel rest, Follows rest → 2 * cs.length + 2 ≤ fuel →
    ∃ after, valueAt fuel (skipSpace (cs ++ rest)) = .ok (v, after) ∧
      skipSpace after = skipSpace rest

/-- The reader passes over all that the style adds. -/
structure Style.IsReadable (style : Style) : Prop where
  gap : style.gap.toList.all isSpace = true
  colon : ∃ blanks, style.colon.toList = ':' :: blanks ∧ blanks.all isSpace = true
  ascii : style.ascii = false

theorem spaced_isReadable : Style.spaced.IsReadable :=
  ⟨by decide, ⟨[' '], rfl, by decide⟩, rfl⟩

theorem pretty_isReadable : Style.pretty.IsReadable :=
  ⟨by decide, ⟨[' '], rfl, by decide⟩, rfl⟩

theorem skipSpace_append {blanks : List Char} (h : blanks.all isSpace = true)
    (cs : List Char) : skipSpace (blanks ++ cs) = skipSpace cs :=
  List.dropWhile_append_of_pos (List.all_eq_true.1 h)

theorem skipSpace_cons {c : Char} (h : isSpace c = false) (cs : List Char) :
    skipSpace (c :: cs) = c :: cs := by
  simp [skipSpace, h]

/-- What starts a line is blanks only. -/
theorem all_isSpace_lead (style : Style) (depth : Nat) :
    (style.lead depth).all isSpace = true := by
  unfold Style.lead
  split
  · rfl
  · rw [List.all_cons, List.all_replicate]
    split <;> decide

theorem skipSpace_lead {style : Style} {depth : Nat} {c : Char} (h : isSpace c = false)
    (cs : List Char) : skipSpace (style.lead depth ++ c :: cs) = c :: cs := by
  rw [skipSpace_append (all_isSpace_lead _ _), skipSpace_cons h]

theorem Follows.endsNumber {rest : List Char} (h : Follows rest) : EndsNumber rest := by
  intro c hc
  have hmem := h c hc
  simp only [List.mem_cons, List.not_mem_nil, or_false] at hmem
  rcases hmem with rfl | rfl | rfl | rfl <;> decide

theorem follows_nil : Follows [] := by
  intro c hc
  cases hc

theorem follows_cons {c : Char} (h : c ∈ [',', ']', '\x7d', '\n']) (cs : List Char) :
    Follows (c :: cs) := by
  intro d hd
  obtain rfl : c = d := Option.some.inj hd
  exact h

/-- A closing bracket may follow a value, also on a line of its own. -/
theorem follows_lead {style : Style} {depth : Nat} {c : Char} (h : c ∈ [']', '\x7d'])
    (cs : List Char) : Follows (style.lead depth ++ c :: cs) := by
  unfold Style.lead
  split
  · exact follows_cons (by simp at h ⊢; rcases h with rfl | rfl <;> simp) cs
  · exact follows_cons (by simp) _

theorem follows_itemsWith {text : String → List Char} {style : Style} {depth : Nat}
    {rest : List Char} (h : Follows rest) (vs : List Json) :
    Follows (itemsWith text style depth vs ++ rest) := by
  cases vs with
  | nil => exact h
  | cons v vs => exact follows_cons (by simp) _

theorem follows_membersWith {text : String → List Char} {style : Style} {depth : Nat}
    {rest : List Char} (h : Follows rest) (ms : List (String × Json)) :
    Follows (membersWith text style depth ms ++ rest) := by
  cases ms with
  | nil => exact h
  | cons m ms => exact follows_cons (by simp) _

theorem intChars_eq_cons (n : Int) :
    ∃ c cs, intChars n = c :: cs ∧ (c = '-' ∨ c.isDigit = true) := by
  by_cases hn : n < 0
  · exact ⟨'-', Nat.toDigits 10 n.natAbs, by simp [intChars, hn], .inl rfl⟩
  · obtain ⟨c, cs, he, hc⟩ := toDigits_head_isDigit n.natAbs
    exact ⟨c, cs, by simp [intChars, hn, he], .inr hc⟩

/-- No sign and no digit is one of these characters. -/
theorem ne_of_number_start {c d : Char} (h : c = '-' ∨ c.isDigit = true)
    (hd : d ∈ [' ', '\t', '\n', '\r', '"', '[', ']', '\x7b', '\ufeff', 'n', 't', 'f', 'N', 'I']) :
    c ≠ d := by
  have hall : [' ', '\t', '\n', '\r', '"', '[', ']', '\x7b', '\ufeff', 'n', 't', 'f', 'N', 'I'].all
      (fun d => '-' ≠ d && !d.isDigit) = true := by decide
  have hne := List.all_eq_true.1 hall d hd
  simp only [ne_eq, decide_not, Bool.and_eq_true, Bool.not_eq_true', decide_eq_false_iff_not] at hne
  rcases h with rfl | h
  · exact hne.1
  · rintro rfl
    rw [hne.2] at h
    cases h

/-- A whole number is read back if it has no more digits than are read and what follows does not go
on with it. -/
theorem plainValue_intChars {n : Int} {rest : List Char} (hr : EndsNumber rest)
    (h : (Nat.toDigits 10 n.natAbs).length ≤ digitLimit) :
    plainValue (intChars n ++ rest) = .ok (.int n, rest) := by
  have hw : words.find? (fun w => w.1.isPrefixOf (intChars n ++ rest)) = none := by
    obtain ⟨c, cs, he, hc⟩ := toDigits_head_isDigit n.natAbs
    have hne : ∀ d ∈ ['n', 't', 'f', 'N', 'I'], d ≠ c := fun d hd =>
      (ne_of_number_start (.inr hc) (List.mem_append_right
        [' ', '\t', '\n', '\r', '"', '[', ']', '\x7b', '\ufeff'] hd)).symm
    have hm : '-' ≠ c := by
      rintro rfl
      exact absurd hc (by decide)
    simp only [List.mem_cons, List.not_mem_nil, or_false, forall_eq_or_imp, forall_eq] at hne
    by_cases hn : n < 0 <;> simp [words, intChars, hn, he, hne, hm]
  rw [plainValue, hw]
  dsimp only
  rw [numberText?_intChars hr]
  dsimp only
  rw [NumberText.value, if_pos (by simp), if_neg (by simpa using h)]
  simp [digitsValue, signed_natAbs]

theorem memberName_quote {style : Style} (hst : style.IsReadable) (name : String)
    (cs : List Char) :
    memberName (quote style.ascii name ++ style.colon.toList ++ cs) = .ok (name, skipSpace cs) := by
  obtain ⟨blanks, hcolon, hblanks⟩ := hst.colon
  have hq := stringValue_quote name (':' :: (blanks ++ cs))
  have he : quote false name ++ ':' :: (blanks ++ cs) =
      '"' :: (name.toList.flatMap (charText false) ++ '"' :: ':' :: (blanks ++ cs)) := by
    simp [quote]
  rw [hst.ascii, hcolon, List.append_assoc, List.cons_append]
  rw [he] at hq ⊢
  simp only [memberName, hq, Bind.bind, Except.bind,
    skipSpace_cons (by decide : isSpace ':' = false), skipSpace_append hblanks, Pure.pure,
    Except.pure]

theorem valueAt_plainValue {fuel : Nat} {c : Char} {cs : List Char}
    (h : c ∉ ['"', '[', '\x7b']) : valueAt (fuel + 1) (c :: cs) = plainValue (c :: cs) := by
  unfold valueAt
  split <;> simp_all

theorem valueAt_quote {fuel : Nat} (s : String) (rest : List Char) :
    valueAt (fuel + 1) (quote false s ++ rest) = .ok (.str s, rest) := by
  have hq := stringValue_quote s rest
  have he : quote false s ++ rest = '"' :: (s.toList.flatMap (charText false) ++ '"' :: rest) := by
    simp [quote]
  rw [he] at hq ⊢
  simp only [valueAt, hq, Bind.bind, Except.bind, Pure.pure, Except.pure]

/-- An array is what its items are read as, if there is one. -/
theorem valueAt_items {fuel : Nat} {inner cs rest : List Char} {items : List Json}
    (hs : skipSpace inner = cs) (hc : ∀ tail, cs ≠ ']' :: tail)
    (h : itemsAt fuel cs = .ok (items, rest)) :
    valueAt (fuel + 1) ('[' :: inner) = .ok (.arr items, rest) := by
  rw [valueAt, hs]
  split
  · exact absurd rfl (hc _)
  · simp only [h, Bind.bind, Except.bind, Pure.pure, Except.pure]

theorem valueAt_members {fuel : Nat} {inner cs rest : List Char}
    {pairs : List (String × Json)} (hs : skipSpace inner = cs) (hc : ∀ tail, cs ≠ '\x7d' :: tail)
    (h : membersAt fuel cs = .ok (pairs, rest)) :
    valueAt (fuel + 1) ('\x7b' :: inner) = .ok (.obj (Entries.collect pairs), rest) := by
  rw [valueAt, hs]
  split
  · exact absurd rfl (hc _)
  · simp only [h, Bind.bind, Except.bind, Pure.pure, Except.pure]

theorem itemsAt_last {fuel : Nat} {cs rest after : List Char} {v : Json}
    (hv : valueAt fuel cs = .ok (v, rest)) (hs : skipSpace rest = ']' :: after) :
    itemsAt (fuel + 1) cs = .ok ([v], after) := by
  simp only [itemsAt, hv, hs, Bind.bind, Except.bind, Pure.pure, Except.pure]

theorem itemsAt_more {fuel : Nat} {cs rest after last : List Char} {v : Json} {vs : List Json}
    (hv : valueAt fuel cs = .ok (v, rest)) (hs : skipSpace rest = ',' :: after)
    (h : itemsAt fuel (skipSpace after) = .ok (vs, last)) :
    itemsAt (fuel + 1) cs = .ok (v :: vs, last) := by
  simp only [itemsAt, hv, hs, h, Bind.bind, Except.bind, Pure.pure, Except.pure]

theorem membersAt_last {fuel : Nat} {cs inner rest after : List Char} {name : String} {v : Json}
    (hn : memberName cs = .ok (name, inner)) (hv : valueAt fuel inner = .ok (v, rest))
    (hs : skipSpace rest = '\x7d' :: after) :
    membersAt (fuel + 1) cs = .ok ([(name, v)], after) := by
  simp only [membersAt, hn, hv, hs, Bind.bind, Except.bind, Pure.pure, Except.pure]

theorem membersAt_more {fuel : Nat} {cs inner rest after last : List Char} {name : String}
    {v : Json} {ms : List (String × Json)} (hn : memberName cs = .ok (name, inner))
    (hv : valueAt fuel inner = .ok (v, rest)) (hs : skipSpace rest = ',' :: after)
    (h : membersAt fuel (skipSpace after) = .ok (ms, last)) :
    membersAt (fuel + 1) cs = .ok ((name, v) :: ms, last) := by
  simp only [membersAt, hn, hv, hs, h, Bind.bind, Except.bind, Pure.pure, Except.pure]

theorem names_mapMembers (f : String → Json) (ms : List (String × Json)) :
    Entries.names (mapMembers f ms) = Entries.names ms := by
  induction ms with
  | nil => rfl
  | cons m ms ih => exact congrArg (m.1 :: ·) ih

/-- What separates two items is a comma and blanks. -/
theorem skipSpace_between {style : Style} (hst : style.IsReadable) (depth : Nat)
    (cs : List Char) :
    ∃ after, style.between depth ++ cs = ',' :: after ∧ skipSpace after = skipSpace cs := by
  refine ⟨style.gap.toList ++ (style.lead depth ++ cs), by simp [Style.between], ?_⟩
  rw [skipSpace_append hst.gap, skipSpace_append (all_isSpace_lead _ _)]

/-- No value starts with a closing bracket or a byte order mark. -/
theorem valueAt_ne_ok {fuel : Nat} {c : Char} {cs : List Char} {r : Json × List Char}
    (h : c ∈ [']', '\ufeff']) : valueAt fuel (c :: cs) ≠ .ok r := by
  cases fuel with
  | zero => simp [valueAt]
  | succ fuel =>
    simp only [List.mem_cons, List.not_mem_nil, or_false] at h
    rcases h with rfl | rfl <;>
      simp [valueAt, plainValue, words, numberText?, wholeDigits]

/-- Characters that start with no blank need none passed over before them. -/
theorem Reads.of_valueAt {c : Char} {cs : List Char} {v : Json} (hc : isSpace c = false)
    (h : ∀ fuel rest, Follows rest → 2 * (c :: cs).length ≤ fuel →
      valueAt (fuel + 1) (c :: (cs ++ rest)) = .ok (v, rest)) : Reads (c :: cs) v := by
  intro fuel rest hrest hfuel
  obtain ⟨fuel, rfl⟩ : ∃ n, fuel = n + 1 := Nat.exists_eq_add_one.2 (by omega)
  refine ⟨rest, ?_, rfl⟩
  rw [List.cons_append, skipSpace_cons hc]
  exact h fuel rest hrest (by omega)

theorem reads_intChars {n : Int} (h : (Nat.toDigits 10 n.natAbs).length ≤ digitLimit) :
    Reads (intChars n) (.int n) := by
  obtain ⟨c, cs, he, hc⟩ := intChars_eq_cons n
  rw [he]
  refine .of_valueAt (by simp [isSpace, ne_of_number_start hc]) fun fuel rest hrest _ => ?_
  have hp := plainValue_intChars hrest.endsNumber h
  rw [he, List.cons_append] at hp
  rw [valueAt_plainValue (by simp [ne_of_number_start hc]), hp]

theorem reads_quote (s : String) : Reads (quote false s) (.str s) := by
  refine .of_valueAt (by decide) fun fuel rest _ _ => ?_
  exact valueAt_quote s rest

variable {text : String → List Char} {value : String → Json} {style : Style}

mutual

/-- If the strings are read from what is written for them, the whole value is. -/
theorem reads_charsWith (hst : style.IsReadable) (htext : ∀ s, Reads (text s) (value s))
    (v : Json) (depth : Nat) (hv : v.isExact = true) :
    Reads (charsWith text style depth v) (v.mapStrings value) := by
  match v with
  | .null => exact .of_valueAt (by decide) fun _ _ _ _ => rfl
  | .bool true => exact .of_valueAt (by decide) fun _ _ _ _ => rfl
  | .bool false => exact .of_valueAt (by decide) fun _ _ _ _ => rfl
  | .float x => simp [isExact] at hv
  | .str s => exact htext s
  | .int n => exact reads_intChars (by simpa [isExact] using hv)
  | .arr [] => exact .of_valueAt (by decide) fun _ _ _ _ => rfl
  | .arr (w :: ws) =>
    simp only [isExact, areExact, Bool.and_eq_true] at hv
    simp only [charsWith, List.cons_append, List.append_assoc]
    refine .of_valueAt (by decide) fun fuel rest _ hf => ?_
    simp only [List.append_assoc, List.cons_append, List.nil_append, List.length_cons,
      List.length_append, List.length_nil] at hf ⊢
    obtain ⟨fuel, rfl⟩ : ∃ n, fuel = n + 1 := Nat.exists_eq_add_one.2 (by omega)
    obtain ⟨after, hw, hafter⟩ := reads_charsWith hst htext w (depth + 1) hv.1 fuel
      (itemsWith text style (depth + 1) ws ++ (style.lead depth ++ ']' :: rest))
      (follows_itemsWith (follows_lead (by decide) rest) ws) (by omega)
    have hi := itemsAt_itemsWith hst htext ws (depth + 1) depth hv.2 (by omega) hw hafter
    refine valueAt_items (skipSpace_append (all_isSpace_lead _ _) _) ?_ hi
    intro tail ht
    rw [ht] at hw
    exact valueAt_ne_ok (by decide) hw
  | .obj [] => exact .of_valueAt (by decide) fun _ _ _ _ => rfl
  | .obj ((name, w) :: ms) =>
    simp only [isExact, membersAreExact, Bool.and_eq_true, decide_eq_true_eq] at hv
    simp only [charsWith, List.cons_append, List.append_assoc]
    refine .of_valueAt (by decide) fun fuel rest _ hf => ?_
    simp only [List.append_assoc, List.cons_append, List.nil_append, List.length_cons,
      List.length_append, List.length_nil] at hf ⊢
    obtain ⟨fuel, rfl⟩ : ∃ n, fuel = n + 1 := Nat.exists_eq_add_one.2 (by omega)
    obtain ⟨after, hw, hafter⟩ := reads_charsWith hst htext w (depth + 1) hv.2.1 fuel
      (membersWith text style (depth + 1) ms ++ (style.lead depth ++ '\x7d' :: rest))
      (follows_membersWith (follows_lead (by decide) rest) ms) (by omega)
    have hn := memberName_quote hst name (charsWith text style (depth + 1) w ++
      (membersWith text style (depth + 1) ms ++ (style.lead depth ++ '\x7d' :: rest)))
    rw [List.append_assoc] at hn
    have hm := membersAt_membersWith hst htext ms (depth + 1) depth hv.2.2 (by omega) hn hw hafter
    have hnames : (Entries.names (mapMembers value ((name, w) :: ms))).Nodup := by
      rw [names_mapMembers]
      exact hv.1
    rw [mapStrings, ← Entries.collect_of_nodup hnames]
    refine valueAt_members ?_ ?_ hm
    · rw [skipSpace_append (all_isSpace_lead _ _), quote, List.cons_append,
        List.cons_append, skipSpace_cons (by decide)]
    · intro tail ht
      exact absurd (List.cons.inj ht).1 (by decide)

/-- After an item its further items are read. -/
theorem itemsAt_itemsWith (hst : style.IsReadable) (htext : ∀ s, Reads (text s) (value s))
    (vs : List Json) (depth outer : Nat) {fuel : Nat} {v : Json} {cs after rest : List Char}
    (hvs : areExact vs = true) (hf : 2 * (itemsWith text style depth vs).length < fuel)
    (hv : valueAt fuel cs = .ok (v, after))
    (hafter : skipSpace after =
      skipSpace (itemsWith text style depth vs ++ (style.lead outer ++ ']' :: rest))) :
    itemsAt (fuel + 1) cs = .ok (v :: mapItems value vs, rest) := by
  match vs with
  | [] => exact itemsAt_last hv (hafter.trans (skipSpace_lead (by decide) rest))
  | w :: ws =>
    simp only [areExact, Bool.and_eq_true] at hvs
    obtain ⟨tail, ha, hs⟩ := skipSpace_between hst depth (charsWith text style depth w ++
      (itemsWith text style depth ws ++ (style.lead outer ++ ']' :: rest)))
    simp only [itemsWith, List.append_assoc, List.length_append] at hf hafter
    have hb : 0 < (style.between depth).length := by simp [Style.between]
    obtain ⟨fuel, rfl⟩ : ∃ n, fuel = n + 1 := Nat.exists_eq_add_one.2 (by omega)
    obtain ⟨last, hw, hlast⟩ := reads_charsWith hst htext w depth hvs.1 fuel
      (itemsWith text style depth ws ++ (style.lead outer ++ ']' :: rest))
      (follows_itemsWith (follows_lead (by decide) rest) ws) (by omega)
    have hi := itemsAt_itemsWith hst htext ws depth outer hvs.2 (by omega) hw hlast
    rw [ha, skipSpace_cons (by decide)] at hafter
    refine itemsAt_more hv hafter ?_
    rw [hs, hi]
    rfl

/-- After a member its further members are read. -/
theorem membersAt_membersWith (hst : style.IsReadable) (htext : ∀ s, Reads (text s) (value s))
    (ms : List (String × Json)) (depth outer : Nat) {fuel : Nat} {name : String} {v : Json}
    {cs inner after rest : List Char} (hms : membersAreExact ms = true)
    (hf : 2 * (membersWith text style depth ms).length < fuel)
    (hn : memberName cs = .ok (name, inner)) (hv : valueAt fuel inner = .ok (v, after))
    (hafter : skipSpace after =
      skipSpace (membersWith text style depth ms ++ (style.lead outer ++ '\x7d' :: rest))) :
    membersAt (fuel + 1) cs = .ok ((name, v) :: mapMembers value ms, rest) := by
  match ms with
  | [] => exact membersAt_last hn hv (hafter.trans (skipSpace_lead (by decide) rest))
  | (other, w) :: ms =>
    simp only [membersAreExact, Bool.and_eq_true] at hms
    have hn' := memberName_quote hst other (charsWith text style depth w ++
      (membersWith text style depth ms ++ (style.lead outer ++ '\x7d' :: rest)))
    rw [List.append_assoc] at hn'
    obtain ⟨tail, ha, hs⟩ := skipSpace_between hst depth (quote style.ascii other ++
      (style.colon.toList ++ (charsWith text style depth w ++
        (membersWith text style depth ms ++ (style.lead outer ++ '\x7d' :: rest)))))
    simp only [membersWith, List.append_assoc, List.length_append] at hf hafter
    have hb : 0 < (style.between depth).length := by simp [Style.between]
    obtain ⟨fuel, rfl⟩ : ∃ n, fuel = n + 1 := Nat.exists_eq_add_one.2 (by omega)
    obtain ⟨last, hw, hlast⟩ := reads_charsWith hst htext w depth hms.1 fuel
      (membersWith text style depth ms ++ (style.lead outer ++ '\x7d' :: rest))
      (follows_membersWith (follows_lead (by decide) rest) ms) (by omega)
    have hm := membersAt_membersWith hst htext ms depth outer hms.2 (by omega) hn' hw hlast
    rw [ha, skipSpace_cons (by decide)] at hafter
    refine membersAt_more hn hv hafter ?_
    rw [hs, quote, List.cons_append, List.cons_append, skipSpace_cons (by decide)]
    exact hm

end

/-- What reads in the place of a value reads as a whole text. -/
theorem document_of_reads {cs : List Char} {v : Json} (h : Reads cs v) : document cs = .ok v := by
  obtain ⟨after, hv, hafter⟩ := h (2 * cs.length + 2) [] follows_nil (Nat.le_refl _)
  rw [List.append_nil] at hv
  unfold document
  split
  · rw [skipSpace_cons (by decide)] at hv
    exact absurd hv (valueAt_ne_ok (by decide))
  · simp only [hv, hafter, Bind.bind, Except.bind]
    rfl

theorem read?_ofList_of_reads {cs : List Char} {v : Json} (h : Reads cs v) :
    read? (String.ofList cs) = some v := by
  simp [read?, read, document_of_reads h, Except.toOption]

mutual

/-- A value is written with each of its strings between quotes. -/
theorem chars_eq_charsWith (style : Style) (depth : Nat) (v : Json) :
    chars style depth v = charsWith (quote style.ascii) style depth v := by
  match v with
  | .null | .bool _ | .int _ | .float _ | .arr [] | .obj [] => rfl
  | .str s => rfl
  | .arr (w :: ws) =>
    rw [chars, charsWith, chars_eq_charsWith style _ w, itemsChars_eq_itemsWith style _ ws]
  | .obj ((name, w) :: ms) =>
    rw [chars, charsWith, chars_eq_charsWith style _ w, membersChars_eq_membersWith style _ ms]

theorem itemsChars_eq_itemsWith (style : Style) (depth : Nat) (vs : List Json) :
    itemsChars style depth vs = itemsWith (quote style.ascii) style depth vs := by
  match vs with
  | [] => rfl
  | w :: ws =>
    rw [itemsChars, itemsWith, chars_eq_charsWith style _ w, itemsChars_eq_itemsWith style _ ws]

theorem membersChars_eq_membersWith (style : Style) (depth : Nat) (ms : List (String × Json)) :
    membersChars style depth ms = membersWith (quote style.ascii) style depth ms := by
  match ms with
  | [] => rfl
  | (name, w) :: ms =>
    rw [membersChars, membersWith, chars_eq_charsWith style _ w,
      membersChars_eq_membersWith style _ ms]

end

mutual

theorem mapStrings_str (v : Json) : v.mapStrings .str = v := by
  match v with
  | .null | .bool _ | .int _ | .float _ | .str _ => rfl
  | .arr items => rw [mapStrings, mapItems_str items]
  | .obj members => rw [mapStrings, mapMembers_str members]

theorem mapItems_str (vs : List Json) : mapItems .str vs = vs := by
  match vs with
  | [] => rfl
  | w :: ws => rw [mapItems, mapStrings_str w, mapItems_str ws]

theorem mapMembers_str (ms : List (String × Json)) : mapMembers .str ms = ms := by
  match ms with
  | [] => rfl
  | (name, w) :: ms => rw [mapMembers, mapStrings_str w, mapMembers_str ms]

end

/-- A value that comes back is read from its text, whichever readable style that is written in. -/
theorem read?_write (hst : style.IsReadable) {v : Json} (hv : v.isExact = true) :
    read? (v.write style) = some v := by
  have hreads := reads_charsWith hst reads_quote v 0 hv
  rw [mapStrings_str, ← hst.ascii, ← chars_eq_charsWith] at hreads
  exact read?_ofList_of_reads hreads

end Json
end RequestChain
