import Mathlib.Data.List.Forall2
import RequestChain.Proofs.Entries
import RequestChain.Proofs.Template.Reach

namespace RequestChain.Template

open Text

def IsPlain (s : String) : Prop := '{' ∉ s.toList ∧ '}' ∉ s.toList

instance (s : String) : Decidable (IsPlain s) :=
  inferInstanceAs (Decidable ('{' ∉ s.toList ∧ '}' ∉ s.toList))

inductive Piece where
  | literal (s : String)
  | token (name : String)
  deriving DecidableEq

namespace Piece

def text : Piece → String
  | literal s => s
  | token name => Template.token name

/-- A brace is opened only by a token, and the name of the token has none. -/
def IsWellFormed : Piece → Prop
  | literal s => '{' ∉ s.toList
  | token name => IsPlain name

instance : (p : Piece) → Decidable p.IsWellFormed
  | literal s => inferInstanceAs (Decidable ('{' ∉ s.toList))
  | token name => inferInstanceAs (Decidable (IsPlain name))

def fill (value? : String → Option String) : Piece → Piece
  | literal s => literal s
  | token name => ((value? name).map literal).getD (token name)

end Piece

def ofPieces (pieces : List Piece) : String := String.join (pieces.map Piece.text)

def firstValue? (scopes : List Scope) (name : String) : Option String :=
  scopes.findSome? (Entries.get? name)

/-- A scope of different names without braces, with values that open none. -/
structure IsPlainScope (scope : Scope) : Prop where
  nodup : (Entries.names scope).Nodup
  names : ∀ entry ∈ scope, IsPlain entry.1
  values : ∀ entry ∈ scope, '{' ∉ entry.2.toList

variable {name value : String} {piece : Piece} {pieces : List Piece} {scope : Scope}
  {scopes : List Scope} {ys : List Char}

theorem toList_ofPieces_cons (piece : Piece) (pieces : List Piece) :
    (ofPieces (piece :: pieces)).toList = piece.text.toList ++ (ofPieces pieces).toList := by
  simp [ofPieces]

/-- What a token begins with and holds its last brace is the whole token. -/
theorem eq_token_of_prefix {u : List Char} (hn : IsPlain name) (h : u <+: (token name).toList)
    (hu : '}' ∈ u) : u = (token name).toList := by
  rw [toList_token, ← List.cons_append] at h ⊢
  rcases List.prefix_concat_iff.1 h with he | hp
  · exact he
  · have hmem : '}' ∈ name.toList := (List.mem_cons.1 (hp.subset hu)).resolve_left (by decide)
    exact absurd hmem hn.2

/-- No token begins in a piece and ends after it. -/
theorem not_crosses (hn : IsPlain name) (hp : piece.IsWellFormed) {u v : List Char}
    (h : (token name).toList = u ++ v) (hu : u <:+ piece.text.toList) : u = [] ∨ v = [] := by
  cases u with
  | nil => exact .inl rfl
  | cons c u =>
    have hhead : c = '{' := by
      rw [toList_token, List.cons_append] at h
      exact (List.cons.inj h).1.symm
    cases piece with
    | literal s => exact absurd (hu.subset (hhead ▸ List.mem_cons_self)) hp
    | token other =>
      -- a part at the end of a token that is not empty holds its last brace
      have hlast : '}' ∈ c :: u := by
        obtain ⟨before, hbefore⟩ := hu
        rw [Piece.text, toList_token] at hbefore
        exact last_mem_of_append_eq hbefore.symm (List.cons_ne_nil c u)
      have hwhole := eq_token_of_prefix hn ⟨v, h.symm⟩ hlast
      rw [hwhole] at h
      exact .inr (List.append_right_eq_self.1 h.symm)

/-- A token is found in no other token. -/
theorem not_occurs_token {other : String} (ho : IsPlain other) (hne : name ≠ other) :
    ¬ Occurs (token name) (token other) := by
  intro h
  rw [Occurs, toList_token, toList_token] at h
  rcases List.infix_cons_iff.1 h with hp | hi
  · have hp := (List.cons_prefix_cons.1 hp).2
    rcases List.prefix_concat_iff.1 hp with he | hp
    · exact hne (String.toList_inj.1 (List.append_cancel_right he))
    · exact ho.2 (hp.subset (by simp))
  · have hmem : '{' ∈ other.toList ++ ['}'] := hi.subset List.mem_cons_self
    simp only [List.mem_append, List.mem_singleton, Char.reduceEq, or_false] at hmem
    exact ho.1 hmem

namespace Piece

/-- Replacing one name changes a piece only if it is the token of that name. -/
theorem replaceFrom_text (value : String) (hp : piece.IsWellFormed) :
    replaceFrom (Template.token name).toList value.toList 0 piece.text.toList =
      (piece.fill (Entries.get? · [(name, value)])).text.toList := by
  cases piece with
  | literal s =>
    have hnot : ¬ (Template.token name).toList <:+: s.toList := by
      intro h
      rw [toList_token] at h
      exact hp (h.subset List.mem_cons_self)
    exact replaceFrom_of_absent hnot
  | token other =>
    by_cases he : name = other
    · subst he
      rw [text, replaceFrom_self (by simp [toList_token])]
      simp [fill, Entries.get?, text]
    · rw [text, replaceFrom_of_absent (not_occurs_token hp he)]
      simp [fill, Entries.get?, he, text]

theorem isWellFormed_fill {value? : String → Option String} (hp : piece.IsWellFormed)
    (hv : ∀ name value, value? name = some value → '{' ∉ value.toList) :
    (piece.fill value?).IsWellFormed := by
  cases piece with
  | literal s => exact hp
  | token name =>
    cases h : value? name with
    | none => simpa [fill, h] using hp
    | some value =>
      have hfilled : (token name).fill value? = literal value := by simp [fill, h]
      rw [hfilled]
      exact hv name value h

theorem fill_fill (value? other? : String → Option String) (piece : Piece) :
    (piece.fill value?).fill other? = piece.fill fun name => (value? name).or (other? name) := by
  cases piece with
  | literal s => rfl
  | token name => cases h : value? name <;> simp [fill, h]

theorem fill_none (piece : Piece) : piece.fill (fun _ => none) = piece := by
  cases piece <;> rfl

end Piece

/-- Replacing the token of one name fills the pieces of that name. -/
theorem replaceAll_ofPieces (value : String) (hn : IsPlain name)
    (hp : ∀ p ∈ pieces, p.IsWellFormed) :
    replaceAll (token name) value (ofPieces pieces) =
      ofPieces (pieces.map (Piece.fill (Entries.get? · [(name, value)]))) := by
  rw [← String.toList_inj, replaceAll, String.toList_ofList]
  induction pieces with
  | nil => rfl
  | cons piece pieces ih =>
    have hpiece := hp piece List.mem_cons_self
    rw [List.map_cons, toList_ofPieces_cons, toList_ofPieces_cons,
      replaceFrom_append (fun u v h hu _ => not_crosses hn hpiece h hu) (Nat.zero_le _),
      Piece.replaceFrom_text value hpiece, ih fun p h => hp p (List.mem_cons_of_mem _ h)]

theorem isWellFormed_filled (value? : String → Option String)
    (hp : ∀ p ∈ pieces, p.IsWellFormed)
    (hv : ∀ name value, value? name = some value → '{' ∉ value.toList) :
    ∀ p ∈ pieces.map (Piece.fill value?), p.IsWellFormed := by
  intro p hm
  obtain ⟨q, hq, rfl⟩ := List.mem_map.1 hm
  exact Piece.isWellFormed_fill (hp q hq) hv

theorem map_fill_map_fill (value? other? : String → Option String) (pieces : List Piece) :
    (pieces.map (Piece.fill value?)).map (Piece.fill other?) =
      pieces.map (Piece.fill fun name => (value? name).or (other? name)) := by
  rw [List.map_map]
  exact List.map_congr_left fun p _ => Piece.fill_fill value? other? p

theorem map_fill_none (pieces : List Piece) : pieces.map (Piece.fill fun _ => none) = pieces :=
  (List.map_congr_left fun p _ => Piece.fill_none p).trans (List.map_id _)

theorem substitute_ofPieces (hn : ∀ entry ∈ scope, IsPlain entry.1)
    (hv : ∀ entry ∈ scope, '{' ∉ entry.2.toList) (hp : ∀ p ∈ pieces, p.IsWellFormed) :
    substitute (ofPieces pieces) scope =
      ofPieces (pieces.map (Piece.fill (Entries.get? · scope))) := by
  induction scope generalizing pieces with
  | nil => exact congrArg ofPieces (map_fill_none pieces).symm
  | cons entry scope ih =>
    obtain ⟨name, value⟩ := entry
    have hfilled := isWellFormed_filled (Entries.get? · [(name, value)]) hp (by
      intro other v hget
      obtain ⟨_, rfl⟩ := Prod.mk.inj (List.mem_singleton.1 (Entries.mem_of_get? hget))
      exact hv _ List.mem_cons_self)
    have hget : ∀ other, (Entries.get? other [(name, value)]).or (Entries.get? other scope) =
        Entries.get? other ((name, value) :: scope) :=
      fun other => (Entries.get?_append other [(name, value)] scope).symm
    rw [substitute_cons, replaceAll_ofPieces _ (hn _ List.mem_cons_self) hp,
      ih (fun e he => hn e (List.mem_cons_of_mem _ he))
        (fun e he => hv e (List.mem_cons_of_mem _ he)) hfilled, map_fill_map_fill]
    simp only [hget]

theorem firstValue?_cons (scope : Scope) (scopes : List Scope) (name : String) :
    firstValue? (scope :: scopes) name =
      (Entries.get? name scope).or (firstValue? scopes name) := by
  rw [firstValue?, List.findSome?_cons]
  cases Entries.get? name scope <;> rfl

theorem firstValue?_append (before after : List Scope) (name : String) :
    firstValue? (before ++ after) name = (firstValue? before name).or (firstValue? after name) :=
  List.findSome?_append

/-- Scope by scope, each token gets the value of the first scope that has its name. -/
theorem render_ofPieces (hs : ∀ scope ∈ scopes, IsPlainScope scope)
    (hp : ∀ p ∈ pieces, p.IsWellFormed) :
    render (ofPieces pieces) scopes = ofPieces (pieces.map (Piece.fill (firstValue? scopes))) := by
  induction scopes generalizing pieces with
  | nil => exact congrArg ofPieces (map_fill_none pieces).symm
  | cons scope scopes ih =>
    have hscope := hs scope List.mem_cons_self
    have hfilled := isWellFormed_filled (Entries.get? · scope) hp
      fun name value hget => hscope.values _ (Entries.mem_of_get? hget)
    have hrest : ∀ scope ∈ scopes, IsPlainScope scope :=
      fun scope h => hs scope (List.mem_cons_of_mem _ h)
    calc render (ofPieces pieces) (scope :: scopes)
        = render (substitute (ofPieces pieces) scope) scopes := rfl
      _ = ofPieces (pieces.map (Piece.fill fun name =>
            (Entries.get? name scope).or (firstValue? scopes name))) := by
          rw [substitute_ofPieces hscope.names hscope.values hp, ih hrest hfilled,
            map_fill_map_fill]
      _ = ofPieces (pieces.map (Piece.fill (firstValue? (scope :: scopes)))) := by
          simp only [← firstValue?_cons]

/-- In scopes of different names the order of the names does not matter. -/
theorem firstValue?_perm {scopes' : List Scope} (hs : ∀ scope ∈ scopes, IsPlainScope scope)
    (h : List.Forall₂ List.Perm scopes scopes') : firstValue? scopes = firstValue? scopes' := by
  funext name
  induction h with
  | nil => rfl
  | cons hp _ ih =>
    rw [firstValue?_cons, firstValue?_cons,
      Entries.get?_perm name (hs _ List.mem_cons_self).nodup hp,
      ih fun scope hm => hs scope (List.mem_cons_of_mem _ hm)]

theorem isPlainScope_of_perm {scopes' : List Scope} (hs : ∀ scope ∈ scopes, IsPlainScope scope)
    (h : List.Forall₂ List.Perm scopes scopes') : ∀ scope ∈ scopes', IsPlainScope scope := by
  induction h with
  | nil => exact hs
  | cons hp _ ih =>
    have hhead := hs _ List.mem_cons_self
    have htail := ih fun scope hm => hs scope (List.mem_cons_of_mem _ hm)
    intro scope hm
    rcases List.mem_cons.1 hm with rfl | hm
    · exact ⟨(hp.map Prod.fst).nodup_iff.1 hhead.nodup,
        fun e he => hhead.names e (hp.mem_iff.2 he), fun e he => hhead.values e (hp.mem_iff.2 he)⟩
    · exact htail scope hm

theorem IsPlainScope.put (h : IsPlainScope scope) (hn : IsPlain name)
    (hv : '{' ∉ value.toList) : IsPlainScope (Entries.put name value scope) := by
  refine ⟨Entries.nodup_names_put h.nodup, ?_, ?_⟩
  · intro e he
    rcases Entries.mem_put h.nodup he with rfl | ⟨hm, _⟩
    · exact hn
    · exact h.names e hm
  · intro e he
    rcases Entries.mem_put h.nodup he with rfl | ⟨hm, _⟩
    · exact hv
    · exact h.values e hm

/-- The value of a name in the first object that has the name is put in as its inline text. -/
theorem firstValue?_objects (objects : List (List (String × Json))) (name : String) :
    firstValue? (objects.map Json.scope) name =
      (objects.findSome? (Entries.get? name)).map Json.inlineText := by
  rw [firstValue?, List.findSome?_map, List.map_findSome?]
  congr 1
  funext members
  exact Entries.get?_map Json.inlineText name members

/-- A name that an earlier scope has may be put into a later one with any value. -/
theorem firstValue?_put {before after : List Scope}
    (h : (firstValue? before name).isSome = true) (value : String) (scope : Scope) :
    firstValue? (before ++ Entries.put name value scope :: after) =
      firstValue? (before ++ scope :: after) := by
  funext other
  rw [firstValue?_append, firstValue?_append, firstValue?_cons, firstValue?_cons,
    Entries.get?_put]
  by_cases he : name = other
  · subst he
    obtain ⟨v, hv⟩ := Option.isSome_iff_exists.1 h
    rw [hv]
    rfl
  · rw [if_neg he]

theorem isPlain_of_firstValue? (hs : ∀ scope ∈ scopes, IsPlainScope scope)
    (h : (firstValue? scopes name).isSome = true) : IsPlain name := by
  obtain ⟨value, hv⟩ := Option.isSome_iff_exists.1 h
  obtain ⟨scope, hm, hget⟩ := List.exists_of_findSome?_eq_some hv
  exact (hs scope hm).names _ (Entries.mem_of_get? hget)

/-- A template of literals and tokens, and scopes of different names. No name has a brace, and no
literal and no value opens one. Replacing name by name and scope by scope gives the template with
all tokens replaced at once: the token of a name by the value in the first scope that has the name,
which for members of objects is their inline text. The token of a name that no scope has stays, and
so do the literals. It makes no difference in which order a scope holds its names, nor what a scope
holds under a name that a scope before it has. -/
theorem tokens_are_replaced_at_once (pieces : List Piece) (scopes : List Scope)
    (hpieces : ∀ p ∈ pieces, p.IsWellFormed)
    (hscopes : ∀ scope ∈ scopes, IsPlainScope scope) :
    render (ofPieces pieces) scopes = ofPieces (pieces.map (Piece.fill (firstValue? scopes))) ∧
    (∀ objects : List (List (String × Json)), scopes = objects.map Json.scope → ∀ name,
      firstValue? scopes name = (objects.findSome? (Entries.get? name)).map Json.inlineText) ∧
    (∀ reordered, List.Forall₂ List.Perm scopes reordered →
      render (ofPieces pieces) reordered = render (ofPieces pieces) scopes) ∧
    ∀ before scope after name value, scopes = before ++ scope :: after →
      (firstValue? before name).isSome = true → '{' ∉ value.toList →
        render (ofPieces pieces) (before ++ Entries.put name value scope :: after) =
          render (ofPieces pieces) scopes := by
  have hrender := render_ofPieces hscopes hpieces
  refine ⟨hrender, ?_, ?_, ?_⟩
  · rintro objects rfl name
    exact firstValue?_objects objects name
  · intro reordered hperm
    rw [render_ofPieces (isPlainScope_of_perm hscopes hperm) hpieces, hrender,
      firstValue?_perm hscopes hperm]
  · rintro before scope after name value rfl hsome hvalue
    have hname : IsPlain name :=
      isPlain_of_firstValue? (fun s hm => hscopes s (List.mem_append_left _ hm)) hsome
    have hplain : ∀ s ∈ before ++ Entries.put name value scope :: after, IsPlainScope s := by
      intro s hm
      rcases List.mem_append.1 hm with hm | hm
      · exact hscopes s (List.mem_append_left _ hm)
      · rcases List.mem_cons.1 hm with rfl | hm
        · exact (hscopes scope (by simp)).put hname hvalue
        · exact hscopes s (by simp [hm])
    rw [render_ofPieces hplain hpieces, hrender, firstValue?_put hsome]

/-- Two tokens side by side, one that no scope knows, and a name that both scopes have. -/
theorem variables_go_before_parameters :
    let pieces : List Piece :=
      [.literal "/", .token "a", .token "a", .literal "?x=", .token "p", .token "gone"]
    let bound : Scope := [("b", "2"), ("a", "1")]
    let parameters := Json.scope [("a", .int 9), ("p", .bool true)]
    let reordered : List Scope := [[("a", "1"), ("b", "2")], parameters]
    (∀ p ∈ pieces, p.IsWellFormed) ∧
    (∀ scope ∈ [bound, parameters], IsPlainScope scope) ∧
    ofPieces pieces = "/\x7ba\x7d\x7ba\x7d?x=\x7bp\x7d\x7bgone\x7d" ∧
    render (ofPieces pieces) [bound, parameters] = "/11?x=true\x7bgone\x7d" ∧
    List.Forall₂ List.Perm [bound, parameters] reordered ∧
    render (ofPieces pieces) reordered = "/11?x=true\x7bgone\x7d" ∧
    (firstValue? [bound] "a").isSome = true ∧ '{' ∉ "other".toList ∧
    render (ofPieces pieces) [bound, Entries.put "a" "other" parameters] =
      "/11?x=true\x7bgone\x7d" := by
  intro pieces bound parameters reordered
  have hpieces : ∀ p ∈ pieces, p.IsWellFormed := by decide +kernel
  have hscopes : ∀ scope ∈ [bound, parameters], IsPlainScope scope := by
    intro scope hm
    rcases List.mem_pair.1 hm with rfl | rfl
    · exact ⟨by decide +kernel, by decide +kernel, by decide +kernel⟩
    · exact ⟨by decide +kernel, by decide +kernel, by decide +kernel⟩
  have hperm : List.Forall₂ List.Perm [bound, parameters] reordered :=
    .cons (.swap _ _ _) (.cons (.refl _) .nil)
  obtain ⟨hrender, _, hreordered, hput⟩ := tokens_are_replaced_at_once pieces _ hpieces hscopes
  have hfilled : ofPieces (pieces.map (Piece.fill (firstValue? [bound, parameters]))) =
      "/11?x=true\x7bgone\x7d" := by
    decide +kernel
  have hvalue := hrender.trans hfilled
  exact ⟨hpieces, hscopes, by decide +kernel, hvalue, hperm, (hreordered _ hperm).trans hvalue,
    by decide +kernel, by decide +kernel,
    (hput [bound] parameters [] "a" "other" rfl (by decide +kernel) (by decide +kernel)).trans
      hvalue⟩

end RequestChain.Template
