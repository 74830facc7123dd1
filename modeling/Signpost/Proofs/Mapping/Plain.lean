import Signpost.Proofs.Mapping.Tokens

/-!
# Plain mappings

A plain mapping consists of characters other than braces and of tokens `{name}` and `{*name}` whose
names are free of everything that has a meaning inside a token. Such a mapping is read as it is
written, and expanding it puts the value of each variable in the place of its tokens. A catch-all
takes the slash in front of it along: reading stores it without the slash, and what is stored leads
to the same expansion.

## Main definitions

* `Mapping.Variable.IsPlain`, `Mapping.Chunk.IsPlain`: what plain mappings consist of.
* `Mapping.IsPlain`: plain fragments of one mapping.
* `Mapping.fill`: a mapping with values in the place of its tokens.
* `Mapping.Stores`: what storing a catch-all makes of a mapping.

## Main results

* `Mapping.chunks_flatMap`: a plain mapping is cut into its chunks.
* `Mapping.exists_stores_storeCatchAll`, `Mapping.Stores.fill_eq`: storing a catch-all.
* `Mapping.expand_parse_eq_fill`: the expansion of a plain mapping.
-/

namespace Signpost

namespace Mapping

/-! ### What plain mappings consist of -/

namespace Variable

/-- The name is free of everything that has a meaning inside a token. -/
@[mk_iff]
structure IsPlain (v : Variable) : Prop where
  ne_nil : v.name ≠ []
  free : ∀ c ∈ v.name, c ≠ '{' ∧ c ≠ '}' ∧ c ≠ ':' ∧ Character.isBlank c = false
  unstarred : v.name.head? ≠ some '*'
  unstored : catchAllName? v.name = none

-- The characters of the name are gone through, not all there are.
instance (v : Variable) : Decidable v.IsPlain :=
  haveI : Decidable (∀ c ∈ v.name, c ≠ '{' ∧ c ≠ '}' ∧ c ≠ ':' ∧ Character.isBlank c = false) :=
    List.decidableBAll _ _
  decidable_of_iff _ (isPlain_iff v).symm

end Variable

/-- The chunk is a character other than a brace or the token of a variable with a plain name. -/
inductive Chunk.IsPlain : Chunk → Prop
  | literal (c : Char) (hopen : c ≠ '{') (hclose : c ≠ '}') : IsPlain (.literal [c])
  | token (v : Variable) (h : v.IsPlain) : IsPlain (.token v.content)

/-- The chunk is a character other than a brace or a token without braces inside. -/
inductive Chunk.IsFlat : Chunk → Prop
  | literal (c : Char) (hopen : c ≠ '{') (hclose : c ≠ '}') : IsFlat (.literal [c])
  | token (content : Text) (hne : content ≠ []) (hopen : '{' ∉ content) (hclose : '}' ∉ content) :
    IsFlat (.token content)

theorem Variable.IsPlain.isFlat {v : Variable} (h : v.IsPlain) :
    (Chunk.token v.content).IsFlat := by
  have hopen : '{' ∉ v.name := fun hc => (h.free _ hc).1 rfl
  have hclose : '}' ∉ v.name := fun hc => (h.free _ hc).2.1 rfl
  rw [Variable.content]
  split
  · exact .token _ (List.cons_ne_nil _ _) (by simp [hopen]) (by simp [hclose])
  · exact .token _ h.ne_nil hopen hclose

theorem Chunk.IsPlain.isFlat {chunk : Chunk} (h : chunk.IsPlain) : chunk.IsFlat := by
  cases h with
  | literal c hopen hclose => exact .literal c hopen hclose
  | token v hv => exact hv.isFlat

theorem Chunk.IsFlat.isClosed {chunk : Chunk} (h : chunk.IsFlat) : chunk.IsClosed := by
  cases h with
  | literal c hopen hclose => exact .literal c hopen
  | token content hne hopen hclose => exact .token content hne (.of_notMem hopen hclose)

/-- No token is inside a flat chunk. -/
theorem Chunk.IsFlat.isWholeIn {chunk : Chunk} (h : chunk.IsFlat) {v : Variable}
    (hne : v.content ≠ []) : v.IsWholeIn chunk := by
  refine h.isClosed.isWholeIn hne fun content hcontent => ?_
  subst hcontent
  cases h with
  | token _ _ hopen hclose => exact ⟨hopen, hclose⟩

/-! ### Cutting -/

theorem chunks_flatMap {pieces : List Chunk} (h : ∀ chunk ∈ pieces, chunk.IsFlat) :
    chunks (pieces.flatMap Chunk.render) = pieces :=
  chunks_flatMap_of_isClosed fun chunk hchunk => (h chunk hchunk).isClosed

/-! ### Names of tokens -/

namespace Variable.IsPlain

variable {v : Variable}

theorem isBare (h : v.IsPlain) : v.IsBare :=
  ⟨fun hc => (h.free _ hc).2.2.1 rfl, Text.trim_eq_self fun c hc => (h.free c hc).2.2.2⟩

theorem tokenName_content (h : v.IsPlain) : tokenName v.content = v.name := by
  cases hcatch : v.catchAll with
  | true => exact h.isBare.tokenName_content hcatch
  | false =>
    rw [content, hcatch, if_neg (by decide)]
    exact tokenName_eq_self h.unstarred h.isBare.colon h.isBare.trim

/-- The token of a plain variable declares it. -/
theorem tokenVariable_content (h : v.IsPlain) : tokenVariable v.content = v := by
  rw [tokenVariable, h.tokenName_content]
  obtain ⟨name, catchAll⟩ := v
  cases catchAll with
  | true => rfl
  | false =>
    have hcontent : content ⟨name, false⟩ = name := rfl
    rw [hcontent, if_neg h.unstarred]
    simp only [h.unstored]

theorem catchAll_of_content (h : v.IsPlain) {name : Text} (hcontent : v.content = '*' :: name) :
    v.catchAll = true := by
  rw [content] at hcontent
  split at hcontent
  · assumption
  · exact absurd (hcontent ▸ rfl) h.unstarred

theorem isFlat_key (h : v.IsPlain) (hcatch : v.catchAll = true) : (Chunk.token v.key).IsFlat := by
  have hname : '{' ∉ v.name ∧ '}' ∉ v.name :=
    ⟨fun hc => (h.free _ hc).1 rfl, fun hc => (h.free _ hc).2.1 rfl⟩
  have hmarks : ('{' ∉ catchAllLead ∧ '}' ∉ catchAllLead) ∧
      '{' ∉ catchAllTail ∧ '}' ∉ catchAllTail := by decide
  refine .token v.key (Variable.key_ne_nil hcatch) ?_ ?_
  · simp [Variable.key_of_catchAll hcatch, hmarks, hname]
  · simp [Variable.key_of_catchAll hcatch, hmarks, hname]

end Variable.IsPlain

/-- A token is plain if the variable that it declares has a plain name and it is written as that
variable is. -/
theorem isPlain_token_iff {content : Text} :
    (Chunk.token content).IsPlain ↔
      (tokenVariable content).IsPlain ∧ (tokenVariable content).content = content := by
  constructor
  · intro h
    generalize hchunk : Chunk.token content = chunk at h
    cases h with
    | literal => exact absurd hchunk nofun
    | token v hv =>
      obtain rfl := Chunk.token.inj hchunk
      rw [hv.tokenVariable_content]
      exact ⟨hv, rfl⟩
  · rintro ⟨hv, hcontent⟩
    exact hcontent ▸ .token _ hv

instance : DecidablePred Chunk.IsPlain
  | .literal [] => isFalse nofun
  | .literal [c] => decidable_of_iff (c ≠ '{' ∧ c ≠ '}')
    ⟨fun h => .literal c h.1 h.2, fun | .literal _ hopen hclose => ⟨hopen, hclose⟩⟩
  | .literal (_ :: _ :: _) => isFalse nofun
  | .token _ => decidable_of_iff _ isPlain_token_iff.symm

/-! ### Storing a catch-all -/

/-- What storing a catch-all makes of a mapping: a token behind a slash takes the slash along. -/
inductive Stores (v : Variable) : List Chunk → List Chunk → Prop
  | nil : Stores v [] []
  | behindSlash {rest stored : List Chunk} (h : Stores v rest stored) :
    Stores v (.literal ['/'] :: .token v.content :: rest) (.token v.key :: stored)
  | alone {rest stored : List Chunk} (h : Stores v rest stored) :
    Stores v (.token v.content :: rest) (.token v.key :: stored)
  | keep {chunk : Chunk} {rest stored : List Chunk}
    (hchunk : chunk = .literal ['/'] → rest.head? ≠ some (.token v.content))
    (h : Stores v rest stored) : Stores v (chunk :: rest) (chunk :: stored)

section

variable {v : Variable}

theorem stores_map_storeEach {pieces : List Chunk} (h : ¬HasSlashed v.content pieces) :
    Stores v pieces (pieces.map (storeEach v)) := by
  induction pieces with
  | nil => exact .nil
  | cons chunk pieces ih =>
    obtain ⟨hslash, hlater⟩ := not_or.mp h
    rw [List.map_cons, storeEach]
    split
    · rename_i htoken
      exact htoken ▸ (ih hlater).alone
    · exact .keep (fun hchunk hhead => hslash ⟨hchunk, hhead⟩) (ih hlater)

theorem stores_storeBehindSlash (v : Variable) (pieces : List Chunk) :
    Stores v pieces (storeBehindSlash v pieces) := by
  fun_induction storeBehindSlash v pieces with
  | case1 => exact .nil
  | case2 chunk => exact .keep (fun _ => by simp) .nil
  | case3 chunk next rest hslash ih =>
    obtain ⟨rfl, rfl⟩ := hslash
    exact ih.behindSlash
  | case4 chunk next rest hslash ih =>
    exact .keep (fun hchunk hhead => hslash ⟨hchunk, Option.some_inj.mp hhead⟩) ih

theorem stores_storedIn (v : Variable) (pieces : List Chunk) :
    Stores v pieces (storedIn v pieces) := by
  rw [storedIn]
  split
  · exact stores_storeBehindSlash v pieces
  · rename_i hslashed
    exact stores_map_storeEach hslashed

/-- Reading a mapping stores its catch-alls. -/
theorem exists_stores_storeCatchAll (hv : v.IsPlain) {pieces : List Chunk}
    (hflat : ∀ chunk ∈ pieces, chunk.IsFlat) :
    ∃ stored, Stores v pieces stored ∧
      storeCatchAll (pieces.flatMap Chunk.render) v = stored.flatMap Chunk.render := by
  obtain ⟨hne, hopen⟩ : v.content ≠ [] ∧ Text.StaysOpen 1 v.content := by
    cases hv.isFlat with
    | token _ hne hopen hclose => exact ⟨hne, .of_notMem hopen hclose Nat.one_pos⟩
  exact ⟨storedIn v pieces, stores_storedIn v pieces, storeCatchAll_flatMap_render hopen
    fun chunk hchunk => ⟨(hflat chunk hchunk).isClosed, (hflat chunk hchunk).isWholeIn hne⟩⟩

/-! ### What storing changes -/

namespace Stores

variable {pieces stored : List Chunk}

theorem mem (h : Stores v pieces stored) {chunk : Chunk} (hchunk : chunk ∈ stored) :
    chunk ∈ pieces ∨ chunk = .token v.key := by
  induction h with
  | nil => exact .inl hchunk
  | behindSlash h ih =>
    rcases List.mem_cons.mp hchunk with rfl | hrest
    · exact .inr rfl
    · exact (ih hrest).imp_left fun hmem => List.mem_cons_of_mem _ (List.mem_cons_of_mem _ hmem)
  | alone h ih =>
    rcases List.mem_cons.mp hchunk with rfl | hrest
    · exact .inr rfl
    · exact (ih hrest).imp_left (List.mem_cons_of_mem _)
  | keep hkept h ih =>
    rcases List.mem_cons.mp hchunk with rfl | hrest
    · exact .inl List.mem_cons_self
    · exact (ih hrest).imp_left (List.mem_cons_of_mem _)

/-- A token of a catch-all that comes first was first before. -/
theorem head?_of_star (h : Stores v pieces stored) (hcatch : v.catchAll = true) {name : Text}
    (hhead : stored.head? = some (.token ('*' :: name))) :
    pieces.head? = some (.token ('*' :: name)) := by
  cases h with
  | nil => exact hhead
  | behindSlash h => exact absurd hhead (by simp [Variable.key_ne_star hcatch])
  | alone h => exact absurd hhead (by simp [Variable.key_ne_star hcatch])
  | keep hkept h => exact hhead

/-- Storing puts no slash in front of a token and leaves none in front of those it is for. -/
theorem hasSlashed (h : Stores v pieces stored) (hcatch : v.catchAll = true) {name : Text}
    (hslashed : HasSlashed ('*' :: name) stored) :
    HasSlashed ('*' :: name) pieces ∧ v.content ≠ '*' :: name := by
  induction h with
  | nil => exact absurd hslashed id
  | behindSlash h ih =>
    rcases hslashed with ⟨hslash, -⟩ | hlater
    · exact absurd hslash (by simp)
    · exact (ih hlater).imp_left fun hrest => .inr (.inr hrest)
  | alone h ih =>
    rcases hslashed with ⟨hslash, -⟩ | hlater
    · exact absurd hslash (by simp)
    · exact (ih hlater).imp_left .inr
  | keep hkept h ih =>
    rcases hslashed with ⟨hslash, hhead⟩ | hlater
    · have hbefore := h.head?_of_star hcatch hhead
      exact ⟨.inl ⟨hslash, hbefore⟩, fun hcontent => hkept hslash (hcontent ▸ hbefore)⟩
    · exact (ih hlater).imp_left .inr

end Stores

end

/-! ### Filling -/

/-- Whether the chunk is the token of a catch-all. -/
def Chunk.isCatchAll : Chunk → Bool
  | .literal _ => false
  | .token content => content.head? = some '*'

/-- The text of a mapping with values in the place of its tokens. A slash in front of a catch-all
belongs to it. -/
def fill (value : Variable → Text) : List Chunk → Text
  | [] => []
  | .literal text :: rest =>
    (if text = ['/'] ∧ rest.head?.any Chunk.isCatchAll = true then [] else text) ++ fill value rest
  | .token content :: rest => value (tokenVariable content) ++ fill value rest

section

variable {v : Variable} {value : Variable → Text} {pieces stored : List Chunk}

theorem isCatchAll_iff {chunk : Chunk} :
    chunk.isCatchAll = true ↔ ∃ name, chunk = .token ('*' :: name) := by
  cases chunk with
  | literal text => simp [Chunk.isCatchAll]
  | token content => simp [Chunk.isCatchAll, List.head?_eq_some_iff]

theorem isCatchAll_content (hcatch : v.catchAll = true) :
    (Chunk.token v.content).isCatchAll = true :=
  isCatchAll_iff.mpr ⟨v.name, by rw [Variable.content_of_catchAll hcatch]⟩

theorem isCatchAll_key (hcatch : v.catchAll = true) : (Chunk.token v.key).isCatchAll = false := by
  rw [Bool.eq_false_iff, ne_eq, isCatchAll_iff]
  rintro ⟨name, hname⟩
  exact Variable.key_ne_star hcatch name (Chunk.token.inj hname)

/-- Storing does not change whether the token of another catch-all comes first. -/
theorem Stores.any_head?_eq (h : Stores v pieces stored) (hcatch : v.catchAll = true)
    (hhead : pieces.head? ≠ some (.token v.content)) :
    stored.head?.any Chunk.isCatchAll = pieces.head?.any Chunk.isCatchAll := by
  cases h with
  | nil => rfl
  | behindSlash h => exact isCatchAll_key hcatch
  | alone h => exact absurd rfl hhead
  | keep hkept h => rfl

/-- Storing a catch-all does not change what a mapping is filled to. -/
theorem Stores.fill_eq (h : Stores v pieces stored) (hv : v.IsPlain) (hcatch : v.catchAll = true) :
    fill value stored = fill value pieces := by
  induction h with
  | nil => rfl
  | behindSlash h ih =>
    rw [fill, fill, fill, if_pos ⟨rfl, isCatchAll_content hcatch⟩, List.nil_append, ih,
      hv.isBare.tokenVariable_key hcatch, hv.tokenVariable_content]
  | alone h ih => rw [fill, fill, ih, hv.isBare.tokenVariable_key hcatch, hv.tokenVariable_content]
  | @keep chunk rest stored hkept h ih =>
    cases chunk with
    | token content => rw [fill, fill, ih]
    | literal text =>
      rw [fill, fill, ih]
      by_cases hslash : text = ['/']
      · rw [h.any_head?_eq hcatch (hkept (by rw [hslash]))]
      · simp only [hslash, false_and, if_false]

/-- Storing catch-alls one after the other takes the slash in front of each away and does not change
what the mapping is filled to. -/
theorem exists_stored {vars : List Variable} (hvars : ∀ v ∈ vars, v.IsPlain ∧ v.catchAll = true)
    (value : Variable → Text) (hflat : ∀ chunk ∈ pieces, chunk.IsFlat) :
    ∃ stored : List Chunk,
      vars.foldl storeCatchAll (pieces.flatMap Chunk.render) = stored.flatMap Chunk.render ∧
      (∀ chunk ∈ stored, chunk ∈ pieces ∨ ∃ v ∈ vars, chunk = .token v.key) ∧
      (∀ name, HasSlashed ('*' :: name) stored →
        HasSlashed ('*' :: name) pieces ∧ ∀ v ∈ vars, v.content ≠ '*' :: name) ∧
      fill value stored = fill value pieces := by
  induction vars generalizing pieces with
  | nil =>
    exact ⟨pieces, rfl, fun chunk => .inl,
      fun name h => ⟨h, fun v hv => absurd hv List.not_mem_nil⟩, rfl⟩
  | cons v vars ih =>
    obtain ⟨⟨hv, hcatch⟩, hlater⟩ := List.forall_mem_cons.mp hvars
    obtain ⟨next, hstores, hnext⟩ := exists_stores_storeCatchAll hv hflat
    have hflat' : ∀ chunk ∈ next, chunk.IsFlat := by
      intro chunk hchunk
      rcases hstores.mem hchunk with hold | rfl
      · exact hflat chunk hold
      · exact hv.isFlat_key hcatch
    obtain ⟨stored, hstored, hmem, hslashed, hfill⟩ := ih hlater hflat'
    refine ⟨stored, ?_, fun chunk hchunk => ?_, fun name hname => ?_, ?_⟩
    · rw [List.foldl_cons, hnext, hstored]
    · rcases hmem chunk hchunk with hold | ⟨w, hw, rfl⟩
      · exact (hstores.mem hold).imp_right fun hkey => ⟨v, List.mem_cons_self, hkey⟩
      · exact .inr ⟨w, List.mem_cons_of_mem v hw, rfl⟩
    · obtain ⟨hnext, hothers⟩ := hslashed name hname
      obtain ⟨hpieces, hself⟩ := hstores.hasSlashed hcatch hnext
      exact ⟨hpieces, List.forall_mem_cons.mpr ⟨hself, hothers⟩⟩
    · rw [hfill, hstores.fill_eq hv hcatch]

theorem mem_of_hasSlashed {content : Text} (h : HasSlashed content pieces) :
    .token content ∈ pieces := by
  induction pieces with
  | nil => exact absurd h id
  | cons chunk rest ih =>
    rcases h with ⟨-, hhead⟩ | hlater
    · exact List.mem_cons_of_mem chunk (List.mem_of_head? hhead)
    · exact List.mem_cons_of_mem chunk (ih hlater)

/-- A mapping without a slash in front of a catch-all is filled chunk by chunk. -/
theorem flatMap_eq_fill {f : Chunk → Text} (hliteral : ∀ text, f (.literal text) = text)
    (htoken : ∀ content, .token content ∈ pieces → f (.token content) =
      value (tokenVariable content))
    (hslashed : ∀ name, ¬HasSlashed ('*' :: name) pieces) :
    pieces.flatMap f = fill value pieces := by
  induction pieces with
  | nil => rfl
  | cons chunk rest ih =>
    have hrest := ih (fun content hmem => htoken content (List.mem_cons_of_mem chunk hmem))
      fun name h => hslashed name (.inr h)
    rw [List.flatMap_cons, hrest]
    cases chunk with
    | token content => rw [fill, htoken content List.mem_cons_self]
    | literal text =>
      rw [fill, hliteral, if_neg]
      rintro ⟨rfl, hstarts⟩
      obtain ⟨chunk, hhead, hchunk⟩ := (Option.any_eq_true _ _).mp hstarts
      obtain ⟨name, rfl⟩ := isCatchAll_iff.mp hchunk
      exact hslashed name (.inl ⟨rfl, hhead⟩)

end

/-! ### Plain fragments -/

/-- Every chunk of the fragments is plain, and no name is that of an ordinary variable in one place
and of a catch-all in another. -/
structure IsPlain (fragments : List Text) : Prop where
  chunk : ∀ fragment ∈ fragments, ∀ chunk ∈ chunks fragment, chunk.IsPlain
  alike : ∀ v ∈ fragments.flatMap declared, ∀ w ∈ fragments.flatMap declared,
    v.name = w.name → v = w

/-- What is looked up for a variable comes to its value. -/
def Yields (value? : Text → Option Substitution) (value : Variable → Text) (v : Variable) : Prop :=
  value? v.key = some (.text (value v)) ∨
    value? v.key = some .keep ∧ v.catchAll = false ∧ value v = v.display

section

variable {raw : Text} {value? : Text → Option Substitution} {value : Variable → Text} {v : Variable}

/-- The tokens of a plain mapping declare plain variables, all of which are kept. -/
theorem IsPlain.exists_of_token (h : IsPlain [raw]) {content : Text}
    (hcontent : .token content ∈ chunks raw) :
    ∃ v ∈ (parse raw).vars, v.IsPlain ∧ content = v.content := by
  obtain ⟨v, hv, rfl⟩ : ∃ v : Variable, v.IsPlain ∧ content = v.content := by
    cases h.chunk raw List.mem_cons_self _ hcontent with
    | token v hv => exact ⟨v, hv, rfl⟩
  have hmem : v ∈ declared raw :=
    List.mem_map.mpr ⟨v.content, mem_tokens_iff.mpr hcontent, hv.tokenVariable_content⟩
  obtain ⟨w, hw, hname⟩ := exists_mem_firstOfEachName hmem
  have hsame := h.alike w (by simpa using mem_of_mem_firstOfEachName hw) v (by simpa using hmem)
    hname
  exact ⟨v, hsame ▸ hw, hv, rfl⟩

theorem IsPlain.isPlain_of_mem_vars (h : IsPlain [raw]) (hv : v ∈ (parse raw).vars) :
    v.IsPlain := by
  obtain ⟨content, hcontent, rfl⟩ := exists_token_of_mem_vars hv
  obtain ⟨w, -, hw, rfl⟩ := h.exists_of_token (mem_tokens_iff.mp hcontent)
  rwa [hw.tokenVariable_content]

/-- A name is that of one variable alone, in plain and in stored form. -/
theorem IsPlain.variableOfToken?_name (h : IsPlain [raw]) (hv : v ∈ (parse raw).vars) :
    (parse raw).variableOfToken? v.name = some v := by
  refine find?_eq_some_of_unique hv (by simp) fun w hw hfound => ?_
  rcases (by simpa using hfound : w.key = v.name ∨ w.name = v.name) with hkey | hname
  · cases hcatch : w.catchAll with
    | false =>
      rw [Variable.key, hcatch, if_neg (by decide)] at hkey
      exact eq_of_name_eq hw hv hkey
    | true =>
      have hunstored := (h.isPlain_of_mem_vars hv).unstored
      rw [← hkey, catchAllName?_key hcatch] at hunstored
      exact absurd hunstored (by simp)
  · exact eq_of_name_eq hw hv hname

theorem IsPlain.variableOfToken?_key (h : IsPlain [raw]) (hv : v ∈ (parse raw).vars) :
    (parse raw).variableOfToken? v.key = some v := by
  cases hcatch : v.catchAll with
  | false =>
    rw [Variable.key, hcatch, if_neg (by decide)]
    exact h.variableOfToken?_name hv
  | true =>
    refine find?_eq_some_of_unique hv (by simp) fun w hw hfound => ?_
    rcases (by simpa using hfound : w.key = v.key ∨ w.name = v.key) with hkey | hname
    · exact eq_of_key_eq hw hv hkey
    · have hunstored := (h.isPlain_of_mem_vars hw).unstored
      rw [hname, catchAllName?_key hcatch] at hunstored
      exact absurd hunstored (by simp)

theorem substitute_eq_of_yields {mapping : Mapping} {content : Text}
    (hfind : mapping.variableOfToken? (tokenName content) = some v) (h : Yields value? value v) :
    mapping.substitute value? (.token content) = value v := by
  rw [substitute]
  simp only [hfind, Option.map_some, Option.getD_some]
  rcases h with htext | ⟨hkeep, hordinary, hvalue⟩
  · simp only [htext]
  · simp only [hkeep, hordinary, hvalue, Variable.display]
    rfl

/-- **Expanding a plain mapping.** Every token is replaced by the value of the variable that it
declares, a catch-all together with the slash in front of it, and everything else stays. -/
theorem expand_parse_eq_fill (h : IsPlain [raw])
    (hyields : ∀ v ∈ (parse raw).vars, Yields value? value v) :
    (parse raw).expand value? = fill value (chunks raw) := by
  have hflat : ∀ chunk ∈ chunks raw, chunk.IsFlat :=
    fun chunk hchunk => (h.chunk raw List.mem_cons_self chunk hchunk).isFlat
  have hstored : ∀ v ∈ (parse raw).vars.filter (·.catchAll), v.IsPlain ∧ v.catchAll = true := by
    intro v hv
    obtain ⟨hmem, hcatch⟩ := List.mem_filter.mp hv
    exact ⟨h.isPlain_of_mem_vars hmem, hcatch⟩
  obtain ⟨stored, htext, hmem, hslashed, hfill⟩ := exists_stored hstored value hflat
  rw [flatMap_render_chunks] at htext
  have hflat' : ∀ chunk ∈ stored, chunk.IsFlat := by
    intro chunk hchunk
    rcases hmem chunk hchunk with hold | ⟨v, hv, rfl⟩
    · exact hflat chunk hold
    · exact (hstored v hv).1.isFlat_key (hstored v hv).2
  have hchunks : chunks (parse raw).text = stored := by
    rw [show (parse raw).text = stored.flatMap Chunk.render from htext, chunks_flatMap hflat']
  rw [expand, hchunks, ← hfill]
  refine flatMap_eq_fill (fun text => rfl) (fun content hcontent => ?_) fun name hname => ?_
  · rcases hmem _ hcontent with hold | ⟨v, hv, hkey⟩
    · obtain ⟨v, hv, hplain, rfl⟩ := h.exists_of_token hold
      rw [hplain.tokenVariable_content]
      refine substitute_eq_of_yields ?_ (hyields v hv)
      rw [hplain.tokenName_content, h.variableOfToken?_name hv]
    · obtain ⟨hplain, hcatch⟩ := hstored v hv
      have hmemv := (List.mem_filter.mp hv).1
      rw [Chunk.token.inj hkey, hplain.isBare.tokenVariable_key hcatch]
      refine substitute_eq_of_yields ?_ (hyields v hmemv)
      rw [hplain.isBare.tokenName_key hcatch, h.variableOfToken?_key hmemv]
  · -- a token behind a slash was there before, hence it is one of a catch-all that was stored
    obtain ⟨hbefore, hothers⟩ := hslashed name hname
    obtain ⟨v, hv, hplain, hcontent⟩ := h.exists_of_token (mem_of_hasSlashed hbefore)
    have hcatch : v.catchAll = true := hplain.catchAll_of_content hcontent.symm
    exact hothers v (List.mem_filter.mpr ⟨hv, hcatch⟩) hcontent.symm

end

end Mapping

end Signpost
