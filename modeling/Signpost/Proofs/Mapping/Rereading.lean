import Mathlib
import Signpost.Proofs.Mapping.Flat

/-!
# Reading a mapping again

The text of a parsed mapping has its catch-alls in stored form. Reading this text stores again what
is left of them: the tokens without a slash in front of them, if others had one. For mappings whose
tokens have no braces inside, the variables are the same as before. The expansions are the same,
too, if reading again replaces nothing inside an expression that is not closed, and if the name and
the key of a catch-all that is stored now lead to one variable.

## Main definitions

* `Mapping.storeAll`: what storing makes of a chunk.
* `Mapping.storeInside`: what storing makes of an expression that is not closed.

## Main results

* `Mapping.foldl_storeCatchAll_append`: storing what is left.
* `Mapping.text_parse_append`: what reading again makes of the text.
* `Mapping.expand_parse_text_iff`: when reading again does not change expansions.
-/

namespace Signpost.Mapping

/-- What storing catch-alls makes of a chunk. -/
def storeAll (vars : List Variable) (chunk : Chunk) : Chunk :=
  vars.foldl (fun chunk v => storeEach v chunk) chunk

/-- What storing catch-alls makes of an expression that is not closed. -/
def storeInside (vars : List Variable) (rest : Text) : Text :=
  vars.foldl (fun rest v => Text.replaceAll v.display (Chunk.token v.key).render rest) rest

variable {v w : Variable} {vars : List Variable} {cut : List Chunk} {chunk : Chunk}
  {raw text rest pattern new : Text}

/-! ### Storing again -/

/-- A chunk that is closed and has no braces inside if it is a token. -/
structure Chunk.IsBraceless (chunk : Chunk) : Prop where
  isClosed : chunk.IsClosed
  notMem : ∀ content, chunk = .token content → '{' ∉ content ∧ '}' ∉ content

theorem Chunk.IsBraceless.storeEach (h : chunk.IsBraceless) (hv : v.IsFlatCatchAll) :
    (storeEach v chunk).IsBraceless := by
  rw [Mapping.storeEach]
  split
  · rename_i htoken
    refine ⟨Variable.isClosed_key hv.catchAll (htoken ▸ h.isClosed), fun content hcontent => ?_⟩
    exact Chunk.token.inj hcontent ▸ hv.notMem_key
  · exact h

theorem Chunk.IsBraceless.storeAll (h : chunk.IsBraceless) (hvars : ∀ v ∈ vars, v.IsFlatCatchAll) :
    (storeAll vars chunk).IsBraceless := by
  induction vars generalizing chunk with
  | nil => exact h
  | cons v vars ih =>
    obtain ⟨hv, hlater⟩ := List.forall_mem_cons.mp hvars
    exact ih (h.storeEach hv) hlater

theorem storeAll_of_ne (h : ∀ v ∈ vars, chunk ≠ .token v.content) :
    storeAll vars chunk = chunk := by
  induction vars with
  | nil => rfl
  | cons v vars ih =>
    obtain ⟨hv, hlater⟩ := List.forall_mem_cons.mp h
    rw [storeAll, List.foldl_cons, storeEach, if_neg hv]
    exact ih hlater

theorem key_ne_content (hv : v.IsFlatCatchAll) (hw : w.IsFlatCatchAll) : v.key ≠ w.content := by
  rw [Variable.content_of_catchAll hw.catchAll]
  exact Variable.key_ne_star hv.catchAll w.name

theorem eq_of_content_eq (hv : v.IsFlatCatchAll) (hw : w.IsFlatCatchAll)
    (h : v.content = w.content) : v = w := by
  rw [Variable.content_of_catchAll hv.catchAll, Variable.content_of_catchAll hw.catchAll] at h
  obtain ⟨name, catchAll⟩ := v
  obtain ⟨name', catchAll'⟩ := w
  obtain rfl : catchAll = true := hv.catchAll
  obtain rfl : catchAll' = true := hw.catchAll
  obtain rfl : name = name' := (List.cons.inj h).2
  rfl

/-- The token of a catch-all becomes the stored one. -/
theorem storeAll_content (hvars : ∀ v ∈ vars, v.IsFlatCatchAll) (hv : v ∈ vars) :
    storeAll vars (.token v.content) = .token v.key := by
  induction vars with
  | nil => exact absurd hv List.not_mem_nil
  | cons u vars ih =>
    obtain ⟨hu, hlater⟩ := List.forall_mem_cons.mp hvars
    rw [storeAll, List.foldl_cons, storeEach]
    split
    · rename_i htoken
      obtain rfl := eq_of_content_eq (hvars v hv) hu (Chunk.token.inj htoken)
      exact storeAll_of_ne fun w hw h => key_ne_content hu (hlater w hw) (Chunk.token.inj h)
    · rename_i htoken
      rcases List.mem_cons.mp hv with rfl | hmem
      · exact absurd rfl htoken
      · exact ih hlater hmem

/-- Where no catch-all is behind a slash, storing takes place chunk by chunk. -/
theorem foldl_storeCatchAll_append (hvars : ∀ v ∈ vars, v.IsFlatCatchAll)
    (hcut : ∀ chunk ∈ cut, chunk.IsBraceless)
    (hslash : ∀ v ∈ vars, ¬('/' :: v.display) <:+: cut.flatMap Chunk.render ++ rest) :
    vars.foldl storeCatchAll (cut.flatMap Chunk.render ++ rest) =
      (cut.map (storeAll vars)).flatMap Chunk.render ++ storeInside vars rest := by
  induction vars generalizing cut rest with
  | nil =>
    rw [show storeAll [] = id from rfl, List.map_id]
    rfl
  | cons v vars ih =>
    obtain ⟨hv, hlater⟩ := List.forall_mem_cons.mp hvars
    obtain ⟨hnone, hothers⟩ := List.forall_mem_cons.mp hslash
    have hstep : storeCatchAll (cut.flatMap Chunk.render ++ rest) v =
        (cut.map (storeEach v)).flatMap Chunk.render ++
          Text.replaceAll v.display (Chunk.token v.key).render rest := by
      rw [storeCatchAll, if_neg (mt Text.hasInfix_iff.mp hnone)]
      refine replaceAll_display hv.isEnclosed_content.staysOpen (fun chunk hchunk => ?_) rest
      obtain ⟨hclosed, hflat⟩ := hcut chunk hchunk
      exact ⟨hclosed, hclosed.isWholeIn hv.content_ne_nil hflat⟩
    have hnext : ∀ w ∈ vars, ¬('/' :: w.display) <:+:
        (cut.map (storeEach v)).flatMap Chunk.render ++
          Text.replaceAll v.display (Chunk.token v.key).render rest := by
      intro w hw hinfix
      rw [← hstep] at hinfix
      exact hothers w hw (infix_of_infix_storeCatchAll
        (isClearOf_slash_display hv (hlater w hw)) hinfix)
    have hbraceless : ∀ chunk ∈ cut.map (storeEach v), chunk.IsBraceless := by
      intro chunk hchunk
      obtain ⟨other, hother, rfl⟩ := List.mem_map.mp hchunk
      exact (hcut other hother).storeEach hv
    rw [List.foldl_cons, hstep, ih hlater hbraceless hnext, List.map_map]
    rfl

theorem isOpen_storeInside (hvars : ∀ v ∈ vars, v.IsFlatCatchAll) (hrest : IsOpen rest) :
    IsOpen (storeInside vars rest) := by
  induction vars generalizing rest with
  | nil => exact hrest
  | cons v vars ih =>
    obtain ⟨hv, hlater⟩ := List.forall_mem_cons.mp hvars
    exact ih hlater (isOpen_replaceAll hv v.display_ne_nil (isBalanced_display hv)
      (not_display_prefix_of_isOpen hv hrest) hrest)

theorem infix_of_infix_storeInside
    (hclear : ∀ v ∈ vars, Text.IsClearOf (Chunk.token v.key).render pattern)
    (h : pattern <:+: storeInside vars rest) : pattern <:+: rest := by
  induction vars generalizing rest with
  | nil => exact h
  | cons v vars ih =>
    obtain ⟨hv, hlater⟩ := List.forall_mem_cons.mp hclear
    exact hv.infix_of_infix_replaceAll v.display_ne_nil rest (ih hlater h)

/-- Inside an expression that is not closed, storing changes nothing if and only if no token of a
catch-all is there. -/
theorem storeInside_eq_self_iff (hvars : ∀ v ∈ vars, v.IsFlatCatchAll) :
    storeInside vars rest = rest ↔ ∀ v ∈ vars, ¬v.display <:+: rest := by
  constructor
  · intro h
    rw [← h]
    clear h
    induction vars generalizing rest with
    | nil => exact fun v hv => absurd hv List.not_mem_nil
    | cons u vars ih =>
      obtain ⟨hu, hlater⟩ := List.forall_mem_cons.mp hvars
      refine List.forall_mem_cons.mpr ⟨fun hinfix => ?_, ih hlater⟩
      exact (isClearOf_display hu hu).not_infix_replaceAll u.display_ne_nil rest
        (infix_of_infix_storeInside (fun v hv => isClearOf_display (hlater v hv) hu) hinfix)
  · intro h
    induction vars with
    | nil => rfl
    | cons v vars ih =>
      obtain ⟨hv, hlater⟩ := List.forall_mem_cons.mp h
      rw [storeInside, List.foldl_cons, Text.replaceAll_of_not_infix hv]
      exact ih (List.forall_mem_cons.mp hvars).2 hlater

/-! ### Expanding again -/

/-- **Reading again finds the same variables.** -/
theorem vars_parse_text (hflat : IsFlat raw)
    (htrim : ∀ v ∈ (parse raw).vars, v.catchAll = true → Text.trim v.name = v.name) :
    (parse (parse raw).text).vars = (parse raw).vars := by
  obtain ⟨-, hdeclared⟩ :=
    isFlat_foldl_storeCatchAll (isFlatCatchAll_of_mem_catchAlls hflat htrim) hflat
  exact congrArg firstOfEachName hdeclared

/-- **What reading again makes of the text.** -/
theorem text_parse_append (hflat : IsFlat raw)
    (htrim : ∀ v ∈ (parse raw).vars, v.catchAll = true → Text.trim v.name = v.name) :
    ∃ cut : List Chunk, (∀ chunk ∈ cut, chunk.IsBraceless) ∧ IsOpen (openRest (parse raw).text) ∧
      (parse raw).text = cut.flatMap Chunk.render ++ openRest (parse raw).text ∧
      (parse (parse raw).text).text =
        (cut.map (storeAll (parse raw).catchAlls)).flatMap Chunk.render ++
          storeInside (parse raw).catchAlls (openRest (parse raw).text) := by
  have hvars := isFlatCatchAll_of_mem_catchAlls hflat htrim
  obtain ⟨hkept, -⟩ := isFlat_foldl_storeCatchAll hvars hflat
  obtain ⟨cut, hcut, hopen, htext⟩ := exists_isClosed (parse raw).text
  have hbraceless : ∀ chunk ∈ cut, chunk.IsBraceless := by
    refine fun chunk hchunk => ⟨hcut chunk hchunk, fun content hcontent => hkept content ?_⟩
    change content ∈ tokens (parse raw).text
    rw [htext, mem_tokens_append_iff hcut hopen]
    exact hcontent ▸ hchunk
  refine ⟨cut, hbraceless, hopen, htext, ?_⟩
  have hagain : (parse (parse raw).text).text =
      (parse raw).catchAlls.foldl storeCatchAll (parse raw).text := by
    change ((parse (parse raw).text).vars.filter _).foldl storeCatchAll _ = _
    rw [vars_parse_text hflat htrim]
    rfl
  have hslash : ∀ v ∈ (parse raw).catchAlls,
      ¬('/' :: v.display) <:+: cut.flatMap Chunk.render ++ openRest (parse raw).text := by
    intro v hv
    rw [← htext]
    exact not_slash_display_infix_foldl hvars raw hv
  rw [hagain, ← foldl_storeCatchAll_append hvars hbraceless hslash, ← htext]

/-- Texts in a row that are as long as others are the same if the rows are. -/
theorem eq_of_flatMap_append_eq {α β : Type*} {f g : α → List β} {items : List α} {a b : List β}
    (hlength : ∀ item ∈ items, (f item).length = (g item).length)
    (h : items.flatMap f ++ a = items.flatMap g ++ b) :
    (∀ item ∈ items, f item = g item) ∧ a = b := by
  induction items with
  | nil => exact ⟨fun item hitem => absurd hitem List.not_mem_nil, h⟩
  | cons item items ih =>
    obtain ⟨hfirst, hlater⟩ := List.forall_mem_cons.mp hlength
    rw [List.flatMap_cons, List.flatMap_cons, List.append_assoc, List.append_assoc] at h
    obtain ⟨heq, hrest⟩ := List.append_inj h hfirst
    obtain ⟨hitems, hbehind⟩ := ih hlater hrest
    exact ⟨List.forall_mem_cons.mpr ⟨heq, hitems⟩, hbehind⟩

/-- The name and the key of a catch-all each lead to a variable. -/
theorem exists_variableOfToken? (hv : v ∈ (parse raw).vars) {name : Text}
    (hname : v.key = name ∨ v.name = name) : ∃ w, (parse raw).variableOfToken? name = some w :=
  Option.isSome_iff_exists.mp (List.find?_isSome.mpr ⟨v, hv, by simpa using hname⟩)

section

variable (hflat : IsFlat raw)
  (htrim : ∀ v ∈ (parse raw).vars, v.catchAll = true → Text.trim v.name = v.name)

include hflat htrim

/-- Both expansions go through the same chunks, the second one with catch-alls stored. -/
theorem exists_expand_eq : ∃ cut : List Chunk,
    (∀ content, content ∈ tokens (parse raw).text ↔ .token content ∈ cut) ∧
    ∀ value?,
      (parse raw).expand value? =
        cut.flatMap ((parse raw).substitute value?) ++ openRest (parse raw).text ∧
      (parse (parse raw).text).expand value? =
        cut.flatMap (fun chunk =>
          (parse raw).substitute value? (storeAll (parse raw).catchAlls chunk)) ++
          storeInside (parse raw).catchAlls (openRest (parse raw).text) := by
  have hvars := isFlatCatchAll_of_mem_catchAlls hflat htrim
  obtain ⟨cut, hcut, hopen, htext, hagain⟩ := text_parse_append hflat htrim
  have hclosed : ∀ chunk ∈ cut, chunk.IsClosed := fun chunk hchunk => (hcut chunk hchunk).isClosed
  have hstored : ∀ chunk ∈ cut.map (storeAll (parse raw).catchAlls), chunk.IsClosed := by
    intro chunk hchunk
    obtain ⟨other, hother, rfl⟩ := List.mem_map.mp hchunk
    exact ((hcut other hother).storeAll hvars).isClosed
  refine ⟨cut, fun content => ?_, fun value? => ⟨expand_append hclosed hopen htext value?, ?_⟩⟩
  · rw [← mem_tokens_append_iff hclosed hopen, ← htext]
  · rw [expand_append hstored (isOpen_storeInside hvars hopen) hagain, List.flatMap_map]
    refine congrArg (· ++ _) (List.flatMap_congr fun chunk _ => ?_)
    exact substitute_congr (vars_parse_text hflat htrim) value? _

/-- The expansions before and after reading again are the same if nothing is stored inside an
expression that is not closed, and if stored tokens lead where the others did. -/
theorem expand_eq_expand_parse_text
    (h : ∀ v ∈ (parse raw).vars, v.catchAll = true → ¬v.display <:+: openRest (parse raw).text ∧
      (v.content ∈ tokens (parse raw).text →
        (parse raw).variableOfToken? v.name = (parse raw).variableOfToken? v.key))
    {value? : Text → Option Substitution}
    (hvalue : ∀ v ∈ (parse raw).vars, v.catchAll = true →
      ∃ text, value? v.key = some (.text text)) :
    (parse raw).expand value? = (parse (parse raw).text).expand value? := by
  have hvars := isFlatCatchAll_of_mem_catchAlls hflat htrim
  obtain ⟨cut, hmem, hexpand⟩ := exists_expand_eq hflat htrim
  obtain ⟨hbefore, hagain⟩ := hexpand value?
  have hrest : storeInside (parse raw).catchAlls (openRest (parse raw).text) =
      openRest (parse raw).text :=
    (storeInside_eq_self_iff hvars).mpr fun v hv =>
      (h v (List.mem_filter.mp hv).1 (List.mem_filter.mp hv).2).1
  rw [hbefore, hagain, hrest]
  refine congrArg (· ++ _) (List.flatMap_congr fun chunk hchunk => ?_)
  by_cases hstored : ∃ v ∈ (parse raw).catchAlls, chunk = .token v.content
  · obtain ⟨v, hv, rfl⟩ := hstored
    obtain ⟨hvmem, hcatch⟩ := List.mem_filter.mp hv
    obtain ⟨w, hw⟩ := exists_variableOfToken? hvmem (.inr rfl)
    have hsame := (h v hvmem hcatch).2 ((hmem v.content).mpr hchunk)
    rw [storeAll_content hvars hv]
    refine substitute_eq_of_variableOfToken? (v := w) ?_ ?_
      fun hcatchw => hvalue w (mem_vars_of_variableOfToken? hw) hcatchw
    · rw [(hvars v hv).tokenName_content hcatch, hw]
    · rw [(hvars v hv).tokenName_key hcatch, ← hsame, hw]
  · rw [storeAll_of_ne fun v hv htoken => hstored ⟨v, hv, htoken⟩]

/-- Expansions with values of one character each tell what reading again has changed. -/
theorem of_expand_eq_expand_parse_text
    (h : ∀ value? : Text → Option Substitution,
      (∀ v ∈ (parse raw).vars, v.catchAll = true → ∃ text, value? v.key = some (.text text)) →
      (parse raw).expand value? = (parse (parse raw).text).expand value?)
    (hv : v ∈ (parse raw).vars) (hcatch : v.catchAll = true) :
    ¬v.display <:+: openRest (parse raw).text ∧
      (v.content ∈ tokens (parse raw).text →
        (parse raw).variableOfToken? v.name = (parse raw).variableOfToken? v.key) := by
  have hvars := isFlatCatchAll_of_mem_catchAlls hflat htrim
  have hmemv : v ∈ (parse raw).catchAlls := List.mem_filter.mpr ⟨hv, hcatch⟩
  obtain ⟨cut, hmem, hexpand⟩ := exists_expand_eq hflat htrim
  obtain ⟨w, hw⟩ := exists_variableOfToken? hv (.inr rfl)
  obtain ⟨u, hu⟩ := exists_variableOfToken? hv (.inl rfl)
  -- one character for the variable that the name leads to, another one for all others
  let mark (key : Text) : Text := [if key = w.key then 'a' else 'b']
  obtain ⟨hbefore, hagain⟩ := hexpand fun key => some (.text (mark key))
  have heq := h (fun key => some (.text (mark key))) fun v _ _ => ⟨_, rfl⟩
  rw [hbefore, hagain] at heq
  have htoken : ∀ content, (parse raw).substitute (fun key => some (.text (mark key)))
      (.token content) = mark ((parse raw).tokenKey content) := fun content => by
    rw [substitute_token]
  have hlength : ∀ chunk ∈ cut,
      ((parse raw).substitute (fun key => some (.text (mark key))) chunk).length =
        ((parse raw).substitute (fun key => some (.text (mark key)))
          (storeAll (parse raw).catchAlls chunk)).length := by
    intro chunk _
    by_cases hstored : ∃ v ∈ (parse raw).catchAlls, chunk = .token v.content
    · obtain ⟨v, hv, rfl⟩ := hstored
      rw [storeAll_content hvars hv, htoken, htoken]
      rfl
    · rw [storeAll_of_ne fun v hv htoken => hstored ⟨v, hv, htoken⟩]
  obtain ⟨hsame, hrest⟩ := eq_of_flatMap_append_eq hlength heq
  refine ⟨(storeInside_eq_self_iff hvars).mp hrest.symm v hmemv, fun hcontent => ?_⟩
  have hmark := hsame _ ((hmem v.content).mp hcontent)
  rw [storeAll_content hvars hmemv, htoken, htoken, tokenKey, tokenKey,
    (hvars v hmemv).tokenName_content hcatch, (hvars v hmemv).tokenName_key hcatch, hw, hu] at hmark
  have hkey : u.key = w.key := by
    by_contra hne
    simp [mark, hne] at hmark
  rw [hw, hu, eq_of_key_eq (mem_vars_of_variableOfToken? hu) (mem_vars_of_variableOfToken? hw) hkey]

end

/-- **Reading a mapping again.** The names of its variables are different from each other. If no
token has braces inside and no catch-all has blanks at the ends of its name, reading the stored text
finds the same variables. The expansions with a value for each catch-all are the same, too, if and
only if the text has no token of a catch-all inside an expression that is not closed, and no token
of a catch-all whose name and key lead to different variables. -/
theorem expand_parse_text_iff (hflat : IsFlat raw)
    (htrim : ∀ v ∈ (parse raw).vars, v.catchAll = true → Text.trim v.name = v.name) :
    ((parse raw).vars.map Variable.name).Nodup ∧
      (parse (parse raw).text).vars = (parse raw).vars ∧
      ((∀ value? : Text → Option Substitution,
          (∀ v ∈ (parse raw).vars, v.catchAll = true → ∃ text, value? v.key = some (.text text)) →
          (parse raw).expand value? = (parse (parse raw).text).expand value?) ↔
        ∀ v ∈ (parse raw).vars, v.catchAll = true →
          ¬v.display <:+: openRest (parse raw).text ∧
          (v.content ∈ tokens (parse raw).text →
            (parse raw).variableOfToken? v.name = (parse raw).variableOfToken? v.key)) :=
  ⟨nodup_map_name_firstOfEachName _, vars_parse_text hflat htrim,
    fun h _ => of_expand_eq_expand_parse_text hflat htrim h,
    fun h _ => expand_eq_expand_parse_text hflat htrim h⟩

/-- A catch-all that is left without a slash is stored only when the text is read again, and both
texts are expanded alike. -/
theorem expand_parse_text_iff_twice :
    (parse "/{*n}x{*n}".toList).text = "{__composite-n__}x{*n}".toList ∧
      ∀ text, (parse "/{*n}x{*n}".toList).expand (fun _ => some (.text text)) =
        (parse (parse "/{*n}x{*n}".toList).text).expand fun _ => some (.text text) := by
  have htokens : tokens "/{*n}x{*n}".toList = ["*n".toList, "*n".toList] := by cbv
  have hparse : parse "/{*n}x{*n}".toList =
      ⟨"{__composite-n__}x{*n}".toList, [⟨"n".toList, true⟩]⟩ := by cbv
  have hflat : IsFlat "/{*n}x{*n}".toList := by
    rw [IsFlat, htokens]
    decide
  have htrim : ∀ v ∈ (parse "/{*n}x{*n}".toList).vars, v.catchAll = true →
      Text.trim v.name = v.name := by
    rw [hparse]
    decide
  have hrest : openRest "{__composite-n__}x{*n}".toList = [] := by cbv
  have hstored : tokens "{__composite-n__}x{*n}".toList =
      ["__composite-n__".toList, "*n".toList] := by cbv
  refine ⟨congrArg text hparse, fun text => ?_⟩
  refine (expand_parse_text_iff hflat htrim).2.2.mpr ?_ _ fun v _ _ => ⟨text, rfl⟩
  rw [hparse]
  simp only [hrest, hstored]
  decide

/-- Reading again stores what is no token, inside an expression that is not closed. -/
theorem expand_parse_text_ne :
    (∀ content ∈ tokens "/{*n}/\x7bx{*n}".toList, '{' ∉ content ∧ '}' ∉ content) ∧
      (parse "/{*n}/\x7bx{*n}".toList).expand (fun _ => some (.text "/a".toList)) ≠
        (parse (parse "/{*n}/\x7bx{*n}".toList).text).expand
          fun _ => some (.text "/a".toList) := by
  have htokens : tokens "/{*n}/\x7bx{*n}".toList = ["*n".toList] := by cbv
  have hbefore : (parse "/{*n}/\x7bx{*n}".toList).expand (fun _ => some (.text "/a".toList)) =
      "/a/\x7bx{*n}".toList := by cbv
  have hagain : (parse (parse "/{*n}/\x7bx{*n}".toList).text).expand
      (fun _ => some (.text "/a".toList)) = "/a/\x7bx{__composite-n__}".toList := by cbv
  rw [htokens, hbefore, hagain]
  decide

end Signpost.Mapping
