import Signpost.Proofs.Mapping.Stripping

/-!
# Variables of a mapping made of two fragments

A clean-up counts the braces that a reader of tokens counts. It leaves out slashes, which stand
outside all tokens, and constraints, which stand behind the names in them. Hence it changes nothing
that a text declares, as long as each token has a name: one that has none is nothing but a
constraint and may be left out as a whole. If the fragment of a handler leaves no brace open, its
tokens end in front of the fragment of a method, and the variables of the mapping are those of the
handler followed by those of the method.

## Main definitions

* `Mapping.IsNamed`: a text all of whose tokens have a name.

## Main results

* `Mapping.declared_clean`: a clean-up does not change what a text declares.
* `Mapping.vars_ofFragments`: the variables of a mapping made of two fragments.
-/

namespace Signpost.Mapping

/-- No token of the text has an empty name. -/
def IsNamed (text : Text) : Prop :=
  ∀ content ∈ tokens text, tokenName content ≠ []

variable {c : Char} {base fragment text content rest : Text}

/-! ### Texts with names -/

theorem isNamed_cons_iff (hopen : c ≠ '{') : IsNamed (c :: rest) ↔ IsNamed rest := by
  rw [IsNamed, IsNamed, tokens_cons hopen]

theorem isNamed_expression_iff (h : Text.IsEnclosed content) :
    IsNamed ('{' :: (content ++ '}' :: rest)) ↔
      (content ≠ [] → tokenName content ≠ []) ∧ IsNamed rest := by
  rw [IsNamed, IsNamed, tokens_expression h]
  by_cases hempty : content = []
  · rw [if_pos hempty]
    exact (and_iff_right fun hne => absurd hempty hne).symm
  · rw [if_neg hempty, List.forall_mem_cons, forall_prop_of_true hempty]

theorem isNamed_append_iff (h : Text.depthFrom 0 text = 0) :
    IsNamed (text ++ rest) ↔ IsNamed text ∧ IsNamed rest := by
  rw [IsNamed, tokens_append h, List.forall_mem_append]
  exact Iff.rfl

/-- A token with a name does not consist of a constraint alone. -/
theorem withoutConstraint_eq_nil_iff (h : content ≠ [] → tokenName content ≠ []) :
    withoutConstraint content = [] ↔ content = [] := by
  constructor
  · intro hnil
    by_contra hne
    refine h hne ?_
    rw [← tokenName_withoutConstraint, hnil]
    rfl
  · rintro rfl
    rfl

/-! ### Cleaning up -/

/-- What is left of an expression declares what the expression declares. -/
theorem declared_expression_congr {inner after : Text} (hcontent : Text.IsEnclosed content)
    (hinner : Text.IsEnclosed inner) (hempty : inner = [] ↔ content = [])
    (hsame : tokenVariable inner = tokenVariable content) (hrest : declared after = declared rest) :
    declared ('{' :: (inner ++ '}' :: after)) = declared ('{' :: (content ++ '}' :: rest)) := by
  rw [declared, tokens_expression hinner, declared, tokens_expression hcontent]
  simp only [hempty]
  split
  · exact hrest
  · rw [List.map_cons, List.map_cons, hsame]
    exact congrArg _ hrest

/-- Outside all braces a clean-up changes nothing that is declared. -/
theorem declared_cleanFrom (h : IsNamed text) (last : Option Char) :
    declared (cleanFrom { last } text) = declared text := by
  fun_induction chunks text generalizing last with
  | case1 => rfl
  | case2 rest content after hsome hshort ih =>
    have hcontent := Text.isEnclosed_of_closeBrace? hsome
    obtain rfl := Text.eq_append_of_closeBrace? hsome
    rw [isNamed_expression_iff hcontent] at h
    have hafter := ih h.2 (some '}')
    by_cases hlast : last = some '$'
    · rw [hlast, cleanFrom_placeholder hcontent]
      exact declared_expression_congr hcontent hcontent Iff.rfl rfl hafter
    · rw [cleanFrom_expression hcontent hlast]
      exact declared_expression_congr hcontent (IsEnclosed.withoutConstraint hcontent)
        (withoutConstraint_eq_nil_iff h.1) (tokenVariable_withoutConstraint content) hafter
  | case3 rest hnone =>
    -- what is put out of an expression that is not closed does not close it
    have hrest := Text.closeBrace?_eq_none_iff.mp hnone
    rw [cleanFrom_of_kept (Cleaner.step_open last), declared, declared,
      tokens_of_isOpen (.inr ⟨_, rfl, staysOpen_cleanFrom rfl hrest⟩),
      tokens_of_isOpen (.inr ⟨_, rfl, hrest⟩)]
  | case4 c rest hopen ih =>
    have hrest := ih ((isNamed_cons_iff hopen).mp h)
    rw [cleanFrom_literal hopen, declared, declared, tokens_cons hopen]
    split
    · exact hrest last
    · rw [tokens_cons hopen]
      exact hrest (some c)

/-- A slash at the end declares nothing. -/
theorem declared_concat_slash (text : Text) : declared (text ++ ['/']) = declared text := by
  obtain ⟨cut, hcut, hopen, htext⟩ := exists_isClosed text
  have hdepth := depthFrom_flatMap_render hcut
  have hslash : tokens (openRest text ++ ['/']) = tokens (openRest text) := by
    rcases hopen with hnil | ⟨inside, hinside, hstays⟩
    · rw [hnil, List.nil_append, tokens_cons (by decide)]
    · have hlonger : Text.StaysOpen 1 (inside ++ ['/']) := by
        have hpos := hstays inside (List.prefix_refl inside)
        refine Text.StaysOpen.append_iff.mpr ⟨hstays, Text.staysOpen_cons.mpr ⟨hpos, ?_⟩⟩
        rwa [Text.depthAfter_of_ne (by decide) (by decide), Text.staysOpen_nil]
      rw [hinside, List.cons_append, tokens_of_isOpen (.inr ⟨_, rfl, hlonger⟩),
        tokens_of_isOpen (.inr ⟨_, rfl, hstays⟩)]
  rw [declared, declared]
  conv_lhs => rw [htext, List.append_assoc, tokens_append hdepth, hslash, ← tokens_append hdepth,
    ← htext]

/-- **A clean-up does not change what a text declares** if all its tokens have names. -/
theorem declared_clean (h : IsNamed text) : declared (clean text) = declared text := by
  rw [clean, apply_dropEndSlashes declared_concat_slash]
  exact declared_cleanFrom h none

/-! ### Two fragments -/

theorem ofFragments_eq_clean (base : Text) (hfragment : fragment ≠ []) :
    ofFragments (some base) (some fragment) =
      some (clean (if base = ['/'] then fragment else base ++ '/' :: fragment)) := by
  rw [ofFragments]
  exact hfragment

theorem tokens_slash : tokens ['/'] = [] := by
  rw [tokens_cons (by decide), tokens_of_isOpen isOpen_nil]

/-- What a mapping made of two fragments declares. -/
theorem declared_clean_join (hbase : Text.depthFrom 0 base = 0) (hnamed : IsNamed base)
    (hnamed' : IsNamed fragment) :
    declared (clean (if base = ['/'] then fragment else base ++ '/' :: fragment)) =
      declared base ++ declared fragment := by
  by_cases hslash : base = ['/']
  · rw [if_pos hslash, declared_clean hnamed', declared, declared, hslash, tokens_slash]
    rfl
  · have hnext : IsNamed ('/' :: fragment) := (isNamed_cons_iff (by decide)).mpr hnamed'
    rw [if_neg hslash, declared_clean ((isNamed_append_iff hbase).mpr ⟨hnamed, hnext⟩), declared,
      tokens_append hbase, tokens_cons (by decide), List.map_append]
    rfl

/-- **The variables of a mapping made of two fragments** are those of the fragment of the handler
and, behind them, those of the fragment of the method under other names. For this the fragment of
the handler has to leave no brace open, and no token may have an empty name. -/
theorem vars_ofFragments (hbase : Text.depthFrom 0 base = 0) (hfragment : fragment ≠ [])
    (hnamed : IsNamed base) (hnamed' : IsNamed fragment) :
    ∃ raw, ofFragments (some base) (some fragment) = some raw ∧
      (parse raw).vars = (parse base).vars ++
        (parse fragment).vars.filter (·.name ∉ (parse base).vars.map Variable.name) := by
  refine ⟨_, ofFragments_eq_clean base hfragment, ?_⟩
  have hdeclared := declared_clean_join hbase hnamed hnamed'
  exact (congrArg firstOfEachName hdeclared).trans
    (firstOfEachName_append (declared base) (declared fragment))

/-- A placeholder, constraints, a name that both fragments have and an expression that is not
closed. -/
theorem vars_ofFragments_area :
    (Text.depthFrom 0 "/${area:x}/{id:[0-9]{3}}".toList = 0 ∧ "{*path:.*}/{id}/\x7bx".toList ≠ [] ∧
      IsNamed "/${area:x}/{id:[0-9]{3}}".toList ∧ IsNamed "{*path:.*}/{id}/\x7bx".toList) ∧
      ofFragments (some "/${area:x}/{id:[0-9]{3}}".toList) (some "{*path:.*}/{id}/\x7bx".toList) =
        some "/${area:x}/{id}/{*path}/{id}/\x7bx".toList ∧
      (parse "/${area:x}/{id}/{*path}/{id}/\x7bx".toList).vars =
        [⟨"area".toList, false⟩, ⟨"id".toList, false⟩, ⟨"path".toList, true⟩] := by
  have hbase : tokens "/${area:x}/{id:[0-9]{3}}".toList =
      ["area:x".toList, "id:[0-9]{3}".toList] := by cbv
  have hfragment : tokens "{*path:.*}/{id}/\x7bx".toList = ["*path:.*".toList, "id".toList] := by
    cbv
  have hnamed : IsNamed "/${area:x}/{id:[0-9]{3}}".toList := by
    rw [IsNamed, hbase]
    decide
  have hnamed' : IsNamed "{*path:.*}/{id}/\x7bx".toList := by
    rw [IsNamed, hfragment]
    decide
  have hmade : ofFragments (some "/${area:x}/{id:[0-9]{3}}".toList)
      (some "{*path:.*}/{id}/\x7bx".toList) =
        some "/${area:x}/{id}/{*path}/{id}/\x7bx".toList := by cbv
  have hvars : (parse "/${area:x}/{id:[0-9]{3}}".toList).vars =
      [⟨"area".toList, false⟩, ⟨"id".toList, false⟩] := by cbv
  have hvars' : (parse "{*path:.*}/{id}/\x7bx".toList).vars =
      [⟨"path".toList, true⟩, ⟨"id".toList, false⟩] := by cbv
  obtain ⟨raw, hraw, hall⟩ := vars_ofFragments (by decide) (by decide) hnamed hnamed'
  refine ⟨⟨by decide, by decide, hnamed, hnamed'⟩, hmade, ?_⟩
  rw [Option.some_inj.mp (hmade.symm.trans hraw), hall, hvars, hvars']
  decide

end Signpost.Mapping
