import Signpost.Proofs.Mapping.StoringTokens

/-!
# Tokens of a stored mapping

The variables of a mapping keep their tokens while its catch-alls are stored one after the other,
except for names in which a token of a catch-all is written out and catch-alls whose names, trimmed
or stored, are those of others. No name comes up that has nothing to do with those of the variables.

## Main definitions

* `Mapping.IsTraceable`: a variable that keeps its token.
* `Mapping.IsNameOf`: a name that has to do with one of the variables.

## Main results

* `Mapping.IsTraceable.exists_token`: the stored mapping has a token of the variable.
* `Mapping.isNameOf_of_mem_tokens`: the names in the tokens of the stored mapping.
-/

namespace Signpost

namespace Text

/-- What neither begins nor ends with a blank is left inside a text without the blanks around it. -/
theorem infix_trim {part text : Text} {c d : Char} (hfirst : part.head? = some c)
    (hc : Character.isBlank c = false) (hlast : part.getLast? = some d)
    (hd : Character.isBlank d = false) (h : part <:+: text) : part <:+: trim text := by
  have hnot {other : Text} {e : Char} (he : Character.isBlank e = false) :
      e ∉ other.takeWhile Character.isBlank := fun hmem => by
    simpa [he] using List.mem_takeWhile_imp hmem
  have hstart : part <:+: text.trimStart := by
    rw [← List.takeWhile_append_dropWhile (p := Character.isBlank) (l := text)] at h
    exact infix_of_infix_append_left hfirst (hnot hc) h
  rw [← List.reverse_infix, ← List.takeWhile_append_dropWhile (p := Character.isBlank)
    (l := text.trimStart.reverse)] at hstart
  rw [trim, trimEnd, dropEndWhile, ← List.reverse_infix, List.reverse_reverse]
  exact infix_of_infix_append_left (List.head?_reverse.trans hlast) (hnot hd) hstart

end Text

namespace Mapping

variable {v w : Variable} {vars : List Variable} {raw content stored : Text}

theorem exists_mem_of_forall₂ {r : Text → Text → Prop} {contents others : List Text}
    (h : List.Forall₂ r contents others) (hmem : content ∈ contents) :
    ∃ other ∈ others, r content other := by
  induction h with
  | nil => exact absurd hmem List.not_mem_nil
  | cons hfirst _ ih =>
    rcases List.mem_cons.mp hmem with rfl | hlater
    · exact ⟨_, List.mem_cons_self, hfirst⟩
    · obtain ⟨other, hother, hrelated⟩ := ih hlater
      exact ⟨other, List.mem_cons_of_mem _ hother, hrelated⟩

/-! ### Variables that keep their tokens -/

/-- No token of a catch-all is inside the part of a token that its name is read from. -/
def IsOwnName (vars : List Variable) (content : Text) : Prop :=
  ∀ w ∈ vars, ¬w.display <:+: '{' :: declaration content

/-- The variable keeps its token while catch-alls are stored: the name of the token that declares it
has no token of a catch-all inside, and if the variable is a catch-all, then neither its name nor its
stored name is that of another one. -/
structure IsTraceable (raw : Text) (v : Variable) : Prop where
  mem : v ∈ (parse raw).vars
  token : ∃ content ∈ tokens raw, tokenVariable content = v ∧
    IsOwnName (parse raw).catchAlls content
  apart : v.catchAll = true → ∀ u ∈ (parse raw).vars, u ≠ v →
    Text.trim u.name ≠ v.name ∧ u.name ≠ v.key ∧ u.key ≠ v.name

theorem tokenName_of_tokenVariable (h : tokenVariable content = v) :
    tokenName content = v.name ∨ tokenName content = v.key := by
  subst h
  rw [tokenVariable]
  split
  · exact .inl rfl
  · split
    · rename_i inner hinner
      exact .inr (catchAllName?_eq_some_iff.mp hinner)
    · exact .inl rfl

/-- The stored token of a catch-all has no token of another one in its name if its own has none. -/
theorem IsOwnName.key (h : IsOwnName vars w.content) (hw : w.IsDeclaredCatchAll)
    (hvars : ∀ u ∈ vars, u.catchAll = true) : IsOwnName vars w.key := by
  intro u hu hinside
  have hcolon : ':' ∉ w.content ∧ ':' ∉ w.key := by
    have hmarks : ':' ∉ Variable.catchAllLead ∧ ':' ∉ Variable.catchAllTail := by decide
    rw [Variable.content_of_catchAll hw.catchAll, Variable.key_of_catchAll hw.catchAll]
    exact ⟨by simp [hw.colon], by simp [hmarks, hw.colon]⟩
  rw [declaration_of_notMem hcolon.2] at hinside
  refine h u hu ?_
  rw [declaration_of_notMem hcolon.1]
  exact (Variable.display_infix_content_of_infix_key hw.catchAll (hvars u hu) hinside).trans
    (List.suffix_cons _ _).isInfix

namespace IsTraceable

variable (h : IsTraceable raw v)

include h

/-- What becomes of a token of the variable is a token of the variable. -/
theorem tokenVariable_of_becomes (hw : w ∈ (parse raw).catchAlls)
    (hbecomes : Becomes w content stored) (hcontent : tokenVariable content = v)
    (hown : IsOwnName (parse raw).catchAlls content) :
    tokenVariable stored = v ∧ IsOwnName (parse raw).catchAlls stored := by
  cases hbecomes with
  | stored =>
    have hdeclared := isDeclaredCatchAll_of_mem_catchAlls hw
    have hname : tokenVariable w.content = ⟨Text.trim w.name, true⟩ := by
      rw [Variable.content_of_catchAll hdeclared.catchAll, tokenVariable, tokenName_star_cons,
        Text.takeWhile_ne_of_notMem hdeclared.colon]
      rfl
    rw [hname] at hcontent
    obtain rfl : w = v := by
      by_contra hne
      refine (h.apart (hcontent ▸ rfl) w (List.mem_filter.mp hw).1 hne).1 ?_
      rw [← hcontent]
    have hbare : w.IsBare := ⟨hdeclared.colon, congrArg Variable.name hcontent⟩
    exact ⟨hbare.tokenVariable_key hdeclared.catchAll,
      hown.key hdeclared fun u hu => (List.mem_filter.mp hu).2⟩
  | kept hsame =>
    refine ⟨(tokenVariable_congr hsame).trans hcontent, ?_⟩
    rw [IsOwnName, hsame]
    exact hown
  | inside hold => exact absurd hold (hown w hw)

theorem exists_tokenVariable :
    ∃ content ∈ tokens (parse raw).text, tokenVariable content = v := by
  obtain ⟨content, hcontent, hv, -⟩ := List.foldlRecOn (parse raw).catchAlls storeCatchAll
    (motive := fun text => ∃ content ∈ tokens text, tokenVariable content = v ∧
      IsOwnName (parse raw).catchAlls content) h.token <| by
    rintro text ⟨content, hcontent, hv, hown⟩ w hw
    obtain ⟨stored, hstored, hbecomes⟩ := exists_mem_of_forall₂
      (forall₂_tokens_storeCatchAll (isDeclaredCatchAll_of_mem_catchAlls hw) text) hcontent
    exact ⟨stored, hstored, h.tokenVariable_of_becomes hw hbecomes hv hown⟩
  exact ⟨content, hcontent, hv⟩

/-- A token of the variable is looked up as one. -/
theorem variableOfToken? (hcontent : tokenVariable content = v) :
    (parse raw).variableOfToken? (tokenName content) = some v := by
  have hname := tokenName_of_tokenVariable hcontent
  have hself : v.key = tokenName content ∨ v.name = tokenName content :=
    hname.symm.imp Eq.symm Eq.symm
  refine find?_eq_some_of_unique h.mem (by simpa using hself) fun u hu hfound => ?_
  have hfound : u.key = tokenName content ∨ u.name = tokenName content := by simpa using hfound
  cases hcatch : v.catchAll with
  | false =>
    have hkey : v.key = v.name := by rw [Variable.key, hcatch, if_neg (by decide)]
    rw [hkey, or_self] at hname
    rw [hname] at hfound
    exact hfound.elim (eq_of_key_eq_name h.mem hcatch) (eq_of_name_eq hu h.mem)
  | true =>
    by_contra hne
    obtain ⟨-, hstored, hplain⟩ := h.apart hcatch u hu hne
    rcases hname with hname | hname
    · rw [hname] at hfound
      exact hfound.elim hplain fun hsame => hne (eq_of_name_eq hu h.mem hsame)
    · rw [hname] at hfound
      exact hfound.elim (fun hsame => hne (eq_of_key_eq hu h.mem hsame)) hstored

/-- **The stored mapping has a token of the variable.** -/
theorem exists_token : ∃ content ∈ tokens (parse raw).text,
    (parse raw).variableOfToken? (tokenName content) = some v := by
  obtain ⟨content, hcontent, hv⟩ := h.exists_tokenVariable
  exact ⟨content, hcontent, h.variableOfToken? hv⟩

end IsTraceable

/-! ### Names that come up -/

/-- The name under which a catch-all of a given name is stored. -/
def storedName (name : Text) : Text :=
  Variable.catchAllLead ++ name ++ Variable.catchAllTail

theorem storedName_infix_tokenName {name : Text} (h : storedName name <:+: declaration content) :
    storedName name <:+: tokenName content := by
  have hhead : (storedName name).head? = some '_' := rfl
  have hlast : (storedName name).getLast? = some '_' := by
    rw [storedName, List.getLast?_append]
    rfl
  by_cases hstar : content.head? = some '*'
  · obtain ⟨rest, rfl⟩ := List.head?_eq_some_iff.mp hstar
    rw [declaration, List.takeWhile_cons_of_pos (by decide), ← List.singleton_append] at h
    have hrest := Text.infix_of_infix_append_left hhead (by decide) h
    exact Text.infix_trim hhead (by decide) hlast (by decide) hrest
  · rw [tokenName_of_head?_ne hstar]
    exact Text.infix_trim hhead (by decide) hlast (by decide) h

/-- The text is the name of one of the variables, or the name under which one that is a catch-all is
stored is inside it. -/
def IsNameOf (vars : List Variable) (name : Text) : Prop :=
  ∃ v ∈ vars, name = v.name ∨ storedName v.name <:+: name

theorem isNameOf_of_becomes (hw : w ∈ (parse raw).catchAlls) (hbecomes : Becomes w content stored)
    (hcontent : IsNameOf (parse raw).vars (tokenName content)) :
    IsNameOf (parse raw).vars (tokenName stored) := by
  have hdeclared := isDeclaredCatchAll_of_mem_catchAlls hw
  have hkey : w.key = storedName w.name := Variable.key_of_catchAll hdeclared.catchAll
  have hinside {stored : Text} (h : w.key <:+: declaration stored) :
      IsNameOf (parse raw).vars (tokenName stored) :=
    ⟨w, (List.mem_filter.mp hw).1, .inr (storedName_infix_tokenName (hkey ▸ h))⟩
  cases hbecomes with
  | stored =>
    refine hinside ?_
    have hmarks : ':' ∉ Variable.catchAllLead ∧ ':' ∉ Variable.catchAllTail := by decide
    rw [declaration_of_notMem (by simp [hkey, storedName, hmarks, hdeclared.colon])]
  | kept hsame => rwa [← tokenName_declaration stored, hsame, tokenName_declaration]
  | inside _ hnew => exact hinside hnew

/-- **The names of the stored mapping** are those of its variables, or hold one that is stored. -/
theorem isNameOf_of_mem_tokens (hcontent : content ∈ tokens (parse raw).text) :
    IsNameOf (parse raw).vars (tokenName content) := by
  refine List.foldlRecOn (parse raw).catchAlls storeCatchAll (motive := fun text =>
    ∀ content ∈ tokens text, IsNameOf (parse raw).vars (tokenName content)) ?_ ?_ content hcontent
  · intro content hcontent
    obtain ⟨u, hu, hname⟩ := exists_mem_firstOfEachName (List.mem_map_of_mem hcontent)
    refine ⟨u, hu, ?_⟩
    rw [hname]
    rcases tokenName_of_tokenVariable rfl with hplain | hkey
    · exact .inl hplain
    · rw [hkey, Variable.key]
      split
      · exact .inr (List.infix_refl _)
      · exact .inl rfl
  · intro text htext w hw stored hstored
    obtain ⟨content, hcontent, hbecomes⟩ := exists_mem_of_forall₂
      (forall₂_tokens_storeCatchAll (isDeclaredCatchAll_of_mem_catchAlls hw) text).flip hstored
    exact isNameOf_of_becomes hw hbecomes (htext content hcontent)

/-- A name that has nothing to do with the variables is looked up by no token. -/
theorem tokenKey_ne {name : Text} (h : ¬IsNameOf (parse raw).vars name)
    (hcontent : content ∈ tokens (parse raw).text) : (parse raw).tokenKey content ≠ name := by
  rintro rfl
  rw [tokenKey] at h
  cases hfind : (parse raw).variableOfToken? (tokenName content) with
  | none =>
    rw [hfind] at h
    exact h (isNameOf_of_mem_tokens hcontent)
  | some u =>
    rw [hfind] at h
    refine h ⟨u, mem_vars_of_variableOfToken? hfind, ?_⟩
    rw [Option.map_some, Option.getD_some, Variable.key]
    split
    · exact .inr (List.infix_refl _)
    · exact .inl rfl

end Mapping

end Signpost
