import Signpost.Proofs.Mapping.StoringInTurn

/-!
# Storing catch-alls token by token

Storing a catch-all goes through any text from token to token: each has one that it becomes. A token
of the catch-all becomes its stored token or stays, and in any other one the part that a name is read
from stays, unless a token of the catch-all is inside it.

## Main definitions

* `Mapping.Variable.IsDeclaredCatchAll`: a catch-all that a token declares.
* `Mapping.declaration`: the part of a token that a name is read from.
* `Mapping.Becomes`: what becomes of a token when a catch-all is stored.

## Main results

* `Mapping.tokenVariable_congr`: a constraint has no part in what a token declares.
* `Mapping.forall₂_tokens_storeCatchAll`: storing a catch-all, token by token.
-/

namespace Signpost

namespace Text

/-- Replacing a pattern by a text with the same braces changes no braces. -/
theorem braces_replaceAll {pattern new : Text} (hpattern : pattern ≠ [])
    (h : braces new = braces pattern) (text : Text) :
    braces (replaceAll pattern new text) = braces text := by
  refine replaceAll_induction (motive := fun text replaced => braces replaced = braces text)
    hpattern rfl ?_ ?_ text
  · intro rest ih
    rw [braces_append, braces_append, h, ih]
  · intro c rest _ ih
    rw [← List.singleton_append, braces_append, ih, ← braces_append, List.singleton_append]

end Text

namespace Mapping

variable {v w : Variable} {vars : List Variable} {raw text content stored slash lead after : Text}

/-! ### Catch-alls -/

/-- The variable is a catch-all whose name has no colon and closes no brace that is open around its
token. -/
structure Variable.IsDeclaredCatchAll (v : Variable) : Prop where
  catchAll : v.catchAll = true
  colon : ':' ∉ v.name
  staysOpen : Text.StaysOpen 1 v.content

theorem Variable.IsDeclaredCatchAll.content_ne_nil (h : w.IsDeclaredCatchAll) : w.content ≠ [] := by
  rw [content_of_catchAll h.catchAll]
  exact List.cons_ne_nil _ _

theorem isEnclosed_of_mem_tokens (h : content ∈ tokens text) :
    content ≠ [] ∧ Text.IsEnclosed content := by
  obtain ⟨cut, hcut, hopen, htext⟩ := exists_isClosed text
  rw [htext, mem_tokens_append_iff hcut hopen] at h
  cases hcut _ h with
  | token _ hne henclosed => exact ⟨hne, henclosed⟩

theorem isDeclaredCatchAll_of_mem_catchAlls (hw : w ∈ (parse raw).catchAlls) :
    w.IsDeclaredCatchAll := by
  obtain ⟨hmem, hcatch⟩ := List.mem_filter.mp hw
  obtain ⟨content, hcontent, rfl⟩ := exists_token_of_mem_vars hmem
  refine ⟨hcatch, colon_notMem_tokenVariable content, ?_⟩
  rw [Variable.content_of_catchAll hcatch, Text.staysOpen_cons]
  exact ⟨Nat.one_pos, staysOpen_tokenVariable (isEnclosed_of_mem_tokens hcontent).2.staysOpen⟩

/-! ### The part that a name is read from -/

/-- What stands in a token in front of its constraint. -/
def declaration (content : Text) : Text :=
  content.takeWhile (· ≠ ':')

theorem declaration_of_notMem (h : ':' ∉ content) : declaration content = content :=
  Text.takeWhile_ne_of_notMem h

theorem head?_declaration (content : Text) :
    (declaration content).head? = some '*' ↔ content.head? = some '*' := by
  cases content with
  | nil => rfl
  | cons c content =>
    rw [declaration, List.takeWhile_cons]
    by_cases hc : c = ':'
    · simp [hc]
    · simp [hc]

theorem tokenName_declaration (content : Text) :
    tokenName (declaration content) = tokenName content := by
  have hcolon (text : Text) : ':' ∉ text.takeWhile (· ≠ ':') := fun h => by
    simpa using List.mem_takeWhile_imp h
  by_cases hstar : content.head? = some '*'
  · obtain ⟨rest, rfl⟩ := List.head?_eq_some_iff.mp hstar
    rw [declaration, List.takeWhile_cons_of_pos (by decide), tokenName_star_cons,
      tokenName_star_cons, Text.takeWhile_ne_of_notMem (hcolon rest)]
  · rw [tokenName_of_head?_ne hstar, tokenName_of_head?_ne (mt (head?_declaration content).mp hstar),
      declaration, Text.takeWhile_ne_of_notMem (hcolon content)]

/-- Tokens that differ in their constraints alone declare the same variable. -/
theorem tokenVariable_congr (h : declaration stored = declaration content) :
    tokenVariable stored = tokenVariable content := by
  have hname : tokenName stored = tokenName content := by
    rw [← tokenName_declaration stored, h, tokenName_declaration]
  have hstar : stored.head? = some '*' ↔ content.head? = some '*' := by
    rw [← head?_declaration stored, h, head?_declaration]
  rw [tokenVariable, tokenVariable, hname]
  simp only [hstar]

/-! ### What becomes of a token -/

/-- What becomes of the content of a token when the catch-all `w` is stored: it is stored itself,
or its name stays, or a token of the catch-all is stored inside the name. -/
inductive Becomes (w : Variable) : Text → Text → Prop
  | stored : Becomes w w.content w.key
  | kept {content stored : Text} (h : declaration stored = declaration content) :
    Becomes w content stored
  | inside {content stored : Text} (hold : w.display <:+: '{' :: declaration content)
    (hnew : w.key <:+: declaration stored) : Becomes w content stored

/-- The text with the tokens of a catch-all that stand behind `slash` in stored form. -/
def storeBehind (w : Variable) (slash text : Text) : Text :=
  Text.replaceAll (slash ++ w.display) (Chunk.token w.key).render text

theorem exists_slash_of_storeCatchAll (text : Text) (w : Variable) :
    ∃ slash, (slash = [] ∨ slash = ['/']) ∧ storeCatchAll text w = storeBehind w slash text := by
  rw [storeCatchAll]
  split
  · exact ⟨['/'], .inr rfl, rfl⟩
  · exact ⟨[], .inl rfl, rfl⟩

theorem slash_append_display_ne_nil (w : Variable) (slash : Text) : slash ++ w.display ≠ [] :=
  List.append_ne_nil_of_right_ne_nil slash w.display_ne_nil

namespace Variable.IsDeclaredCatchAll

variable (h : w.IsDeclaredCatchAll) (hslash : slash = [] ∨ slash = ['/'])

include h hslash

theorem braces_render_key :
    Text.braces (Chunk.token w.key).render = Text.braces (slash ++ w.display) := by
  have hnone : Text.braces slash = [] ∧ Text.braces catchAllLead = [] ∧
      Text.braces catchAllTail = [] := by
    rcases hslash with rfl | rfl <;> decide
  have hopen (text : Text) : Text.braces ('{' :: text) = '{' :: Text.braces text := rfl
  have hstar : Text.braces ('*' :: w.name) = Text.braces w.name := rfl
  rw [w.display_eq, Chunk.render, key_of_catchAll h.catchAll, content_of_catchAll h.catchAll]
  simp only [Text.braces_append, hopen, hstar, hnone, List.nil_append, List.append_nil]

theorem colon_notMem : ':' ∉ slash ++ w.display ∧ ':' ∉ (Chunk.token w.key).render := by
  have hmarks : ':' ∉ slash ∧ ':' ∉ catchAllLead ∧ ':' ∉ catchAllTail := by
    rcases hslash with rfl | rfl <;> decide
  rw [w.display_eq, Chunk.render, key_of_catchAll h.catchAll, content_of_catchAll h.catchAll]
  exact ⟨by simp [hmarks, h.colon], by simp [hmarks, h.colon]⟩

theorem braces_storeBehind (text : Text) : Text.braces (storeBehind w slash text) =
    Text.braces text :=
  Text.braces_replaceAll (slash_append_display_ne_nil w slash) (h.braces_render_key hslash) text

end Variable.IsDeclaredCatchAll

/-- A slash in front of an expression makes no difference to where the ends of it begin. -/
theorem suffix_of_slash_append (hslash : slash = [] ∨ slash = ['/'])
    (hlead : lead = [] ∨ lead = slash) {start : Text}
    (hstart : slash ++ start <:+ lead ++ '{' :: content) : start <:+ '{' :: content := by
  have hwithin : slash ++ start <:+ '{' :: content → start <:+ '{' :: content :=
    (List.suffix_append slash start).trans
  rcases hlead with rfl | rfl
  · exact hwithin hstart
  · rcases hslash with rfl | rfl
    · exact hstart
    · rcases List.suffix_cons_iff.mp hstart with heq | hinside
      · obtain rfl : start = '{' :: content := (List.cons.inj heq).2
        exact List.suffix_refl _
      · exact hwithin hinside

section

variable (h : w.IsDeclaredCatchAll) (hslash : slash = [] ∨ slash = ['/'])
  (hlead : lead = [] ∨ lead = slash)

include h hslash hlead

/-- The part of a token that its name is read from is told from the same part of the token before. -/
theorem becomes_of_storeBehind
    (heq : storeBehind w slash (lead ++ '{' :: content) = '{' :: stored) :
    Becomes w content stored := by
  obtain ⟨hold, hnew⟩ := h.colon_notMem hslash
  have hlead' : lead = [] ∨ lead = ['/'] := by
    rcases hlead with rfl | rfl
    · exact .inl rfl
    · exact hslash
  have hfront : '{' :: declaration stored =
      storeBehind w slash (lead ++ '{' :: declaration content) := by
    have htake := congrArg (List.takeWhile (· ≠ ':')) heq
    rw [storeBehind, Text.takeWhile_replaceAll (slash_append_display_ne_nil w slash) hold hnew]
      at htake
    rcases hlead' with rfl | rfl <;> exact htake.symm
  by_cases hinfix : slash ++ w.display <:+: lead ++ '{' :: declaration content
  · have hold : w.display <:+: lead ++ '{' :: declaration content :=
      (List.suffix_append slash _).isInfix.trans hinfix
    have hnew : (Chunk.token w.key).render <:+: '{' :: declaration stored :=
      hfront ▸ Text.infix_replaceAll_of_infix (slash_append_display_ne_nil w slash) _ hinfix
    have hhead : w.display.head? = some '{' := by
      rw [w.display_eq]
      rfl
    refine .inside (Text.infix_of_infix_append_left hhead ?_ hold) ?_
    · rcases hlead' with rfl | rfl <;> decide
    · rcases List.infix_cons_iff.mp hnew with hbegins | hinside
      · exact (List.prefix_append _ _).isInfix.trans (List.cons_prefix_cons.mp hbegins).2.isInfix
      · exact List.IsInfix.trans ⟨['{'], ['}'], rfl⟩ hinside
  · rw [storeBehind, Text.replaceAll_of_not_infix hinfix] at hfront
    rcases hlead' with rfl | rfl
    · exact .kept (List.cons.inj hfront).2
    · exact absurd (List.cons.inj hfront).1 (by decide)

/-- In a token other than that of the catch-all, occurrences end in front of its last brace. -/
theorem prefix_of_prefix_append (hne : content ≠ []) (henclosed : Text.IsEnclosed content)
    (hother : content ≠ w.content) {start : Text} (hstart : start <:+ lead ++ '{' :: content)
    (hnonempty : start ≠ []) (hbegins : slash ++ w.display <+: start ++ '}' :: after) :
    slash ++ w.display <+: start := by
  obtain ⟨behind, rfl⟩ : slash <+: start := by
    refine List.prefix_of_prefix_length_le ((List.prefix_append slash _).trans hbegins)
      (List.prefix_append start _) ?_
    have hpos := List.length_pos_of_ne_nil hnonempty
    rcases hslash with rfl | rfl
    · exact Nat.zero_le _
    · exact hpos
  have hbehind : behind ++ ['}'] <:+ (Chunk.token content).render := by
    obtain ⟨before, hbefore⟩ := suffix_of_slash_append hslash hlead hstart
    exact ⟨before, by rw [← List.append_assoc, hbefore, Chunk.render]⟩
  rw [List.append_assoc, List.prefix_append_right_inj] at hbegins
  rw [List.prefix_append_right_inj]
  have hdisplay : w.display <+: behind ++ ['}'] := by
    have happend : w.display <+: (behind ++ ['}']) ++ after := by rwa [List.append_assoc]
    exact display_prefix_of_isClosed h.staysOpen (.token content hne henclosed) hbehind (by simp)
      happend
  rcases List.prefix_concat_iff.mp hdisplay with heq | hinside
  · exact absurd (Variable.eq_content_of_suffix h.staysOpen henclosed (heq ▸ hbehind)) hother
  · exact hinside

end

/-! ### Token by token -/

theorem ne_nil_of_storeBehind (hne : content ≠ [])
    (heq : storeBehind w slash (lead ++ '{' :: content) = '{' :: stored) : stored ≠ [] := by
  rintro rfl
  by_cases hinfix : slash ++ w.display <:+: lead ++ '{' :: content
  · have hstored : (Chunk.token w.key).render <:+: ['{'] :=
      heq ▸ Text.infix_replaceAll_of_infix (slash_append_display_ne_nil w slash) _ hinfix
    have hlength := hstored.length_le
    simp [Chunk.render] at hlength
  · rw [storeBehind, Text.replaceAll_of_not_infix hinfix] at heq
    have hlength := congrArg List.length heq
    have hpos := List.length_pos_of_ne_nil hne
    simp only [List.length_append, List.length_cons, List.length_nil] at hlength
    omega

/-- The text is read from its beginning, or from a slash in front of a token of the catch-all. -/
def IsLead (w : Variable) (slash text lead : Text) : Prop :=
  lead = [] ∨ lead = slash ∧ w.display <+: text

theorem IsLead.eq_nil_or_eq (h : IsLead w slash text lead) : lead = [] ∨ lead = slash :=
  h.imp_right And.left

section

variable (h : w.IsDeclaredCatchAll) (hslash : slash = [] ∨ slash = ['/'])

include h hslash

/-- A chunk in which nothing is stored stays, unless it is a slash that is stored with a token. -/
theorem storeBehind_render_append {chunk : Chunk} {rest : Text} (hclosed : chunk.IsClosed)
    (hwhole : w.IsWholeIn chunk) (htoken : slash = [] → chunk ≠ .token w.content)
    (hliteral : slash = ['/'] → chunk = .literal ['/'] → ¬w.display <+: rest) :
    storeBehind w slash (chunk.render ++ rest) = chunk.render ++ storeBehind w slash rest := by
  refine Text.replaceAll_append fun start hstart hne hbegins => ?_
  rcases hslash with rfl | rfl
  · obtain ⟨hchunk, -⟩ := eq_of_display_prefix h.staysOpen hclosed hwhole hstart hne hbegins
    exact htoken rfl hchunk
  · obtain ⟨hchunk, -, hdisplay⟩ :=
      eq_slash_of_display_prefix h.staysOpen hclosed hwhole hstart hne hbegins
    exact hliteral rfl hchunk hdisplay

/-- An expression begins with a brace afterwards as well. -/
theorem exists_storeBehind_brace (hlead : IsLead w slash ('{' :: content) lead) :
    ∃ stored, storeBehind w slash (lead ++ '{' :: content) = '{' :: stored ∧
      Text.braces stored = Text.braces content := by
  obtain ⟨stored, hstored⟩ : ∃ stored,
      storeBehind w slash (lead ++ '{' :: content) = '{' :: stored := by
    by_cases hfound : slash ++ w.display <+: lead ++ '{' :: content
    · obtain ⟨rest, hrest⟩ := hfound
      rw [← hrest, storeBehind, Text.replaceAll,
        Text.replaceFrom_append (slash_append_display_ne_nil w slash)]
      exact ⟨_, rfl⟩
    · rcases hlead with rfl | ⟨rfl, hdisplay⟩
      · rw [List.nil_append] at hfound ⊢
        rw [storeBehind, Text.replaceAll, Text.replaceFrom_cons hfound]
        exact ⟨_, rfl⟩
      · exact absurd ((List.prefix_append_right_inj lead).mpr hdisplay) hfound
  refine ⟨stored, hstored, ?_⟩
  have hnone : Text.braces lead = [] := by
    rcases hlead.eq_nil_or_eq with rfl | rfl
    · rfl
    · rcases hslash with rfl | rfl <;> decide
  have hbraces := h.braces_storeBehind hslash (lead ++ '{' :: content)
  rw [hstored, Text.braces_append, hnone] at hbraces
  exact (List.cons.inj hbraces).2

/-- A token becomes a token. -/
theorem exists_storeBehind_token (hne : content ≠ []) (henclosed : Text.IsEnclosed content)
    (hlead : IsLead w slash ('{' :: (content ++ '}' :: after)) lead) :
    ∃ stored, storeBehind w slash (lead ++ '{' :: (content ++ '}' :: after)) =
        '{' :: (stored ++ '}' :: storeBehind w slash after) ∧
      stored ≠ [] ∧ Text.IsEnclosed stored ∧ Becomes w content stored := by
  have hclosed : (Chunk.token content).IsClosed := .token content hne henclosed
  have hrender : '{' :: (content ++ '}' :: after) = (Chunk.token content).render ++ after := by
    simp [Chunk.render]
  by_cases hcontent : content = w.content
  · by_cases hsame : lead = slash
    · refine ⟨w.key, ?_, Variable.key_ne_nil h.catchAll, ?_, hcontent ▸ .stored⟩
      · rw [hrender, hsame, hcontent, w.render_token_content, ← List.append_assoc, storeBehind,
          Text.replaceAll, Text.replaceFrom_append (slash_append_display_ne_nil w slash)]
        simp [Chunk.render, storeBehind, Text.replaceAll]
      · exact Variable.isEnclosed_key h.catchAll (hcontent ▸ henclosed)
    · obtain rfl := hlead.eq_nil_or_eq.resolve_right hsame
      refine ⟨content, ?_, hne, henclosed, .kept rfl⟩
      rw [List.nil_append, hrender, storeBehind_render_append h hslash hclosed
        (fun _ => congrArg _ hcontent) (fun hnil => absurd hnil.symm hsame)
        (fun _ hliteral => absurd hliteral (by simp))]
      simp [Chunk.render]
  · -- nothing that is found in the token reaches its last brace
    have hreach (start : Text) (hstart : start <:+ lead ++ '{' :: content) (hnonempty : start ≠ [])
        (hbegins : slash ++ w.display <+: start ++ '}' :: after) : slash ++ w.display <+: start :=
      prefix_of_prefix_append h hslash hlead.eq_nil_or_eq hne henclosed hcontent hstart hnonempty
        hbegins
    have hinside : IsLead w slash ('{' :: content) lead := by
      rcases hlead with hnil | ⟨hsame, hdisplay⟩
      · exact .inl hnil
      · have hbegins : slash ++ w.display <+: (slash ++ '{' :: content) ++ '}' :: after := by
          rw [List.append_assoc, List.prefix_append_right_inj]
          exact hdisplay
        have hfound := hreach _ (List.suffix_refl _) (by simp) (hsame ▸ hbegins)
        rw [hsame, List.prefix_append_right_inj] at hfound
        exact .inr ⟨hsame, hfound⟩
    obtain ⟨stored, hstored, hbraces⟩ := exists_storeBehind_brace h hslash hinside
    have hlast : storeBehind w slash ('}' :: after) = '}' :: storeBehind w slash after := by
      have hclose : (Chunk.literal ['}']).IsClosed := .literal '}' (by decide)
      exact storeBehind_render_append h hslash hclose
        (hclose.isWholeIn h.content_ne_nil (by simp)) (by simp) (by simp)
    refine ⟨stored, ?_, ?_, henclosed.of_braces hbraces,
      becomes_of_storeBehind h hslash hlead.eq_nil_or_eq hstored⟩
    · rw [← List.cons_append, ← List.append_assoc, storeBehind,
        Text.replaceAll_append_of_prefix (slash_append_display_ne_nil w slash)
          hreach, ← storeBehind, hstored, ← storeBehind, hlast]
      rfl
    · exact ne_nil_of_storeBehind hne hstored

/-- **Storing a catch-all, token by token.** -/
theorem forall₂_tokens_storeBehind (text : Text) : ∀ lead, IsLead w slash text lead →
    List.Forall₂ (Becomes w) (tokens text) (tokens (storeBehind w slash (lead ++ text))) := by
  have hstar (rest : Text) (hbegins : w.display <+: rest) : ['{', '*'] <+: rest := by
    rw [w.display_eq, Variable.content_of_catchAll h.catchAll] at hbegins
    exact (List.prefix_append ['{', '*'] _).trans hbegins
  fun_induction openRest text with
  | case1 =>
    rintro lead (rfl | ⟨-, hdisplay⟩)
    · have hnil : storeBehind w slash ([] ++ []) = [] := rfl
      rw [hnil, tokens_of_isOpen isOpen_nil]
      exact .nil
    · exact absurd (List.prefix_nil.mp hdisplay) w.display_ne_nil
  | case2 rest content after hsome hshort ih =>
    intro lead hlead
    have henclosed := Text.isEnclosed_of_closeBrace? hsome
    obtain rfl := Text.eq_append_of_closeBrace? hsome
    rw [tokens_expression henclosed]
    by_cases hempty : content = []
    · subst hempty
      have hclosed : (Chunk.literal ['{', '}']).IsClosed := .empty
      obtain rfl : lead = [] := hlead.resolve_right fun hmerged =>
        absurd (hstar _ hmerged.2) (by simp)
      have hkept : storeBehind w slash ([] ++ '{' :: ([] ++ '}' :: after)) =
          '{' :: ([] ++ '}' :: storeBehind w slash after) :=
        storeBehind_render_append h hslash hclosed (hclosed.isWholeIn h.content_ne_nil (by simp))
          (by simp) (by simp)
      rw [hkept, tokens_expression henclosed, if_pos rfl, if_pos rfl]
      exact ih [] (.inl rfl)
    · obtain ⟨stored, hstored, hne, hstored', hbecomes⟩ :=
        exists_storeBehind_token h hslash hempty henclosed hlead
      rw [if_neg hempty, hstored, tokens_expression hstored', if_neg hne]
      exact .cons hbecomes (ih [] (.inl rfl))
  | case3 rest hnone =>
    intro lead hlead
    have hopen := Text.closeBrace?_eq_none_iff.mp hnone
    obtain ⟨stored, hstored, hbraces⟩ := exists_storeBehind_brace h hslash hlead
    rw [hstored, tokens_of_isOpen (.inr ⟨rest, rfl, hopen⟩),
      tokens_of_isOpen (.inr ⟨stored, rfl, hopen.of_braces hbraces⟩)]
    exact .nil
  | case4 c rest hc ih =>
    intro lead hlead
    obtain rfl : lead = [] := hlead.resolve_right fun hmerged =>
      hc (List.cons_prefix_cons.mp (hstar _ hmerged.2)).1.symm
    rw [List.nil_append, tokens_cons hc]
    by_cases hmerged : slash = ['/'] ∧ c = '/' ∧ w.display <+: rest
    · obtain ⟨rfl, rfl, hdisplay⟩ := hmerged
      exact ih ['/'] (.inr ⟨rfl, hdisplay⟩)
    · have hclosed : (Chunk.literal [c]).IsClosed := .literal c hc
      have hkept : storeBehind w slash (c :: rest) = c :: storeBehind w slash rest :=
        storeBehind_render_append h hslash hclosed (hclosed.isWholeIn h.content_ne_nil (by simp))
          (by simp) fun hsame hliteral hdisplay =>
            hmerged ⟨hsame, by simpa using hliteral, hdisplay⟩
      rw [hkept, tokens_cons hc]
      exact ih [] (.inl rfl)

end

/-- **Storing a catch-all, token by token.** -/
theorem forall₂_tokens_storeCatchAll (h : w.IsDeclaredCatchAll) (text : Text) :
    List.Forall₂ (Becomes w) (tokens text) (tokens (storeCatchAll text w)) := by
  obtain ⟨slash, hslash, hstore⟩ := exists_slash_of_storeCatchAll text w
  rw [hstore]
  exact forall₂_tokens_storeBehind h hslash text [] (.inl rfl)

end Mapping

end Signpost
