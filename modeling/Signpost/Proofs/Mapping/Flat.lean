import Signpost.Proofs.Mapping.Tokens

/-!
# Mappings without braces inside tokens

A catch-all whose name has no braces is stored as a token without braces. No token of a catch-all
begins in a stored token or reaches into one, so that storing makes no token that was not there, and
leaves none behind a slash. What stands behind an expression that is not closed stays as open as it
is.

## Main definitions

* `Mapping.IsFlat`: a mapping without braces inside its tokens.
* `Mapping.Variable.IsFlatCatchAll`: a catch-all without braces in its name.

## Main results

* `Mapping.isClearOf_display`, `Mapping.isClearOf_slash_display`: stored tokens and other ones.
* `Mapping.isFlat_foldl_storeCatchAll`: storing leaves a mapping flat and its declarations as they
  are.
* `Mapping.not_slash_display_infix_foldl`: no catch-all is left behind a slash.
-/

namespace Signpost.Mapping

/-- No token of the text has braces inside. -/
def IsFlat (text : Text) : Prop :=
  ∀ content ∈ tokens text, '{' ∉ content ∧ '}' ∉ content

variable {v w : Variable} {vars : List Variable} {cut : List Chunk} {chunk : Chunk}
  {raw text rest pattern new : Text}

/-! ### Names without braces -/

namespace Variable

/-- The variable is a catch-all with a name that is read as it is and has no braces. -/
structure IsFlatCatchAll (v : Variable) : Prop extends v.IsBare where
  catchAll : v.catchAll = true
  openBrace : '{' ∉ v.name
  closeBrace : '}' ∉ v.name

namespace IsFlatCatchAll

variable (h : v.IsFlatCatchAll)

include h

theorem notMem_content : '{' ∉ v.content ∧ '}' ∉ v.content := by
  rw [content_of_catchAll h.catchAll]
  exact ⟨by simp [h.openBrace], by simp [h.closeBrace]⟩

theorem notMem_key : '{' ∉ v.key ∧ '}' ∉ v.key := by
  have hmarks : ('{' ∉ catchAllLead ∧ '{' ∉ catchAllTail) ∧
      '}' ∉ catchAllLead ∧ '}' ∉ catchAllTail := by decide
  rw [key_of_catchAll h.catchAll]
  exact ⟨by simp [hmarks, h.openBrace], by simp [hmarks, h.closeBrace]⟩

theorem content_ne_nil : v.content ≠ [] := by
  rw [content_of_catchAll h.catchAll]
  exact List.cons_ne_nil _ _

theorem isEnclosed_content : Text.IsEnclosed v.content :=
  .of_notMem h.notMem_content.1 h.notMem_content.2

theorem isEnclosed_key : Text.IsEnclosed v.key :=
  .of_notMem h.notMem_key.1 h.notMem_key.2

end IsFlatCatchAll

end Variable

/-- The catch-alls of a flat mapping have no braces in their names. -/
theorem isFlatCatchAll_of_mem_catchAlls (hflat : IsFlat raw)
    (htrim : ∀ v ∈ (parse raw).vars, v.catchAll = true → Text.trim v.name = v.name) :
    ∀ v ∈ (parse raw).catchAlls, v.IsFlatCatchAll := by
  intro v hv
  obtain ⟨hmem, hcatch⟩ := List.mem_filter.mp hv
  have hbare := isBare_of_mem_vars hmem (htrim v hmem hcatch)
  obtain ⟨content, hcontent, rfl⟩ := exists_token_of_mem_vars hmem
  obtain ⟨hopen, hclose⟩ := hflat content hcontent
  exact ⟨hbare, hcatch, fun h => hopen (mem_of_mem_tokenVariable h),
    fun h => hclose (mem_of_mem_tokenVariable h)⟩

/-! ### What replacing keeps -/

/-- A pattern and a replacement that are balanced do not close what is open around them. -/
theorem staysOpen_replaceAll (hpattern : pattern ≠ []) (hbalanced : Text.IsBalanced pattern)
    (hnew : Text.IsBalanced new) (hopen : ∀ depth, 0 < depth → Text.StaysOpen depth new)
    {depth : Nat} (h : Text.StaysOpen depth text) :
    Text.StaysOpen depth (Text.replaceAll pattern new text) := by
  refine Text.replaceAll_induction (motive := fun text replaced =>
    ∀ depth, Text.StaysOpen depth text → Text.StaysOpen depth replaced)
    hpattern (fun _ => id) ?_ ?_ text depth h
  · intro rest ih depth h
    obtain ⟨hfront, hrest⟩ := Text.StaysOpen.append_iff.mp h
    rw [hbalanced depth] at hrest
    refine Text.StaysOpen.append_iff.mpr ⟨hopen depth (hfront [] List.nil_prefix), ?_⟩
    exact (hnew depth).symm ▸ ih depth hrest
  · intro c rest _ ih depth h
    obtain ⟨hpos, hlater⟩ := Text.staysOpen_cons.mp h
    exact Text.staysOpen_cons.mpr ⟨hpos, ih _ hlater⟩

/-- What is not closed stays so when tokens inside it are stored. -/
theorem isOpen_replaceAll (hv : v.IsFlatCatchAll) (hpattern : pattern ≠ [])
    (hbalanced : Text.IsBalanced pattern) (hno : ¬pattern <+: rest) (hrest : IsOpen rest) :
    IsOpen (Text.replaceAll pattern (Chunk.token v.key).render rest) := by
  rcases hrest with rfl | ⟨inside, rfl, hinside⟩
  · exact isOpen_nil
  · right
    refine ⟨_, ?_, staysOpen_replaceAll hpattern hbalanced
      hv.isEnclosed_key.isBalanced (fun _ => hv.isEnclosed_key.staysOpen_braces) hinside⟩
    rw [Text.replaceAll, Text.replaceFrom_cons hno]
    rfl

/-- What is not closed does not begin with a token. -/
theorem not_display_prefix_of_isOpen (hv : v.IsFlatCatchAll) (hrest : IsOpen rest) :
    ¬v.display <+: rest := by
  intro hprefix
  rcases hrest with rfl | ⟨inside, rfl, hinside⟩
  · exact v.display_ne_nil (List.prefix_nil.mp hprefix)
  · rw [v.display_eq] at hprefix
    have hclosed : 0 < Text.depthFrom 1 (v.content ++ ['}']) :=
      hinside _ (List.cons_prefix_cons.mp hprefix).2
    rw [Text.depthFrom_append, hv.isEnclosed_content.depth] at hclosed
    exact absurd hclosed (by decide)

/-! ### What storing does not make -/

section

variable (hv : v.IsFlatCatchAll) (hw : w.IsFlatCatchAll) {start tail : Text}

include hv hw

/-- A stored token and a token of a catch-all differ behind the brace. -/
theorem not_display_prefix_render_key (rest : Text) :
    ¬w.display <+: (Chunk.token v.key).render ++ rest := by
  intro hprefix
  rw [w.display_eq, Variable.content_of_catchAll hw.catchAll, Chunk.render,
    Variable.key_of_catchAll hv.catchAll] at hprefix
  have hsecond := (List.cons_prefix_cons.mp hprefix).2
  exact absurd (List.cons_prefix_cons.mp hsecond).1 (by decide)

/-- No token of a catch-all begins inside a stored token. -/
theorem not_display_prefix_of_suffix (hstart : start <:+ (Chunk.token v.key).render)
    (hne : start ≠ []) (rest : Text) : ¬w.display <+: start ++ rest := by
  intro hprefix
  rw [Chunk.render, List.cons_append, List.suffix_cons_iff] at hstart
  rcases hstart with rfl | hinside
  · exact not_display_prefix_render_key hv hw rest hprefix
  · rw [w.display_eq] at hprefix
    cases start with
    | nil => exact absurd rfl hne
    | cons c start =>
      obtain ⟨rfl, -⟩ := List.cons_prefix_cons.mp hprefix
      have hmem : '{' ∈ v.key ++ ['}'] := hinside.subset List.mem_cons_self
      exact absurd ((List.mem_append.mp hmem).resolve_right (by decide)) hv.notMem_key.1

/-- No end of a token of a catch-all begins a stored token. -/
theorem not_prefix_render_key (htail : tail <:+ w.display) (hne : tail ≠ []) (rest : Text) :
    ¬tail <+: (Chunk.token v.key).render ++ rest := by
  intro hprefix
  have hdisplay := w.display_eq
  rw [hdisplay, List.cons_append, List.suffix_cons_iff] at htail
  rcases htail with rfl | hinside
  · rw [← List.cons_append, ← hdisplay] at hprefix
    exact not_display_prefix_render_key hv hw rest hprefix
  · cases tail with
    | nil => exact absurd rfl hne
    | cons c tail =>
      obtain ⟨rfl, -⟩ := List.cons_prefix_cons.mp hprefix
      have hmem : '{' ∈ w.content ++ ['}'] := hinside.subset List.mem_cons_self
      exact absurd ((List.mem_append.mp hmem).resolve_right (by decide)) hw.notMem_content.1

/-- A stored token is clear of the tokens of catch-alls. -/
theorem isClearOf_display : Text.IsClearOf (Chunk.token v.key).render w.display where
  start _ hstart hne rest := not_display_prefix_of_suffix hv hw hstart hne rest
  reach _ htail hne rest := not_prefix_render_key hv hw htail hne rest

/-- A stored token is clear of the tokens of catch-alls with a slash in front of them. -/
theorem isClearOf_slash_display :
    Text.IsClearOf (Chunk.token v.key).render ('/' :: w.display) where
  start start hstart hne rest := by
    intro hprefix
    cases start with
    | nil => exact absurd rfl hne
    | cons c start =>
      obtain ⟨rfl, hdisplay⟩ := List.cons_prefix_cons.mp hprefix
      cases start with
      | nil =>
        obtain ⟨front, hfront⟩ := hstart
        have hlast := congrArg List.getLast? hfront
        rw [List.getLast?_concat, Chunk.render, List.getLast?_concat] at hlast
        exact absurd hlast (by decide)
      | cons d start =>
        exact not_display_prefix_of_suffix hv hw ((List.suffix_cons _ _).trans hstart)
          (List.cons_ne_nil _ _) rest hdisplay
  reach tail htail hne rest := by
    intro hprefix
    rcases List.suffix_cons_iff.mp htail with rfl | hlater
    · exact absurd (List.cons_prefix_cons.mp hprefix).1 (by decide)
    · exact not_prefix_render_key hv hw hlater hne rest hprefix

end

/-! ### Storing in a flat text -/

theorem isBalanced_display (hv : v.IsFlatCatchAll) : Text.IsBalanced v.display :=
  v.display_eq ▸ hv.isEnclosed_content.isBalanced

theorem isBalanced_slash_display (hv : v.IsFlatCatchAll) : Text.IsBalanced ('/' :: v.display) :=
  fun depth => by
    rw [Text.depthFrom_cons, Text.depthAfter_of_ne (by decide) (by decide)]
    exact isBalanced_display hv depth

/-- The chunks of a flat text have no token of a catch-all inside. -/
theorem isClosed_and_isWholeIn (hflat : IsFlat (cut.flatMap Chunk.render ++ rest))
    (hcut : ∀ chunk ∈ cut, chunk.IsClosed) (hrest : IsOpen rest) (hv : v.IsFlatCatchAll) :
    ∀ chunk ∈ cut, chunk.IsClosed ∧ v.IsWholeIn chunk := by
  refine fun chunk hchunk => ⟨hcut chunk hchunk, ?_⟩
  refine (hcut chunk hchunk).isWholeIn hv.content_ne_nil fun content hcontent => ?_
  exact hflat content ((mem_tokens_append_iff hcut hrest).mpr (hcontent ▸ hchunk))

/-- Storing a catch-all in a flat text puts stored tokens in the place of others and closes no
expression. -/
theorem exists_storeCatchAll (hflat : IsFlat (cut.flatMap Chunk.render ++ rest))
    (hcut : ∀ chunk ∈ cut, chunk.IsClosed) (hrest : IsOpen rest) (hv : v.IsFlatCatchAll) :
    ∃ (stored : List Chunk) (behind : Text),
      storeCatchAll (cut.flatMap Chunk.render ++ rest) v =
        stored.flatMap Chunk.render ++ behind ∧ IsOpen behind ∧
      (∀ chunk ∈ stored, chunk ∈ cut ∨ chunk = .token v.key ∧ .token v.content ∈ cut) ∧
      stored.flatMap Chunk.declared = cut.flatMap Chunk.declared := by
  have hno := not_display_prefix_of_isOpen hv hrest
  have hkey : Chunk.declared (.token v.key) = Chunk.declared (.token v.content) := by
    rw [Chunk.declared, Chunk.declared, hv.tokenVariable_key hv.catchAll,
      hv.tokenVariable_content hv.catchAll]
  rw [storeCatchAll_eq hv.isEnclosed_content.staysOpen
    (isClosed_and_isWholeIn hflat hcut hrest hv) hno]
  split
  · refine ⟨_, _, rfl, isOpen_replaceAll hv (List.cons_ne_nil _ _) (isBalanced_slash_display hv) ?_
      hrest, fun chunk => mem_storeBehindSlash, flatMap_storeBehindSlash rfl hkey cut⟩
    rcases hrest with rfl | ⟨inside, rfl, -⟩
    · exact fun hprefix => absurd (List.prefix_nil.mp hprefix) (List.cons_ne_nil _ _)
    · exact fun hprefix => absurd (List.cons_prefix_cons.mp hprefix).1 (by decide)
  · exact ⟨_, _, rfl, isOpen_replaceAll hv v.display_ne_nil (isBalanced_display hv) hno hrest,
      fun chunk => mem_map_storeEach, flatMap_map_storeEach hkey cut⟩

theorem isFlat_storeCatchAll (hflat : IsFlat text) (hv : v.IsFlatCatchAll) :
    IsFlat (storeCatchAll text v) ∧ declared (storeCatchAll text v) = declared text := by
  obtain ⟨cut, hcut, hrest, htext⟩ := exists_isClosed text
  obtain ⟨stored, behind, hstored, hbehind, hmem, hsame⟩ :=
    exists_storeCatchAll (htext ▸ hflat) hcut hrest hv
  have hclosed : ∀ chunk ∈ stored, chunk.IsClosed := by
    intro chunk hchunk
    rcases hmem chunk hchunk with hold | ⟨rfl, hcontent⟩
    · exact hcut chunk hold
    · exact Variable.isClosed_key hv.catchAll (hcut _ hcontent)
  rw [← htext] at hstored
  rw [hstored]
  constructor
  · intro content hcontent
    rw [mem_tokens_append_iff hclosed hbehind] at hcontent
    rcases hmem _ hcontent with hold | ⟨hkey, -⟩
    · exact hflat content (htext ▸ (mem_tokens_append_iff hcut hrest).mpr hold)
    · exact Chunk.token.inj hkey ▸ hv.notMem_key
  · rw [declared_append_of_isOpen hclosed hbehind, hsame, ← declared_append_of_isOpen hcut hrest,
      ← htext]

/-- Storing leaves a mapping flat and its declarations as they are. -/
theorem isFlat_foldl_storeCatchAll (hvars : ∀ v ∈ vars, v.IsFlatCatchAll) (hflat : IsFlat text) :
    IsFlat (vars.foldl storeCatchAll text) ∧
      declared (vars.foldl storeCatchAll text) = declared text := by
  induction vars generalizing text with
  | nil => exact ⟨hflat, rfl⟩
  | cons v vars ih =>
    obtain ⟨hv, hlater⟩ := List.forall_mem_cons.mp hvars
    obtain ⟨hnext, hdeclared⟩ := isFlat_storeCatchAll hflat hv
    obtain ⟨hkept, hsame⟩ := ih hlater hnext
    exact ⟨hkept, hsame.trans hdeclared⟩

/-! ### Tokens that are left -/

/-- No catch-all is left behind a slash when it has been stored. -/
theorem not_slash_display_infix_storeCatchAll (hv : v.IsFlatCatchAll) (text : Text) :
    ¬('/' :: v.display) <:+: storeCatchAll text v := by
  have hclear := isClearOf_slash_display hv hv
  rw [storeCatchAll]
  split
  · exact hclear.not_infix_replaceAll (List.cons_ne_nil _ _) text
  · rename_i hnone
    rw [Text.hasInfix_iff] at hnone
    exact fun hinfix => hnone (hclear.infix_of_infix_replaceAll v.display_ne_nil text hinfix)

/-- Storing makes no occurrence of what a stored token is clear of. -/
theorem infix_of_infix_storeCatchAll (hclear : Text.IsClearOf (Chunk.token v.key).render pattern)
    (h : pattern <:+: storeCatchAll text v) : pattern <:+: text := by
  rw [storeCatchAll] at h
  split at h
  · exact hclear.infix_of_infix_replaceAll (List.cons_ne_nil _ _) text h
  · exact hclear.infix_of_infix_replaceAll v.display_ne_nil text h

theorem infix_of_infix_foldl_storeCatchAll
    (hclear : ∀ v ∈ vars, Text.IsClearOf (Chunk.token v.key).render pattern)
    (h : pattern <:+: vars.foldl storeCatchAll text) : pattern <:+: text := by
  induction vars generalizing text with
  | nil => exact h
  | cons v vars ih =>
    obtain ⟨hv, hlater⟩ := List.forall_mem_cons.mp hclear
    exact infix_of_infix_storeCatchAll hv (ih hlater h)

/-- No stored catch-all is left behind a slash. -/
theorem not_slash_display_infix_foldl (hvars : ∀ v ∈ vars, v.IsFlatCatchAll) (text : Text)
    (hw : w ∈ vars) : ¬('/' :: w.display) <:+: vars.foldl storeCatchAll text := by
  induction vars generalizing text with
  | nil => exact absurd hw List.not_mem_nil
  | cons v vars ih =>
    obtain ⟨hv, hlater⟩ := List.forall_mem_cons.mp hvars
    rcases List.mem_cons.mp hw with rfl | hmem
    · exact fun hinfix => not_slash_display_infix_storeCatchAll hv text
        (infix_of_infix_foldl_storeCatchAll
          (fun u hu => isClearOf_slash_display (hlater u hu) hv) hinfix)
    · exact ih hlater _ hmem

end Signpost.Mapping
