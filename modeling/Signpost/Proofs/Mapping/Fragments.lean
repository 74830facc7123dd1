import Mathlib.Data.List.Induction
import Signpost.Proofs.Mapping.Constraint
import Signpost.Proofs.Mapping.Plain

/-!
# Plain fragments of a mapping

The mapping of a method is put together from the fragment of its handler and its own and cleaned up.
If both are plain, cleaning leaves nothing out but slashes: those behind another slash and those at
the end. Hence the mapping is plain, and its tokens are those of the handler followed by those of
the method.

## Main results

* `Mapping.chunks_clean`: what a clean-up leaves of plain chunks.
* `Mapping.exists_ofFragments`: the mapping of a method with plain fragments.
* `Mapping.vars_prefix_vars`, `Mapping.length_vars_le_idxOf`: the variables of the handler come
  first.
-/

namespace Signpost.Mapping

/-- The contents of tokens among chunks. -/
def contents (pieces : List Chunk) : List Text :=
  pieces.filterMap fun
    | .literal _ => none
    | .token content => some content

theorem contents_cons_token (content : Text) (pieces : List Chunk) :
    contents (.token content :: pieces) = content :: contents pieces :=
  rfl

theorem contents_cons_literal (text : Text) (pieces : List Chunk) :
    contents (.literal text :: pieces) = contents pieces :=
  rfl

theorem contents_append (pieces others : List Chunk) :
    contents (pieces ++ others) = contents pieces ++ contents others :=
  List.filterMap_append

/-! ### Cleaning up -/

/-- A clean-up keeps a token outside all braces. -/
theorem cleanFrom_token {content : Text} (hfree : ∀ c ∈ content, c ≠ '{' ∧ c ≠ '}' ∧ c ≠ ':')
    (last : Option Char) (rest : Text) :
    cleanFrom { last } ((Chunk.token content).render ++ rest) =
      (Chunk.token content).render ++ cleanFrom { last := some '}' } rest := by
  have henclosed : Text.IsEnclosed content :=
    .of_notMem (fun hc => (hfree _ hc).1 rfl) fun hc => (hfree _ hc).2.1 rfl
  rw [Chunk.render, List.append_assoc, List.append_assoc]
  by_cases hlast : last = some '$'
  · rw [hlast]
    exact cleanFrom_placeholder henclosed rest
  · have hclean := cleanFrom_expression henclosed hlast rest
    rwa [withoutConstraint_eq_self fun hc => (hfree _ hc).2.2 rfl] at hclean

theorem Variable.IsPlain.free_content {v : Variable} (h : v.IsPlain) :
    ∀ c ∈ v.content, c ≠ '{' ∧ c ≠ '}' ∧ c ≠ ':' := by
  have hname : ∀ c ∈ v.name, c ≠ '{' ∧ c ≠ '}' ∧ c ≠ ':' :=
    fun c hc => ⟨(h.free c hc).1, (h.free c hc).2.1, (h.free c hc).2.2.1⟩
  rw [content]
  split
  · exact List.forall_mem_cons.mpr ⟨by decide, hname⟩
  · exact hname

/-- Outside all braces a clean-up keeps plain tokens and leaves out slashes at most. -/
theorem exists_cleanFrom {pieces : List Chunk} (h : ∀ chunk ∈ pieces, chunk.IsPlain)
    (last : Option Char) :
    ∃ kept, kept.Sublist pieces ∧ contents kept = contents pieces ∧
      cleanFrom { last } (pieces.flatMap Chunk.render) = kept.flatMap Chunk.render := by
  induction pieces generalizing last with
  | nil => exact ⟨[], .slnil, rfl, rfl⟩
  | cons chunk pieces ih =>
    obtain ⟨hchunk, hlater⟩ := List.forall_mem_cons.mp h
    cases hchunk with
    | token v hv =>
      obtain ⟨kept, hsublist, hcontents, hclean⟩ := ih hlater (some '}')
      refine ⟨.token v.content :: kept, hsublist.cons_cons _, ?_, ?_⟩
      · rw [contents_cons_token, contents_cons_token, hcontents]
      · rw [List.flatMap_cons, List.flatMap_cons, cleanFrom_token hv.free_content, hclean]
    | literal c hopen hclose =>
      rw [List.flatMap_cons, Chunk.render, List.singleton_append,
        cleanFrom_literal hopen, contents_cons_literal]
      split
      · obtain ⟨kept, hsublist, hcontents, hclean⟩ := ih hlater last
        exact ⟨kept, hsublist.cons _, hcontents, hclean⟩
      · obtain ⟨kept, hsublist, hcontents, hclean⟩ := ih hlater (some c)
        refine ⟨.literal [c] :: kept, hsublist.cons_cons _, hcontents, ?_⟩
        rw [List.flatMap_cons, hclean]
        rfl

/-- Leaving out the slashes at the end keeps the tokens. -/
theorem exists_dropEndWhile {pieces : List Chunk} (h : ∀ chunk ∈ pieces, chunk.IsPlain) :
    ∃ kept, kept.Sublist pieces ∧ contents kept = contents pieces ∧
      Text.dropEndWhile (· = '/') (pieces.flatMap Chunk.render) = kept.flatMap Chunk.render := by
  induction pieces using List.reverseRecOn with
  | nil => exact ⟨[], .slnil, rfl, rfl⟩
  | append_singleton pieces chunk ih =>
    obtain ⟨hpieces, hchunk⟩ := List.forall_mem_append.mp h
    have hsame : ∃ kept, kept.Sublist (pieces ++ [chunk]) ∧
        contents kept = contents (pieces ++ [chunk]) ∧
        (pieces ++ [chunk]).flatMap Chunk.render = kept.flatMap Chunk.render :=
      ⟨_, .refl _, rfl, rfl⟩
    rw [List.flatMap_append, List.flatMap_singleton] at hsame ⊢
    cases hchunk chunk List.mem_cons_self with
    | token v hv =>
      rw [Chunk.render, ← List.append_assoc] at hsame ⊢
      rwa [Text.dropEndWhile_append_cons (by decide)]
    | literal c hopen hclose =>
      rw [Chunk.render] at hsame ⊢
      by_cases hslash : c = '/'
      · obtain ⟨kept, hsublist, hcontents, hdrop⟩ := ih hpieces
        refine ⟨kept, hsublist.trans (List.sublist_append_left _ _), ?_, ?_⟩
        · rw [hcontents, contents_append, contents_cons_literal]
          exact (List.append_nil _).symm
        · rw [Text.dropEndWhile_concat (by simpa using hslash), hdrop]
      · rwa [Text.dropEndWhile_append_cons (by simpa using hslash)]

theorem exists_dropEndSlashes {pieces : List Chunk} (h : ∀ chunk ∈ pieces, chunk.IsPlain) :
    ∃ kept, kept.Sublist pieces ∧ contents kept = contents pieces ∧
      dropEndSlashes (pieces.flatMap Chunk.render) = kept.flatMap Chunk.render := by
  cases pieces with
  | nil => exact ⟨[], .slnil, rfl, rfl⟩
  | cons chunk pieces =>
    obtain ⟨kept, hsublist, hcontents, hdrop⟩ := exists_dropEndWhile (List.forall_mem_cons.mp h).2
    refine ⟨chunk :: kept, hsublist.cons_cons _, ?_, ?_⟩
    · rw [← List.singleton_append, contents_append, hcontents, ← contents_append]
      rfl
    · rw [List.flatMap_cons, List.flatMap_cons, ← hdrop]
      cases h chunk List.mem_cons_self with
      | literal c hopen hclose => rfl
      | token v hv =>
        rw [Chunk.render, List.append_assoc, List.singleton_append, List.cons_append,
          dropEndSlashes, Text.dropEndWhile_append_cons (by decide), List.append_assoc]
        rfl

/-- A clean-up of plain chunks leaves plain chunks with the same tokens. -/
theorem chunks_clean {pieces : List Chunk} (h : ∀ chunk ∈ pieces, chunk.IsPlain) :
    (chunks (clean (pieces.flatMap Chunk.render))).Sublist pieces ∧
      contents (chunks (clean (pieces.flatMap Chunk.render))) = contents pieces := by
  obtain ⟨squeezed, hsqueezed, hcontents, hclean⟩ := exists_cleanFrom h none
  obtain ⟨kept, hkept, hcontents', hdrop⟩ := exists_dropEndSlashes fun chunk hchunk =>
    h chunk (hsqueezed.subset hchunk)
  have hsublist := hkept.trans hsqueezed
  have hchunks := chunks_flatMap fun chunk hchunk => (h chunk (hsublist.subset hchunk)).isFlat
  rw [clean, hclean, hdrop, hchunks]
  exact ⟨hsublist, hcontents'.trans hcontents⟩

/-! ### Putting fragments together -/

/-- The chunks of two fragments in a row. -/
def joined (ofHandler : Option Text) (fragment : Text) : List Chunk :=
  match ofHandler with
  | none => chunks fragment
  | some base =>
    if base = ['/'] then chunks fragment else chunks base ++ .literal ['/'] :: chunks fragment

theorem ofFragments_eq_clean_joined (ofHandler : Option Text) {fragment : Text}
    (hne : fragment ≠ []) :
    ofFragments ofHandler (some fragment) =
      some (clean ((joined ofHandler fragment).flatMap Chunk.render)) := by
  cases ofHandler with
  | none =>
    rw [ofFragments, joined, flatMap_render_chunks]
    exact hne
  | some base =>
    rw [ofFragments, joined]
    · by_cases hslash : base = ['/']
      · rw [if_pos hslash, if_pos hslash, flatMap_render_chunks]
      · rw [if_neg hslash, if_neg hslash, List.flatMap_append, List.flatMap_cons,
          flatMap_render_chunks, flatMap_render_chunks]
        rfl
    · exact hne

theorem contents_joined (ofHandler : Option Text) (fragment : Text) :
    contents (joined ofHandler fragment) = ofHandler.toList.flatMap tokens ++ tokens fragment := by
  cases ofHandler with
  | none => rfl
  | some base =>
    rw [joined, Option.toList_some, List.flatMap_singleton]
    split
    · rename_i hslash
      have hnone : tokens base = [] := by
        rw [hslash]
        cbv
      rw [hnone]
      rfl
    · rw [contents_append, contents_cons_literal]
      rfl

theorem isPlain_of_mem_joined {ofHandler : Option Text} {fragment : Text}
    (h : IsPlain (ofHandler.toList ++ [fragment])) {chunk : Chunk}
    (hchunk : chunk ∈ joined ofHandler fragment) : chunk.IsPlain := by
  have hfragment : chunk ∈ chunks fragment → chunk.IsPlain :=
    h.chunk fragment (List.mem_append_right _ List.mem_cons_self) chunk
  cases ofHandler with
  | none => exact hfragment hchunk
  | some base =>
    rw [joined] at hchunk
    split at hchunk
    · exact hfragment hchunk
    · rcases List.mem_append.mp hchunk with hbase | hrest
      · exact h.chunk base (List.mem_append_left _ (by simp)) chunk hbase
      · rcases List.mem_cons.mp hrest with rfl | hlater
        · exact .literal '/' (by decide) (by decide)
        · exact hfragment hlater

/-- **The mapping of a method with plain fragments.** It is plain, and its tokens are those of the
fragment of the handler followed by those of its own. -/
theorem exists_ofFragments {ofHandler : Option Text} {fragment : Text}
    (h : IsPlain (ofHandler.toList ++ [fragment])) (hne : fragment ≠ []) :
    ∃ raw, ofFragments ofHandler (some fragment) = some raw ∧ IsPlain [raw] ∧
      declared raw = ofHandler.toList.flatMap declared ++ declared fragment := by
  obtain ⟨hsublist, hcontents⟩ := chunks_clean fun chunk => isPlain_of_mem_joined h
  have hdeclared : declared (clean ((joined ofHandler fragment).flatMap Chunk.render)) =
      ofHandler.toList.flatMap declared ++ declared fragment := by
    change (contents _).map tokenVariable = _
    rw [hcontents, contents_joined, List.map_append, List.map_flatMap]
    rfl
  refine ⟨_, ofFragments_eq_clean_joined ofHandler hne, ⟨?_, ?_⟩, hdeclared⟩
  · intro raw hraw chunk hchunk
    obtain rfl := List.mem_singleton.mp hraw
    exact isPlain_of_mem_joined h (hsublist.subset hchunk)
  · have halike := h.alike
    rwa [List.flatMap_append, List.flatMap_singleton, ← hdeclared,
      ← List.flatMap_singleton declared] at halike

/-- The variables of the handler come first among those of the mapping. -/
theorem vars_prefix_vars {ofHandler : Option Text} {fragment raw : Text}
    (h : declared raw = ofHandler.toList.flatMap declared ++ declared fragment) :
    (ofHandler.elim [] fun base => (parse base).vars) <+: (parse raw).vars := by
  cases ofHandler with
  | none => exact List.nil_prefix
  | some base =>
    rw [Option.toList_some, List.flatMap_singleton] at h
    change firstOfEachName (declared base) <+: firstOfEachName (declared raw)
    rw [h]
    exact firstOfEachName_prefix_append _ _

/-- A variable that the fragment of a method alone declares stands behind those of the handler. -/
theorem length_vars_le_idxOf {base fragment raw : Text} (h : IsPlain [base, fragment])
    (hne : fragment ≠ []) (hraw : ofFragments (some base) (some fragment) = some raw)
    {v : Variable} (hv : v ∉ (parse base).vars) :
    (parse base).vars.length ≤ (parse raw).vars.idxOf v := by
  have hplain : IsPlain ((some base).toList ++ [fragment]) := h
  obtain ⟨combined, hcombined, -, hdeclared⟩ := exists_ofFragments hplain hne
  obtain rfl := Option.some_inj.mp (hcombined.symm.trans hraw)
  obtain ⟨others, hothers⟩ := vars_prefix_vars hdeclared
  rw [Option.elim_some] at hothers
  rw [← hothers, List.idxOf_append_of_notMem hv]
  exact Nat.le_add_right _ _

end Signpost.Mapping
