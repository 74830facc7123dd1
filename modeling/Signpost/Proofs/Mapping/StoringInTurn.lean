import Signpost.Proofs.Mapping.Tokens

/-!
# Storing catch-alls one after the other

A mapping has its catch-alls stored one after the other. If no token of a catch-all is inside
another token, each of these steps takes place among the chunks of the mapping, and the next one
finds chunks of the same kind: a name closes no brace that is open around it, so that a stored token
is a chunk of its own.

## Main definitions

* `Mapping.Variable.IsStorable`: a catch-all that is stored among chunks.
* `Mapping.storedInTurn`: chunks with catch-alls stored one after the other.
* `Mapping.IsWhole`: chunks in which no token of a catch-all is inside another one.

## Main results

* `Mapping.staysOpen_tokenVariable`: a name closes no brace that is open around its token.
* `Mapping.IsWhole.foldl_storeCatchAll`: storing takes place among the chunks.
* `Mapping.flatMap_storedInTurn`: what storing does not change.
-/

namespace Signpost.Mapping

variable {v : Variable} {vars : List Variable} {cut : List Chunk} {chunk : Chunk}
  {text content mapping : Text}

/-! ### Names that close no brace -/

theorem staysOpen_trim (h : Text.StaysOpen 1 text) : Text.StaysOpen 1 (Text.trim text) := by
  have hblank : ∀ c ∈ text.takeWhile Character.isBlank, Character.isBlank c = true :=
    fun c hc => List.mem_takeWhile_imp hc
  rw [← List.takeWhile_append_dropWhile (p := Character.isBlank) (l := text),
    Text.StaysOpen.append_iff, Text.depthFrom_of_notMem (fun hc => absurd (hblank _ hc) (by decide))
      fun hc => absurd (hblank _ hc) (by decide)] at h
  exact h.2.of_isPrefix (Text.dropEndWhile_prefix _ _)

/-- A name closes no brace that is open around its token. -/
theorem staysOpen_tokenName (h : Text.StaysOpen 1 content) :
    Text.StaysOpen 1 (tokenName content) := by
  by_cases hstar : content.head? = some '*'
  · obtain ⟨rest, rfl⟩ := List.head?_eq_some_iff.mp hstar
    rw [tokenName_star_cons]
    exact staysOpen_trim ((Text.staysOpen_cons.mp h).2.of_isPrefix (List.takeWhile_prefix _))
  · rw [tokenName_of_head?_ne hstar]
    exact staysOpen_trim (h.of_isPrefix (List.takeWhile_prefix _))

theorem staysOpen_tokenVariable (h : Text.StaysOpen 1 content) :
    Text.StaysOpen 1 (tokenVariable content).name := by
  have hname := staysOpen_tokenName h
  rw [tokenVariable]
  split
  · exact hname
  · split
    · rename_i inner hinner
      rw [catchAllName?_eq_some_iff.mp hinner, List.append_assoc,
        Text.StaysOpen.append_iff] at hname
      exact hname.2.of_isPrefix (List.prefix_append inner _)
    · exact hname

/-! ### Storing one after the other -/

/-- The variable is a catch-all whose name is read as it is and closes no brace. -/
structure Variable.IsStorable (v : Variable) : Prop extends v.IsBare where
  catchAll : v.catchAll = true
  staysOpen : Text.StaysOpen 1 v.content

/-- The chunks with catch-alls stored one after the other. -/
def storedInTurn (vars : List Variable) (cut : List Chunk) : List Chunk :=
  vars.foldl (fun cut v => storedIn v cut) cut

/-- The chunks are closed, and no token of a catch-all is inside another chunk. -/
structure IsWhole (vars : List Variable) (cut : List Chunk) : Prop where
  isClosed : ∀ chunk ∈ cut, chunk.IsClosed
  isWholeIn : ∀ v ∈ vars, ∀ chunk ∈ cut, v.IsWholeIn chunk

/-- The catch-alls of a mapping that leaves no brace open can be stored. -/
theorem isStorable_of_mem_catchAlls (hdepth : Text.depthFrom 0 mapping = 0)
    (htrim : ∀ v ∈ (parse mapping).vars, v.catchAll = true → Text.trim v.name = v.name) :
    ∀ v ∈ (parse mapping).catchAlls, v.IsStorable := by
  intro v hv
  obtain ⟨hmem, hcatch⟩ := List.mem_filter.mp hv
  refine ⟨isBare_of_mem_vars hmem (htrim v hmem hcatch), hcatch, ?_⟩
  obtain ⟨content, hcontent, rfl⟩ := exists_token_of_mem_vars hmem
  rw [Variable.content_of_catchAll hcatch, Text.staysOpen_cons]
  refine ⟨Nat.one_pos, staysOpen_tokenVariable ?_⟩
  cases isClosed_of_mem_chunks hdepth (mem_tokens_iff.mp hcontent) with
  | token _ hne henclosed => exact henclosed.staysOpen

/-- Storing a catch-all leaves the tokens of others whole. -/
theorem IsWhole.storedIn (h : IsWhole (v :: vars) cut) (hv : v.IsStorable)
    (hvars : ∀ w ∈ vars, w.IsStorable) : IsWhole vars (storedIn v cut) where
  isClosed chunk hchunk := by
    rcases mem_storedIn hchunk with hold | ⟨rfl, hcontent⟩
    · exact h.isClosed chunk hold
    · exact Variable.isClosed_key hv.catchAll (h.isClosed _ hcontent)
  isWholeIn w hw chunk hchunk := by
    have hwhole := h.isWholeIn w (List.mem_cons_of_mem v hw)
    rcases mem_storedIn hchunk with hold | ⟨rfl, hcontent⟩
    · exact hwhole chunk hold
    · exact Variable.isWholeIn_key hv.catchAll (hvars w hw).catchAll (hvars w hw).staysOpen
        (h.isClosed _ hcontent) (hwhole _ hcontent)

/-- **Storing catch-alls one after the other** takes place among the chunks. -/
theorem IsWhole.foldl_storeCatchAll (h : IsWhole vars cut) (hvars : ∀ v ∈ vars, v.IsStorable) :
    vars.foldl storeCatchAll (cut.flatMap Chunk.render) =
        (storedInTurn vars cut).flatMap Chunk.render ∧
      ∀ chunk ∈ storedInTurn vars cut, chunk.IsClosed := by
  induction vars generalizing cut with
  | nil => exact ⟨rfl, h.isClosed⟩
  | cons v vars ih =>
    obtain ⟨hv, hlater⟩ := List.forall_mem_cons.mp hvars
    have hstep := storeCatchAll_flatMap_render hv.staysOpen fun chunk hchunk =>
      ⟨h.isClosed chunk hchunk, h.isWholeIn v List.mem_cons_self chunk hchunk⟩
    rw [List.foldl_cons, hstep, storedInTurn, List.foldl_cons]
    exact ih (h.storedIn hv hlater) hlater

theorem mem_storedInTurn (h : chunk ∈ storedInTurn vars cut) :
    chunk ∈ cut ∨ ∃ v ∈ vars, chunk = .token v.key := by
  induction vars generalizing cut with
  | nil => exact .inl h
  | cons v vars ih =>
    rcases ih h with hold | ⟨w, hw, hkey⟩
    · rcases mem_storedIn hold with hbefore | ⟨hkey, -⟩
      · exact .inl hbefore
      · exact .inr ⟨v, List.mem_cons_self, hkey⟩
    · exact .inr ⟨w, List.mem_cons_of_mem v hw, hkey⟩

theorem flatMap_storedInTurn {α : Type*} {f : Chunk → List α} (hslash : f (.literal ['/']) = [])
    (hkey : ∀ v ∈ vars, f (.token v.key) = f (.token v.content)) (cut : List Chunk) :
    (storedInTurn vars cut).flatMap f = cut.flatMap f := by
  induction vars generalizing cut with
  | nil => rfl
  | cons v vars ih =>
    obtain ⟨hv, hlater⟩ := List.forall_mem_cons.mp hkey
    exact (ih hlater _).trans (flatMap_storedIn hslash hv cut)

end Signpost.Mapping
