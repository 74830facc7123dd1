import Signpost.Proofs.Mapping.Expansion
import Signpost.Proofs.Text.Depth

/-!
# Closed chunks

The chunks in front of the first expression that is not closed are cut off one by one, whatever
stands behind them. The rest, if there is any, is one literal.

## Main definitions

* `Mapping.Chunk.IsClosed`: a chunk other than an expression that is not closed.
* `Mapping.openRest`: the expression of a text that is not closed.
* `Mapping.IsOpen`: a text that is nothing but such an expression.

## Main results

* `Mapping.chunks_append_of_isClosed`: closed chunks are cut off one by one.
* `Mapping.exists_isClosed`: a text consists of closed chunks and an expression that is not closed.
-/

namespace Signpost.Mapping

/-- The chunk is a character outside braces, an empty expression or a token. -/
inductive Chunk.IsClosed : Chunk → Prop
  | literal (c : Char) (hopen : c ≠ '{') : IsClosed (.literal [c])
  | empty : IsClosed (.literal ['{', '}'])
  | token (content : Text) (hne : content ≠ []) (h : Text.IsEnclosed content) :
    IsClosed (.token content)

/-- The text from the first brace on that no other brace closes. -/
def openRest (text : Text) : Text :=
  match text with
  | [] => []
  | c :: rest =>
    if c = '{' then
      match h : Text.closeBrace? rest with
      | some (_, after) =>
        have : after.length < rest.length := Text.length_lt_of_closeBrace? h
        openRest after
      | none => c :: rest
    else openRest rest
termination_by text.length

/-- The text is empty or an expression that is not closed. -/
def IsOpen (rest : Text) : Prop :=
  rest = [] ∨ ∃ inside, rest = '{' :: inside ∧ Text.StaysOpen 1 inside

variable {cut : List Chunk} {chunk : Chunk} {text content rest after : Text} {c : Char}

theorem isOpen_nil : IsOpen [] :=
  .inl rfl

/-! ### Cutting -/

/-- An expression is cut off as a token, unless it is empty. -/
theorem chunks_open (h : Text.closeBrace? rest = some (content, after)) :
    chunks ('{' :: rest) =
      (if content = [] then .literal ['{', '}'] else .token content) :: chunks after := by
  rw [chunks.eq_def]
  simp only [if_true]
  split
  · rename_i inner behind hinner
    obtain ⟨rfl, rfl⟩ := Prod.mk.inj (Option.some_inj.mp (h.symm.trans hinner))
    rfl
  · rename_i hnone
    exact absurd (h.symm.trans hnone) (by simp)

theorem chunks_of_staysOpen (h : Text.StaysOpen 1 rest) :
    chunks ('{' :: rest) = [.literal ('{' :: rest)] := by
  have hnone := Text.closeBrace?_eq_none_iff.mpr h
  rw [chunks.eq_def]
  simp only [if_true]
  split
  · rename_i inner behind hinner
    exact absurd (hnone.symm.trans hinner) (by simp)
  · rfl

theorem Chunk.IsClosed.chunks_append (h : chunk.IsClosed) (rest : Text) :
    chunks (chunk.render ++ rest) = chunk :: chunks rest := by
  cases h with
  | literal c hopen => exact chunks_cons hopen
  | empty =>
    have hnil : Text.IsEnclosed [] := ⟨Text.staysOpen_nil.mpr Nat.one_pos, rfl⟩
    exact chunks_open (hnil.closeBrace?_append rest)
  | token content hne henclosed =>
    have hcut := chunks_open (henclosed.closeBrace?_append rest)
    rw [if_neg hne] at hcut
    rw [Chunk.render, List.append_assoc]
    exact hcut

/-- Closed chunks in front of a text are cut off one by one. -/
theorem chunks_append_of_isClosed (h : ∀ chunk ∈ cut, chunk.IsClosed) (rest : Text) :
    chunks (cut.flatMap Chunk.render ++ rest) = cut ++ chunks rest := by
  induction cut with
  | nil => rfl
  | cons chunk cut ih =>
    obtain ⟨hchunk, hlater⟩ := List.forall_mem_cons.mp h
    rw [List.flatMap_cons, List.append_assoc, hchunk.chunks_append, ih hlater, List.cons_append]

theorem chunks_flatMap_of_isClosed (h : ∀ chunk ∈ cut, chunk.IsClosed) :
    chunks (cut.flatMap Chunk.render) = cut := by
  have happend := chunks_append_of_isClosed h []
  rwa [List.append_nil, chunks, List.append_nil] at happend

theorem chunks_of_isOpen (h : IsOpen rest) :
    chunks rest = if rest = [] then [] else [.literal rest] := by
  rcases h with rfl | ⟨inside, rfl, hinside⟩
  · rw [chunks, if_pos rfl]
  · rw [chunks_of_staysOpen hinside, if_neg (List.cons_ne_nil _ _)]

/-- A closed chunk leaves no brace open. -/
theorem Chunk.IsClosed.depthFrom_render (h : chunk.IsClosed) :
    Text.depthFrom 0 chunk.render = 0 := by
  cases h with
  | literal c hopen =>
    rw [Chunk.render, Text.depthFrom_cons, Text.depthAfter, if_neg hopen]
    exact ite_self 0
  | empty => rfl
  | token content hne henclosed =>
    rw [Chunk.render, List.cons_append, Text.depthFrom_cons, Text.depthAfter_open,
      Text.depthFrom_append, henclosed.depth]
    rfl

theorem depthFrom_flatMap_render (h : ∀ chunk ∈ cut, chunk.IsClosed) :
    Text.depthFrom 0 (cut.flatMap Chunk.render) = 0 := by
  induction cut with
  | nil => rfl
  | cons chunk cut ih =>
    obtain ⟨hchunk, hlater⟩ := List.forall_mem_cons.mp h
    rw [List.flatMap_cons, Text.depthFrom_append, hchunk.depthFrom_render, ih hlater]

/-! ### The rest -/

/-- **A text consists of closed chunks and an expression that is not closed.** -/
theorem exists_isClosed (text : Text) :
    ∃ cut : List Chunk, (∀ chunk ∈ cut, chunk.IsClosed) ∧ IsOpen (openRest text) ∧
      text = cut.flatMap Chunk.render ++ openRest text := by
  fun_induction openRest text with
  | case1 => exact ⟨[], by simp, isOpen_nil, rfl⟩
  | case2 rest content after hsome hshort ih =>
    obtain ⟨cut, hcut, hopen, htext⟩ := ih
    have henclosed := Text.isEnclosed_of_closeBrace? hsome
    have hsource := Text.eq_append_of_closeBrace? hsome
    by_cases hempty : content = []
    · refine ⟨.literal ['{', '}'] :: cut, List.forall_mem_cons.mpr ⟨.empty, hcut⟩, hopen, ?_⟩
      rw [hsource, hempty, List.flatMap_cons, List.append_assoc, ← htext]
      rfl
    · refine ⟨.token content :: cut,
        List.forall_mem_cons.mpr ⟨.token content hempty henclosed, hcut⟩, hopen, ?_⟩
      rw [hsource, List.flatMap_cons, List.append_assoc, ← htext, Chunk.render, List.append_assoc]
      rfl
  | case3 rest hnone =>
    exact ⟨[], by simp, .inr ⟨rest, rfl, Text.closeBrace?_eq_none_iff.mp hnone⟩, rfl⟩
  | case4 c rest hc ih =>
    obtain ⟨cut, hcut, hopen, htext⟩ := ih
    refine ⟨.literal [c] :: cut, List.forall_mem_cons.mpr ⟨.literal c hc, hcut⟩, hopen, ?_⟩
    rw [List.flatMap_cons, List.append_assoc, ← htext]
    rfl

/-- An expression that is not closed is left as it is. -/
theorem expand_append {mapping : Mapping} (hcut : ∀ chunk ∈ cut, chunk.IsClosed)
    (hrest : IsOpen rest) (htext : mapping.text = cut.flatMap Chunk.render ++ rest)
    (value? : Text → Option Substitution) :
    mapping.expand value? = cut.flatMap (mapping.substitute value?) ++ rest := by
  rw [expand, htext, chunks_append_of_isClosed hcut, List.flatMap_append, chunks_of_isOpen hrest]
  split
  · rename_i hnil
    rw [hnil]
    rfl
  · rw [List.flatMap_singleton]
    rfl

/-- A text that leaves no brace open has no rest. -/
theorem isClosed_of_mem_chunks (h : Text.depthFrom 0 text = 0) (hchunk : chunk ∈ chunks text) :
    chunk.IsClosed := by
  obtain ⟨cut, hcut, hopen, htext⟩ := exists_isClosed text
  rcases hopen with hnil | ⟨inside, hinside, hstays⟩
  · rw [htext, hnil, chunks_append_of_isClosed hcut, chunks, List.append_nil] at hchunk
    exact hcut chunk hchunk
  · rw [htext, Text.depthFrom_append, depthFrom_flatMap_render hcut, hinside] at h
    exact absurd h (Nat.ne_of_gt (hstays inside (List.prefix_refl inside)))

/-- Behind a text that leaves no brace open, chunks are cut off as at the beginning. -/
theorem chunks_append (h : Text.depthFrom 0 text = 0) (other : Text) :
    chunks (text ++ other) = chunks text ++ chunks other := by
  conv_lhs => rw [← flatMap_render_chunks text]
  exact chunks_append_of_isClosed (fun chunk hchunk => isClosed_of_mem_chunks h hchunk) other

end Signpost.Mapping
