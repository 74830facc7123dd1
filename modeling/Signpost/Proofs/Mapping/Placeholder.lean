import Signpost.Mapping.Placeholder
import Signpost.Proofs.Text.Depth

/-!
# Where placeholders stand in a mapping

The search for placeholders cuts a mapping into pieces: placeholders, and single characters between
them. Replacing placeholders goes through the pieces one by one. What it puts in the place of a
placeholder depends on its content alone.

## Main definitions

* `Placeholder.Piece`, `Placeholder.pieces`: the pieces of a mapping.
* `Placeholder.filling?`: the text that is found for a placeholder, its value or its default.
* `Placeholder.fillings`: the texts that are found for the placeholders of a mapping.

## Main results

* `Placeholder.flatMap_source_pieces`: the pieces make up the mapping.
* `Placeholder.resolve_eq`: the mapping with its placeholders replaced.
-/

namespace Signpost.Placeholder

/-- A piece of a mapping. -/
inductive Piece where
  | literal (c : Char)
  | placeholder (content : Text)
  deriving DecidableEq, Repr

/-- The pieces of a mapping. A placeholder that is never closed ends the search. -/
def pieces (text : Text) : List Piece :=
  match text with
  | [] => []
  | [c] => [.literal c]
  | c :: d :: rest =>
    if c = '$' ∧ d = '{' then
      match h : Text.closeBrace? rest with
      | some (content, after) =>
        have : after.length < rest.length := Text.length_lt_of_closeBrace? h
        .placeholder content :: pieces after
      | none => (c :: d :: rest).map .literal
    else .literal c :: pieces (d :: rest)
termination_by text.length

/-- The text that is found for the placeholder with the given content: the value of its key, else
its default. -/
def filling? (value? : Text → Option Text) (content : Text) : Option Text :=
  match Text.splitOnce? ':' content with
  | some (key, default) => some ((value? key.trim).getD default)
  | none => value? content.trim

/-- The texts that are found for the placeholders among pieces. -/
def fillings (value? : Text → Option Text) (pieces : List Piece) : List Text :=
  pieces.filterMap fun
    | .literal _ => none
    | .placeholder content => filling? value? content

namespace Piece

/-- The piece as it stands in the mapping. -/
def source : Piece → Text
  | literal c => [c]
  | placeholder content => '$' :: '{' :: content ++ ['}']

/-- What replacing placeholders puts in the place of the piece. -/
def put (value? : Text → Option Text) (piece : Piece) : Text :=
  match piece with
  | literal c => [c]
  | placeholder content => (filling? value? content).getD piece.source

end Piece

variable {value? : Text → Option Text} {c : Char} {text content rest : Text}

theorem substitute_eq (value? : Text → Option Text) (content : Text) :
    substitute value? content = (Piece.placeholder content).put value? := by
  rw [substitute, Piece.put, filling?]
  cases Text.splitOnce? ':' content with
  | none =>
    simp only
    cases value? content.trim with
    | none => rfl
    | some value => rfl
  | some sides =>
    simp only
    cases value? sides.1.trim with
    | none => rfl
    | some value => rfl

/-! ### One step of the search -/

/-- A character that begins no placeholder stays. -/
theorem resolve_cons (hc : c = '$' → rest.head? ≠ some '{') :
    resolve value? (c :: rest) = c :: resolve value? rest := by
  cases rest with
  | nil => rw [resolve, resolve]
  | cons d rest =>
    rw [resolve, if_neg]
    rintro ⟨hdollar, rfl⟩
    exact hc hdollar rfl

/-- A placeholder gives way to what is found for it, and the search goes on behind it. -/
theorem resolve_placeholder (h : Text.IsEnclosed content) (rest : Text) :
    resolve value? ('$' :: '{' :: (content ++ '}' :: rest)) =
      (Piece.placeholder content).put value? ++ resolve value? rest := by
  have hclose := h.closeBrace?_append rest
  rw [resolve, if_pos ⟨rfl, rfl⟩]
  split
  · rename_i inner after hinner
    obtain ⟨rfl, rfl⟩ := Prod.mk.inj (Option.some_inj.mp (hclose.symm.trans hinner))
    rw [substitute_eq]
  · rename_i hnone
    exact absurd (hclose.symm.trans hnone) (by simp)

/-- A placeholder that is never closed ends the search. -/
theorem resolve_of_staysOpen (h : Text.StaysOpen 1 text) :
    resolve value? ('$' :: '{' :: text) = '$' :: '{' :: text := by
  have hnone := Text.closeBrace?_eq_none_iff.mpr h
  rw [resolve, if_pos ⟨rfl, rfl⟩]
  split
  · rename_i inner after hinner
    exact absurd (hnone.symm.trans hinner) (by simp)
  · rfl

/-! ### The pieces -/

theorem flatMap_literal {f : Piece → Text} (hf : ∀ c, f (.literal c) = [c]) (text : Text) :
    (text.map Piece.literal).flatMap f = text := by
  rw [List.flatMap_map]
  simp only [hf]
  exact List.flatMap_singleton' text

/-- Replacing placeholders replaces the pieces one by one. -/
theorem resolve_eq (value? : Text → Option Text) (text : Text) :
    resolve value? text = (pieces text).flatMap (Piece.put value?) := by
  fun_induction pieces text with
  | case1 => rw [resolve, List.flatMap_nil]
  | case2 c =>
    rw [resolve]
    rfl
  | case3 c d rest hplaceholder content after hclose hlength ih =>
    obtain ⟨rfl, rfl⟩ := hplaceholder
    rw [Text.eq_append_of_closeBrace? hclose,
      resolve_placeholder (Text.isEnclosed_of_closeBrace? hclose), ih, List.flatMap_cons]
  | case4 c d rest hplaceholder hnone =>
    obtain ⟨rfl, rfl⟩ := hplaceholder
    rw [resolve_of_staysOpen (Text.closeBrace?_eq_none_iff.mp hnone)]
    exact (flatMap_literal (fun _ => rfl) _).symm
  | case5 c d rest hliteral ih =>
    rw [resolve_cons fun hdollar hopen => hliteral ⟨hdollar, by simpa using hopen⟩, ih,
      List.flatMap_cons]
    rfl

/-- The pieces make up the mapping. -/
theorem flatMap_source_pieces (text : Text) : (pieces text).flatMap Piece.source = text := by
  fun_induction pieces text with
  | case1 => rfl
  | case2 c => rfl
  | case3 c d rest hplaceholder content after hclose hlength ih =>
    obtain ⟨rfl, rfl⟩ := hplaceholder
    rw [List.flatMap_cons, ih, Text.eq_append_of_closeBrace? hclose, Piece.source,
      List.append_assoc]
    rfl
  | case4 c d rest hplaceholder hnone => exact flatMap_literal (fun _ => rfl) _
  | case5 c d rest hliteral ih =>
    rw [List.flatMap_cons, ih]
    rfl

/-- A placeholder among the pieces was closed. -/
theorem exists_closeBrace?_of_mem (h : .placeholder content ∈ pieces text) :
    ∃ opened rest, Text.closeBrace? opened = some (content, rest) := by
  fun_induction pieces text with
  | case1 => exact absurd h List.not_mem_nil
  | case2 c => exact absurd (List.mem_singleton.mp h) (by simp)
  | case3 c d rest hplaceholder content' after hclose hlength ih =>
    rcases List.mem_cons.mp h with heq | hlater
    · obtain rfl := Piece.placeholder.inj heq
      exact ⟨rest, after, hclose⟩
    · exact ih hlater
  | case4 c d rest hplaceholder hnone =>
    obtain ⟨e, -, heq⟩ := List.mem_map.mp h
    exact absurd heq (by simp)
  | case5 c d rest hliteral ih =>
    rcases List.mem_cons.mp h with heq | hlater
    · exact absurd heq (by simp)
    · exact ih hlater

end Signpost.Placeholder
