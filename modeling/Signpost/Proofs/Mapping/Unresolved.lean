import Mathlib.Data.List.Basic
import Signpost.Proofs.Mapping.Placeholder
import Signpost.Proofs.Mapping.Plain

/-!
# Placeholders that stay in a mapping

A placeholder for which no text is found stays in the mapping as it is. Reading the mapping knows no
placeholders: the braces of one that stayed are read as a token, the dollar sign in front of them as
a character like others. Hence the key of the placeholder is read as the name of a variable, and
expanding the mapping puts the value of this variable behind the dollar sign.

## Main results

* `Mapping.chunks_of_placeholder`: how a mapping with a placeholder is cut.
* `Mapping.fill_append`: a mapping is filled part by part.
* `Mapping.fill_chunks_of_placeholder`: what a mapping with a placeholder that stays is filled to.
-/

namespace Signpost

/-- A placeholder for which no text is found stays where it is. -/
theorem Placeholder.resolve_eq_of_filling?_eq_none {value? : Text → Option Text}
    {mapping content : Text} {front back : List Piece}
    (hpieces : pieces mapping = front ++ .placeholder content :: back)
    (hcontent : filling? value? content = none) :
    resolve value? mapping = front.flatMap (Piece.put value?) ++
      (Piece.placeholder content).source ++ back.flatMap (Piece.put value?) := by
  have hput : (Piece.placeholder content).put value? = (Piece.placeholder content).source := by
    rw [Piece.put, hcontent]
    rfl
  rw [resolve_eq, hpieces, List.flatMap_append, List.flatMap_cons, hput, List.append_assoc]

namespace Mapping

variable {cut : List Chunk} {front back rest : Text}

/-! ### Cutting -/

/-- An opening brace is not in the rest of a flat token. -/
theorem exists_eq_append_of_notMem {content after : Text} (hopen : '{' ∉ content)
    (h : content ++ '}' :: after = front ++ '{' :: rest) :
    ∃ more, front = content ++ '}' :: more ∧ after = more ++ '{' :: rest := by
  rcases List.append_eq_append_iff.mp h with ⟨more, hfront, hmore⟩ | ⟨more, hcontent, hmore⟩
  · cases more with
    | nil => exact absurd (List.cons.inj hmore).1 (by decide)
    | cons c more =>
      obtain ⟨rfl, hafter⟩ := List.cons.inj hmore
      exact ⟨more, hfront, hafter⟩
  · cases more with
    | nil => exact absurd (List.cons.inj hmore).1 (by decide)
    | cons c more =>
      obtain ⟨rfl, -⟩ := List.cons.inj hmore
      exact absurd (hcontent ▸ List.mem_append_right _ List.mem_cons_self) hopen

/-- Flat chunks are cut apart at every opening brace. -/
theorem exists_append_of_flatMap_render (h : ∀ chunk ∈ cut, chunk.IsFlat)
    (hcut : cut.flatMap Chunk.render = front ++ '{' :: rest) :
    ∃ left right, cut = left ++ right ∧ left.flatMap Chunk.render = front ∧
      right.flatMap Chunk.render = '{' :: rest := by
  induction cut generalizing front with
  | nil => exact absurd hcut.symm (by simp)
  | cons chunk cut ih =>
    obtain ⟨hchunk, hlater⟩ := List.forall_mem_cons.mp h
    cases front with
    | nil => exact ⟨[], chunk :: cut, rfl, rfl, hcut⟩
    | cons c front =>
      rw [List.flatMap_cons] at hcut
      cases hchunk with
      | literal d hopen hclose =>
        obtain ⟨rfl, hrest⟩ := List.cons.inj hcut
        obtain ⟨left, right, rfl, hleft, hright⟩ := ih hlater hrest
        refine ⟨.literal [d] :: left, right, rfl, ?_, hright⟩
        rw [List.flatMap_cons, hleft]
        rfl
      | token content hne hopen hclose =>
        rw [Chunk.render, List.append_assoc] at hcut
        obtain ⟨rfl, hinner⟩ := List.cons.inj hcut
        obtain ⟨more, rfl, hmore⟩ := exists_eq_append_of_notMem hopen hinner
        obtain ⟨left, right, rfl, hleft, hright⟩ := ih hlater hmore
        refine ⟨.token content :: left, right, rfl, ?_, hright⟩
        rw [List.flatMap_cons, hleft, Chunk.render, List.append_assoc]
        rfl

/-- Flat chunks that end with a character other than a brace end with its literal. -/
theorem eq_concat_literal (h : ∀ chunk ∈ cut, chunk.IsFlat) {c : Char} (hc : c ≠ '}')
    (hcut : cut.flatMap Chunk.render = front ++ [c]) : cut = chunks front ++ [.literal [c]] := by
  rcases List.eq_nil_or_concat cut with rfl | ⟨left, last, rfl⟩
  · exact absurd hcut.symm (by simp)
  · rw [List.concat_eq_append] at h hcut ⊢
    obtain ⟨hleft, hlast⟩ := List.forall_mem_append.mp h
    rw [List.flatMap_append, List.flatMap_singleton] at hcut
    cases hlast last List.mem_cons_self with
    | literal d hopen hclose =>
      obtain ⟨hfront, hd⟩ := List.append_inj' hcut rfl
      rw [← hfront, chunks_flatMap hleft, (List.cons.inj hd).1]
    | token content hne hopen hclose =>
      rw [Chunk.render, ← List.append_assoc] at hcut
      exact absurd (List.cons.inj (List.append_inj' hcut rfl).2).1.symm hc

/-- The braces of a placeholder are cut off as a token, the dollar sign as a character. -/
theorem chunks_of_placeholder {content : Text}
    (h : ∀ chunk ∈ chunks (front ++ (Placeholder.Piece.placeholder content).source ++ back),
      chunk.IsFlat)
    (hclose : ∃ opened behind, Text.closeBrace? opened = some (content, behind)) :
    chunks (front ++ (Placeholder.Piece.placeholder content).source ++ back) =
      chunks front ++ .literal ['$'] :: .token content :: chunks back := by
  obtain ⟨opened, behind, hclose⟩ := hclose
  have hrender := flatMap_render_chunks
    (front ++ (Placeholder.Piece.placeholder content).source ++ back)
  generalize hcut : chunks (front ++ (Placeholder.Piece.placeholder content).source ++ back) = cut
    at h hrender ⊢
  have hbrace : cut.flatMap Chunk.render = (front ++ ['$']) ++ '{' :: (content ++ '}' :: back) := by
    rw [hrender, Placeholder.Piece.source]
    simp only [List.append_assoc, List.cons_append, List.nil_append]
  obtain ⟨left, right, rfl, hleft, hright⟩ := exists_append_of_flatMap_render h hbrace
  obtain ⟨hflatLeft, hflatRight⟩ := List.forall_mem_append.mp h
  have hopen := chunks_open (Text.closeBrace?_of_closeBrace? hclose back)
  rw [← hright, chunks_flatMap hflatRight] at hopen
  have hne : content ≠ [] := by
    rintro rfl
    rw [if_pos rfl] at hopen
    have hempty := hflatRight (.literal ['{', '}']) (hopen ▸ List.mem_cons_self)
    cases hempty
  rw [eq_concat_literal hflatLeft (by decide) hleft, hopen, if_neg hne, List.append_assoc]
  rfl

/-! ### Filling -/

/-- A mapping is filled part by part, unless a part begins with a catch-all. -/
theorem fill_append {others : List Chunk} (h : others.head?.any Chunk.isCatchAll = false)
    (value : Variable → Text) (cut : List Chunk) :
    fill value (cut ++ others) = fill value cut ++ fill value others := by
  induction cut with
  | nil => rfl
  | cons chunk cut ih =>
    cases chunk with
    | token content => rw [List.cons_append, fill, fill, ih, List.append_assoc]
    | literal text =>
      have hhead : (cut ++ others).head?.any Chunk.isCatchAll =
          cut.head?.any Chunk.isCatchAll := by
        cases cut with
        | nil => exact h
        | cons next cut => rfl
      rw [List.cons_append, fill, fill, ih, hhead, List.append_assoc]

/-- **A placeholder that stays in a mapping.** It is filled like a variable behind a dollar sign. -/
theorem fill_chunks_of_placeholder {content : Text}
    (h : ∀ chunk ∈ chunks (front ++ (Placeholder.Piece.placeholder content).source ++ back),
      chunk.IsFlat)
    (hclose : ∃ opened behind, Text.closeBrace? opened = some (content, behind))
    (value : Variable → Text) :
    fill value (chunks (front ++ (Placeholder.Piece.placeholder content).source ++ back)) =
      fill value (chunks front) ++ '$' :: value (tokenVariable content) ++
        fill value (chunks back) := by
  have hdollar : ¬(['$'] = ['/'] ∧
      ((Chunk.token content :: chunks back).head?.any Chunk.isCatchAll) = true) :=
    fun hslash => absurd hslash.1 (by decide)
  rw [chunks_of_placeholder h hclose, fill_append rfl, fill, if_neg hdollar, fill,
    List.append_assoc]
  rfl

end Mapping

end Signpost
