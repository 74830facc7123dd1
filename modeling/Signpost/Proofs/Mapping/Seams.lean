import Mathlib
import Signpost.Proofs.Mapping.Clean
import Signpost.Proofs.Mapping.Fragments
import Signpost.Proofs.Mapping.Placeholder
import Signpost.Proofs.Mapping.Source

/-!
# Where placeholders undo a clean-up

The mapping of a method is cleaned up before its placeholders are replaced, and nothing cleans it up
afterwards. If all texts that are put in are clean themselves, an empty segment begins at a *seam*:
where a piece that begins with a slash is put behind a slash. Without values that open or close
braces, one of the pieces around a seam was put in for a placeholder. A slash at the end can only
come with a placeholder there.

A handler that is mapped to `/` adds nothing to the mapping of its methods, while a handler that is
mapped to a placeholder with the value `/` adds an empty segment.

## Main results

* `MappingSource.isNormal_answer_iff`: the mapping of a method is normal if and only if it has no
  seams and no slash at its end.
* `Placeholder.not_isSeam_of_literals`: characters of the mapping alone make no seam.
* `Placeholder.isNormal_resolve_iff`: seams with ordinary values.
-/

namespace Signpost

namespace Placeholder

open Mapping (IsApart IsSeam IsNormal clean isApart_append_iff isApart_flatMap_iff
  isApart_of_notMem isApart_singleton_iff)

variable {value? : Text → Option Text} {mapping content text : Text} {cut : List Piece}

theorem mem_fillings_iff :
    text ∈ fillings value? cut ↔
      ∃ content, .placeholder content ∈ cut ∧ filling? value? content = some text := by
  rw [fillings, List.mem_filterMap]
  constructor
  · rintro ⟨piece, hpiece, htext⟩
    cases piece with
    | literal c => exact absurd htext (by simp)
    | placeholder content => exact ⟨content, hpiece, htext⟩
  · rintro ⟨content, hcontent, htext⟩
    exact ⟨_, hcontent, htext⟩

/-- What is put in for a placeholder is a text found for it, or the placeholder itself. -/
theorem put_placeholder_cases (value? : Text → Option Text) (content : Text) :
    filling? value? content = some ((Piece.placeholder content).put value?) ∨
      filling? value? content = none ∧
        (Piece.placeholder content).put value? = (Piece.placeholder content).source := by
  rw [Piece.put]
  cases filling? value? content with
  | none => exact .inr ⟨rfl, rfl⟩
  | some text => exact .inl rfl

/-! ### Pieces -/

/-- A placeholder has no empty segment outside its own braces. -/
theorem isApart_source (h : .placeholder content ∈ pieces mapping) :
    IsApart [] (Piece.placeholder content).source := by
  obtain ⟨opened, rest, hclose⟩ := exists_closeBrace?_of_mem h
  change IsApart [] (['$', '{'] ++ content ++ ['}'])
  rw [isApart_append_iff, isApart_append_iff]
  refine ⟨⟨isApart_of_notMem (by decide) _, fun front back heq hdepth => ?_⟩,
    isApart_of_notMem (by decide) _⟩
  have hinside : 0 < Text.depthFrom 1 front :=
    Text.pos_depthFrom_of_closeBrace? hclose ⟨_, heq.symm⟩
  exact absurd hdepth hinside.ne'

/-- What is put in for a piece has no empty segments of its own, if the texts that are found are
clean. -/
theorem isApart_put (hclean : ∀ text ∈ fillings value? (pieces mapping), clean text = text)
    {piece : Piece} (h : piece ∈ pieces mapping) : IsApart [] (piece.put value?) := by
  cases piece with
  | literal c => exact isApart_singleton_iff.mpr fun _ _ => by simp
  | placeholder content =>
    rcases put_placeholder_cases value? content with hfound | ⟨-, hkept⟩
    · rw [← hclean _ (mem_fillings_iff.mpr ⟨content, h, hfound⟩)]
      exact (Mapping.isNormal_clean _).isApart
    · rw [hkept]
      exact isApart_source h

/-- A slash at the end of a mapping with its placeholders replaced comes with a placeholder there,
unless the mapping has one. -/
theorem exists_placeholder_of_getLast? (hnormal : IsNormal mapping)
    (hlast : (resolve value? mapping).getLast? = some '/') :
    resolve value? mapping = ['/'] ∨
      ∃ before content, pieces mapping = before ++ [.placeholder content] := by
  have hsource := flatMap_source_pieces mapping
  rw [resolve_eq] at hlast ⊢
  rcases List.eq_nil_or_concat (pieces mapping) with hnone | ⟨before, piece, hpieces⟩
  · rw [hnone] at hlast
    exact absurd hlast (by simp)
  · rw [List.concat_eq_append] at hpieces
    cases piece with
    | placeholder content => exact .inr ⟨before, content, hpieces⟩
    | literal c =>
      have hc : c = '/' := by
        rw [hpieces, List.flatMap_append, List.flatMap_singleton, Piece.put,
          List.getLast?_concat] at hlast
        exact Option.some_inj.mp hlast
      rw [hpieces, List.flatMap_append, List.flatMap_singleton, Piece.source, hc] at hsource
      have hslash := hnormal.eq_slash (hsource ▸ List.getLast?_concat)
      left
      rw [hslash]
      cbv

/-- **Where replacing placeholders undoes a clean-up.** -/
theorem isNormal_resolve_iff_forall_not_isSeam (hnormal : IsNormal mapping)
    (hclean : ∀ text ∈ fillings value? (pieces mapping), clean text = text) :
    IsNormal (resolve value? mapping) ↔
      (∀ before piece after, pieces mapping = before ++ piece :: after →
        ¬IsSeam (before.flatMap (Piece.put value?)) (piece.put value?)) ∧
      ∀ before content, pieces mapping = before ++ [.placeholder content] →
        (resolve value? mapping).getLast? = some '/' → resolve value? mapping = ['/'] := by
  have hseams := isApart_flatMap_iff (fun _ => isApart_put hclean) []
  rw [← resolve_eq] at hseams
  constructor
  · intro h
    exact ⟨hseams.mp h.isApart, fun _ _ _ => h.eq_slash⟩
  · rintro ⟨hnone, hend⟩
    refine ⟨hseams.mpr hnone, fun hlast => ?_⟩
    rcases exists_placeholder_of_getLast? hnormal hlast with hslash | ⟨before, content, hpieces⟩
    · exact hslash
    · exact hend before content hpieces hlast

/-! ### Values without braces -/

section

variable (hbalanced : ∀ text ∈ fillings value? (pieces mapping), text.IsBalanced)

theorem isBalanced_source (h : .placeholder content ∈ pieces mapping) :
    (Piece.placeholder content).source.IsBalanced := by
  obtain ⟨opened, rest, hclose⟩ := exists_closeBrace?_of_mem h
  exact Text.isBalanced_of_closeBrace? hclose

include hbalanced

theorem depthFrom_put {piece : Piece} (h : piece ∈ pieces mapping) (depth : Nat) :
    Text.depthFrom depth (piece.put value?) = Text.depthFrom depth piece.source := by
  cases piece with
  | literal c => rfl
  | placeholder content =>
    rw [isBalanced_source h depth]
    rcases put_placeholder_cases value? content with hfound | ⟨-, hkept⟩
    · exact hbalanced _ (mem_fillings_iff.mpr ⟨content, h, hfound⟩) depth
    · rw [hkept, isBalanced_source h depth]

/-- Replacing placeholders does not lead into braces or out of them. -/
theorem depthFrom_flatMap_put (hcut : ∀ piece ∈ cut, piece ∈ pieces mapping) (depth : Nat) :
    Text.depthFrom depth (cut.flatMap (Piece.put value?)) =
      Text.depthFrom depth (cut.flatMap Piece.source) := by
  induction cut generalizing depth with
  | nil => rfl
  | cons piece cut ih =>
    obtain ⟨hpiece, hlater⟩ := List.forall_mem_cons.mp hcut
    rw [List.flatMap_cons, List.flatMap_cons, Text.depthFrom_append, Text.depthFrom_append,
      depthFrom_put hbalanced hpiece, ih hlater]

/-- Characters of a normal mapping that stand side by side make no seam. -/
theorem not_isSeam_of_literals (hnormal : IsNormal mapping) {before after : List Piece} {c d : Char}
    (hpieces : pieces mapping = before ++ .literal c :: .literal d :: after) :
    ¬IsSeam ((before ++ [Piece.literal c]).flatMap (Piece.put value?)) [d] := by
  rintro ⟨hbehind, houtside, hhead⟩
  have hcut : ∀ piece ∈ before ++ [Piece.literal c], piece ∈ pieces mapping := by
    intro piece hpiece
    rw [hpieces, ← List.singleton_append, ← List.append_assoc]
    exact List.mem_append_left _ hpiece
  rw [depthFrom_flatMap_put hbalanced hcut] at houtside
  have hsource : mapping =
      (before ++ [Piece.literal c]).flatMap Piece.source ++ '/' :: after.flatMap Piece.source := by
    rw [← flatMap_source_pieces mapping, hpieces, ← Option.some_inj.mp hhead,
      List.flatMap_append, List.flatMap_append, List.append_assoc]
    rfl
  refine hnormal.isApart _ _ hsource houtside ?_
  rw [List.flatMap_append, List.flatMap_singleton, Piece.put, List.getLast?_concat] at hbehind
  rw [List.nil_append, List.flatMap_append, List.flatMap_singleton, Piece.source,
    List.getLast?_concat, hbehind]

end

/-! ### Ordinary values -/

section

variable
  (hordinary : ∀ text ∈ fillings value? (pieces mapping), clean text = text ∧ text.IsBalanced ∧
    text ≠ [] ∧ text ≠ ['/'])

include hordinary

theorem put_ne_nil {piece : Piece} (h : piece ∈ pieces mapping) : piece.put value? ≠ [] := by
  cases piece with
  | literal c => exact List.cons_ne_nil c []
  | placeholder content =>
    rcases put_placeholder_cases value? content with hfound | ⟨-, hkept⟩
    · exact (hordinary _ (mem_fillings_iff.mpr ⟨content, h, hfound⟩)).2.2.1
    · rw [hkept]
      exact List.cons_ne_nil _ _

/-- Neither ordinary values nor placeholders end with a slash. -/
theorem getLast?_put_ne (h : .placeholder content ∈ pieces mapping) :
    ((Piece.placeholder content).put value?).getLast? ≠ some '/' := by
  rcases put_placeholder_cases value? content with hfound | ⟨-, hkept⟩
  · obtain ⟨hclean, -, -, hslash⟩ := hordinary _ (mem_fillings_iff.mpr ⟨content, h, hfound⟩)
    intro hlast
    rw [← hclean] at hlast hslash
    exact hslash ((Mapping.isNormal_clean _).eq_slash hlast)
  · rw [hkept, Piece.source, List.getLast?_concat]
    decide

/-- What is put out up to a piece ends as the piece does. -/
theorem getLast?_flatMap_put {before after : List Piece} {piece : Piece}
    (hpieces : pieces mapping = before ++ piece :: after) :
    ((before ++ [piece]).flatMap (Piece.put value?)).getLast? = (piece.put value?).getLast? := by
  have hmem : piece ∈ pieces mapping := hpieces ▸ List.mem_append_right _ List.mem_cons_self
  rw [List.flatMap_append, List.flatMap_singleton,
    List.getLast?_append_of_ne_nil _ (put_ne_nil hordinary hmem)]

/-- With ordinary values a seam is a value behind a slash of the mapping. -/
theorem exists_filling_of_isSeam (hnormal : IsNormal mapping) {before after : List Piece}
    {piece : Piece} (hpieces : pieces mapping = before ++ piece :: after)
    (hseam : IsSeam (before.flatMap (Piece.put value?)) (piece.put value?)) :
    ∃ front content, before = front ++ [.literal '/'] ∧ piece = .placeholder content ∧
      filling? value? content = some (piece.put value?) := by
  rcases List.eq_nil_or_concat before with rfl | ⟨front, last, rfl⟩
  · exact absurd hseam.behind (by simp)
  · rw [List.concat_eq_append] at hpieces hseam ⊢
    have hlast : pieces mapping = front ++ last :: piece :: after := by
      rw [hpieces, List.append_assoc]
      rfl
    have hbehind := hseam.behind
    rw [getLast?_flatMap_put hordinary hlast] at hbehind
    cases last with
    | placeholder content =>
      have hmem : .placeholder content ∈ pieces mapping :=
        hlast ▸ List.mem_append_right _ List.mem_cons_self
      exact absurd hbehind (getLast?_put_ne hordinary hmem)
    | literal c =>
      cases piece with
      | literal d =>
        exact absurd hseam
          (not_isSeam_of_literals (fun text htext => (hordinary text htext).2.1) hnormal hlast)
      | placeholder content =>
        have hslash : c = '/' := Option.some_inj.mp hbehind
        refine ⟨front, content, hslash ▸ rfl, rfl, ?_⟩
        rcases put_placeholder_cases value? content with hfound | ⟨-, hkept⟩
        · exact hfound
        · have hhead := hseam.head
          rw [hkept] at hhead
          exact absurd (Option.some_inj.mp hhead) (by decide)

/-- **Ordinary values undo a clean-up behind slashes only.** Let the values that are put in be
balanced, clean and neither empty nor a slash. Then the mapping is normal if and only if none that
begins with a slash stands right behind a slash of the mapping, outside braces. -/
theorem isNormal_resolve_iff (hnormal : IsNormal mapping) :
    IsNormal (resolve value? mapping) ↔
      ∀ before content after text,
        pieces mapping = before ++ .literal '/' :: .placeholder content :: after →
          filling? value? content = some text → text.head? = some '/' →
            Text.depthFrom 0 (before.flatMap Piece.source) ≠ 0 := by
  have hdepth {before : List Piece} (hcut : ∀ piece ∈ before, piece ∈ pieces mapping) :
      Text.depthFrom 0 ((before ++ [Piece.literal '/']).flatMap (Piece.put value?)) =
        Text.depthFrom 0 (before.flatMap Piece.source) := by
    rw [List.flatMap_append, Text.depthFrom_append,
      depthFrom_flatMap_put (fun text htext => (hordinary text htext).2.1) hcut]
    rfl
  have hcut {before rest : List Piece} (hpieces : pieces mapping = before ++ rest) :
      ∀ piece ∈ before, piece ∈ pieces mapping :=
    fun piece hpiece => hpieces ▸ List.mem_append_left _ hpiece
  rw [isNormal_resolve_iff_forall_not_isSeam hnormal fun text htext => (hordinary text htext).1]
  constructor
  · rintro ⟨hnone, -⟩ before content after text hpieces hfound hhead houtside
    refine hnone (before ++ [.literal '/']) (.placeholder content) after ?_ ⟨?_, ?_, ?_⟩
    · rw [hpieces, List.append_assoc]
      rfl
    · rw [getLast?_flatMap_put hordinary hpieces]
      rfl
    · exact (hdepth (hcut hpieces)).trans houtside
    · rwa [Piece.put, hfound]
  · refine fun hinside => ⟨fun before piece after hpieces hseam => ?_,
      fun before content hpieces hlast => ?_⟩
    · obtain ⟨front, content, rfl, rfl, hfound⟩ :=
        exists_filling_of_isSeam hordinary hnormal hpieces hseam
      rw [List.append_assoc] at hpieces
      exact hinside front content after _ hpieces hfound hseam.head
        ((hdepth (hcut hpieces)).symm.trans hseam.outside)
    · rw [resolve_eq, hpieces, getLast?_flatMap_put hordinary hpieces] at hlast
      exact absurd hlast
        (getLast?_put_ne hordinary (hpieces ▸ List.mem_append_right _ List.mem_cons_self))

end

end Placeholder

namespace MappingSource

open Placeholder (Piece fillings pieces resolve)
open Mapping (IsNormal IsSeam clean)

/-- The mapping that is declared for a method with a fragment of its own is cleaned up. -/
theorem exists_declaredAnswer?_eq (handlers : HandlerTable) (handler : Handler) {method : Method}
    {fragment : Text} (hfragment : method.mapping = some fragment) (hne : fragment ≠ []) :
    ∃ mapping, IsNormal mapping ∧
      declaredAnswer? handlers (.ofMethod handler method) = some mapping ∧
      declaredAnswer? handlers (.ofCall handler method) = some mapping := by
  have hclean := Mapping.ofFragments_eq_clean_joined (handlers.typeMapping? handler) hne
  rw [← hfragment] at hclean
  exact ⟨_, Mapping.isNormal_clean _, hclean, hclean⟩

/-- **When placeholders undo a clean-up.** Take any handler, any method with a fragment of its own
and any values of placeholders. The mapping that is declared for the method is normal, and the
answer has its placeholders replaced. If all texts that are put in, values and defaults, are clean,
the answer is normal if and only if no piece that begins with a slash is put behind a slash outside
braces and no placeholder leaves a slash at its end, other than the answer `/`. If they are balanced
besides, a piece put behind another one makes a seam only if one of both is a placeholder. -/
theorem isNormal_answer_iff (surroundings : Surroundings) (placeholders : PlaceholderSource)
    (handler : Handler) {method : Method} {fragment : Text}
    (hfragment : method.mapping = some fragment) (hne : fragment ≠ []) :
    let value? := placeholders.value? surroundings
    ∃ mapping, IsNormal mapping ∧
      ∀ inquiry ∈ [Inquiry.ofMethod handler method, .ofCall handler method],
        declaredAnswer? surroundings.handlers inquiry = some mapping ∧
        ∃ raw, (answer surroundings inquiry (resolved placeholders)).1 = some raw ∧
          raw = (pieces mapping).flatMap (Piece.put value?) ∧
          ((∀ text ∈ fillings value? (pieces mapping), clean text = text) →
            (IsNormal raw ↔
              (∀ before piece after, pieces mapping = before ++ piece :: after →
                ¬IsSeam (before.flatMap (Piece.put value?)) (piece.put value?)) ∧
              ∀ before content, pieces mapping = before ++ [.placeholder content] →
                raw.getLast? = some '/' → raw = ['/'])) ∧
          ((∀ text ∈ fillings value? (pieces mapping), text.IsBalanced) →
            ∀ before c d after, pieces mapping = before ++ .literal c :: .literal d :: after →
              ¬IsSeam ((before ++ [Piece.literal c]).flatMap (Piece.put value?)) [d]) := by
  intro value?
  obtain ⟨mapping, hnormal, hofMethod, hofCall⟩ :=
    exists_declaredAnswer?_eq surroundings.handlers handler hfragment hne
  refine ⟨mapping, hnormal, fun inquiry hinquiry => ?_⟩
  have hdeclared : declaredAnswer? surroundings.handlers inquiry = some mapping := by
    rcases List.mem_cons.mp hinquiry with rfl | hlater
    · exact hofMethod
    · rw [List.mem_singleton.mp hlater, hofCall]
  refine ⟨hdeclared, resolve value? mapping, ?_, Placeholder.resolve_eq value? mapping,
    Placeholder.isNormal_resolve_iff_forall_not_isSeam hnormal, fun hbalanced _ _ _ _ =>
      Placeholder.not_isSeam_of_literals hbalanced hnormal⟩
  rw [answer_resolved, hdeclared]
  rfl

/-- A method with a fragment of its own. -/
def peopleMethod : Method :=
  { name := "list".toList, mapping := some "/people".toList }

/-- A handler with a mapping. -/
def peopleHandler (mapping : Text) : Handler :=
  { type := "People".toList, mapping := some mapping, methods := [peopleMethod] }

/-- The value `/` of a placeholder makes a seam with the slash behind the placeholder. -/
theorem isNormal_answer_iff_people :
    let inquiry := Inquiry.ofCall (peopleHandler "${base}".toList) peopleMethod
    let placeholders := PlaceholderSource.fixed [("base".toList, "/".toList)]
    (answer {} inquiry (resolved placeholders)).1 = some "//people".toList ∧
      ¬IsNormal "//people".toList := by
  intro inquiry placeholders
  have hfragment : peopleMethod.mapping = some "/people".toList := rfl
  obtain ⟨mapping, -, hmapping⟩ :=
    isNormal_answer_iff {} placeholders (peopleHandler "${base}".toList) hfragment (by decide)
  obtain ⟨hdeclared, raw, hraw, hput, hnormal, -⟩ := hmapping inquiry (by simp [inquiry])
  have hpieces : pieces mapping =
      .placeholder "base".toList :: "/people".toList.map .literal := by
    have hmade : declaredAnswer? {} inquiry = some "${base}/people".toList := by cbv
    rw [← Option.some_inj.mp (hmade.symm.trans hdeclared)]
    cbv
  rw [hpieces] at hput hnormal
  have hanswer : raw = "//people".toList := by
    rw [hput]
    cbv
  rw [hraw, hanswer]
  refine ⟨rfl, fun h => ?_⟩
  rw [hanswer] at hnormal
  refine ((hnormal fun text htext => ?_).mp h).1 [.placeholder "base".toList] (.literal '/')
    ("people".toList.map .literal) rfl ⟨?_, ?_, ?_⟩
  · have hslash : fillings (placeholders.value? {})
        (.placeholder "base".toList :: "/people".toList.map .literal) = ["/".toList] := by cbv
    rw [hslash] at htext
    rw [List.mem_singleton.mp htext]
    cbv
  · cbv
  · cbv
  · rfl

/-- The same value as the mapping of the handler itself adds nothing. -/
theorem not_isNormal_answer_people :
    let placeholders := PlaceholderSource.fixed [("base".toList, "/".toList)]
    let answerWith (mapping : Text) :=
      (answer {} (.ofCall (peopleHandler mapping) peopleMethod) (resolved placeholders)).1
    (∀ key value, placeholders.value? {} key = some value → clean value = value) ∧
      answerWith "${base}".toList = some "//people".toList ∧ ¬IsNormal "//people".toList ∧
      answerWith "/".toList = some "/people".toList := by
  intro placeholders answerWith
  simp only [answerWith, placeholders]
  refine ⟨fun key value hvalue => ?_, by cbv, fun h => ?_, by cbv⟩
  · change (if key = "base".toList then some "/".toList else none) = some value at hvalue
    split at hvalue
    · rw [← Option.some_inj.mp hvalue]
      cbv
    · exact absurd hvalue (by simp)
  · exact h.isApart ['/'] "people".toList rfl rfl rfl

end MappingSource

end Signpost
