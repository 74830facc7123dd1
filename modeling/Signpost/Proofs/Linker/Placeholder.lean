import Signpost.Proofs.Linker.Precedence
import Signpost.Proofs.Mapping.Unresolved

/-!
# Links through a placeholder without a value

A placeholder for which there is neither a value nor a default stays in the mapping of a method, and
reading the mapping takes its key for the name of a variable. The class-level argument at its
position is put in behind the dollar sign that is left of the placeholder, and the variables behind
it take each the argument of the next one. The placeholder stands in the link if and only if nothing
is bound to its key, neither from the class-level arguments nor from the call.

## Main results

* `PathBinding.positionText?_erase_iff`: which variables keep their arguments without another one.
* `Linker.replacement_eq_display_iff`: when a variable stands in the link.
* `Linker.uri_linkLast_unresolved`: the link through a placeholder without a value.
-/

namespace Signpost

/-- A variable takes the same class-level arguments without another one if it stands before it. -/
theorem PathBinding.positionText?_erase_iff {formatters : Formatters}
    {vars : List Mapping.Variable} {v w : Mapping.Variable} (hv : v ∈ vars) (hne : w ≠ v) :
    (∀ classLevel, positionText? formatters vars classLevel w =
      positionText? formatters (vars.erase v) classLevel w) ↔ vars.idxOf w < vars.idxOf v := by
  obtain ⟨before, after, hnew, rfl, herase⟩ := List.exists_erase_eq hv
  rw [herase, List.idxOf_append_of_notMem hnew, List.idxOf_cons_self, Nat.add_zero]
  by_cases hw : w ∈ before
  · refine iff_of_true (fun classLevel => ?_) ?_
    · rw [positionText?, positionText?, List.idxOf_append_of_mem hw, List.idxOf_append_of_mem hw]
    · rw [List.idxOf_append_of_mem hw]
      exact List.idxOf_lt_length_of_mem hw
  · have hposition : (before ++ v :: after).idxOf w = (before ++ after).idxOf w + 1 := by
      rw [List.idxOf_append_of_notMem hw, List.idxOf_append_of_notMem hw,
        List.idxOf_cons_ne _ (Ne.symm hne)]
      rfl
    refine iff_of_false (fun hsame => ?_) ?_
    · -- the argument at its position without `v` is the last one given
      obtain ⟨classLevel, text, htext, -⟩ := exists_positionText? formatters (before ++ after) w
      have hshort := hsame (classLevel.take ((before ++ after).idxOf w + 1))
      rw [positionText?_of_length_le (by rw [hposition]; exact List.length_take_le _ _),
        positionText?, List.getElem?_take_of_lt (Nat.lt_succ_self _)] at hshort
      exact absurd (hshort.trans htext) (by simp)
    · rw [List.idxOf_append_of_notMem hw]
      exact Nat.not_lt.mpr (Nat.le_add_right _ _)

namespace Linker

/-- What the linker makes of a call, when the mapping of its method is plain and none of its
parameters is named like a stored catch-all. -/
structure LinksPlainly (linker : Linker) (surroundings : Surroundings) (recording : Recording)
    (call : Call) (method : Method) (raw : Text) (draft : LinkDraft) : Prop where
  linked : (linker.linkLast surroundings recording).1 = .ok draft
  last : recording.last = some call
  called : calledMethod surroundings call = .ok method
  answered : (MappingSource.answer surroundings (.ofCall call.target method) linker.source).1 =
    some raw
  plain : Mapping.IsPlain [raw]
  unstored : ∀ parameter ∈ method.parameters, ∀ name, parameter.pathName? = some name →
    Mapping.catchAllName? name = none

variable {linker : Linker} {surroundings : Surroundings} {call : Call} {method : Method}
  {formatters : Formatters} {vars : List Mapping.Variable} {classLevel : List Argument}
  {givens : List Given} {v : Mapping.Variable} {text : Text}

/-- A text that an argument puts in the place of a variable holds no braces. -/
theorem open_notMem_of_text
    (h : (Given.lastTextFor? formatters v givens).or
      (PathBinding.positionText? formatters vars classLevel v) = some text) : '{' ∉ text := by
  have hforeign : PathBinding.IsForeign '{' := ⟨by decide, by decide, by decide⟩
  rcases Option.or_eq_some_iff.mp h with hlast | ⟨-, hposition⟩
  · obtain ⟨given, -, hgiven⟩ := List.mem_filterMap.mp (List.mem_of_getLast? hlast)
    rw [Given.textFor?] at hgiven
    split at hgiven
    · exact hforeign.notMem_of_text? hgiven
    · exact absurd hgiven (by simp)
  · obtain ⟨argument, -, hargument⟩ := Option.bind_eq_some_iff.mp hposition
    exact hforeign.notMem_of_text? hargument

/-- A variable stands in the link if it is no catch-all and nothing is bound to it. -/
theorem replacement_eq_display_iff :
    replacement formatters vars classLevel givens v = v.display ↔
      v.catchAll = false ∧ Given.lastTextFor? formatters v givens = none ∧
        PathBinding.positionText? formatters vars classLevel v = none := by
  rw [← Option.or_eq_none_iff, replacement]
  cases hbound : (Given.lastTextFor? formatters v givens).or
      (PathBinding.positionText? formatters vars classLevel v) with
  | some text =>
    refine iff_of_false (fun hdisplay => ?_) (fun hnone => absurd hnone.2 (by simp))
    have hopen := open_notMem_of_text hbound
    rw [show text = v.display from hdisplay, v.display_eq] at hopen
    exact hopen List.mem_cons_self
  | none =>
    rw [Option.getD_none, and_iff_left rfl]
    cases v.catchAll with
    | true => exact iff_of_false (Ne.symm v.display_ne_nil) Bool.true_eq_false.mp
    | false => exact iff_of_true rfl rfl

/-- The path of the link to a method with a plain mapping. -/
theorem LinksPlainly.uri_eq {recording : Recording} {draft : LinkDraft} {raw : Text}
    (hlinks : linker.LinksPlainly surroundings recording call method raw draft)
    (h : linker.IsSound) :
    draft.uri = linker.base.resolve (QueryPair.attach
      (Mapping.fill (replacement linker.formatters (Mapping.parse raw).vars recording.parameters
        (method.parameters.zip call.arguments)) (Mapping.chunks raw))
      ((method.parameters.zip call.arguments).flatMap (Given.pairs linker.formatters))) := by
  have hgivens : ∀ given ∈ method.parameters.zip call.arguments, Given.IsUnstored given :=
    fun given hgiven => hlinks.unstored given.1 (List.of_mem_zip hgiven).1
  obtain ⟨htarget, -⟩ := h.exists_target hlinks.linked hlinks.last hlinks.called hlinks.answered
  rw [← Mapping.expand_parse_eq_fill hlinks.plain fun v hv => yields_replacement hv _ _ hgivens]
  exact (Target.ofCall_eq_ok_iff.mp htarget).2.1

/-- **A placeholder without a value is taken for a variable.** Take any linker without wrong
memories, any call that it links to whose mapping is `mapping` with its placeholders replaced and is
plain then, and any placeholder in `mapping` for which no text is found. Its key is read as a
variable `v`. The path of the link is what stands in front of the placeholder and behind it, with
its variables replaced, and between them the dollar sign and what `v` is replaced by. The
placeholder stands in the link if and only if it does not make a catch-all, no argument of the call
has a text for `v` and no class-level argument stands at its position. Any other variable takes its
class-level arguments without regard to `v` if and only if it stands before it. -/
theorem uri_linkLast_unresolved {recording : Recording} {draft : LinkDraft}
    {value? : Text → Option Text} {mapping key : Text} {front back : List Placeholder.Piece}
    (h : linker.IsSound)
    (hlinks : linker.LinksPlainly surroundings recording call method
      (Placeholder.resolve value? mapping) draft)
    (hpieces : Placeholder.pieces mapping = front ++ .placeholder key :: back)
    (hkey : Placeholder.filling? value? key = none) :
    let v := Mapping.tokenVariable key
    let vars := (Mapping.parse (Placeholder.resolve value? mapping)).vars
    let givens := method.parameters.zip call.arguments
    let value := replacement linker.formatters vars recording.parameters givens
    let filled (cut : List Placeholder.Piece) :=
      Mapping.fill value (Mapping.chunks (cut.flatMap (Placeholder.Piece.put value?)))
    v ∈ vars ∧
      draft.uri = linker.base.resolve (QueryPair.attach
        (filled front ++ '$' :: value v ++ filled back)
        (givens.flatMap (Given.pairs linker.formatters))) ∧
      (value v = '{' :: key ++ ['}'] ↔
        v.catchAll = false ∧ Given.lastTextFor? linker.formatters v givens = none ∧
          PathBinding.positionText? linker.formatters vars recording.parameters v = none) ∧
      ∀ w ≠ v,
        (∀ classLevel, PathBinding.positionText? linker.formatters vars classLevel w =
          PathBinding.positionText? linker.formatters (vars.erase v) classLevel w) ↔
          vars.idxOf w < vars.idxOf v := by
  intro v vars givens value filled
  have hresolve := Placeholder.resolve_eq_of_filling?_eq_none hpieces hkey
  have hclose := Placeholder.exists_closeBrace?_of_mem
    (hpieces ▸ List.mem_append_right front List.mem_cons_self)
  have hflat : ∀ chunk ∈ Mapping.chunks (Placeholder.resolve value? mapping), chunk.IsFlat :=
    fun chunk hchunk => (hlinks.plain.chunk _ List.mem_cons_self chunk hchunk).isFlat
  rw [hresolve] at hflat
  have htoken : .token key ∈ Mapping.chunks (Placeholder.resolve value? mapping) := by
    rw [hresolve, Mapping.chunks_of_placeholder hflat hclose]
    exact List.mem_append_right _ (List.mem_cons_of_mem _ List.mem_cons_self)
  obtain ⟨w, hw, hwplain, rfl⟩ := hlinks.plain.exists_of_token htoken
  have hv : v = w := hwplain.tokenVariable_content
  have hmem : v ∈ vars := hv ▸ hw
  have hfill := Mapping.fill_chunks_of_placeholder hflat hclose value
  rw [← hresolve] at hfill
  refine ⟨hmem, ?_, ?_, fun other hother => PathBinding.positionText?_erase_iff hmem hother⟩
  · rw [hlinks.uri_eq h]
    exact congrArg (fun path => linker.base.resolve (QueryPair.attach path _)) hfill
  · rw [← w.display_eq, hv]
    exact replacement_eq_display_iff

/-- A method without parameters. -/
def editMethod : Method :=
  { name := "edit".toList, mapping := some "/edit".toList }

/-- The handler of the method, with a placeholder and a variable. -/
def regionHandler : Handler :=
  { type := "Region".toList, mapping := some "/${region}/{id}".toList, methods := [editMethod] }

/-- A call of the method. -/
def editCall : Call :=
  ⟨regionHandler, regionHandler, "edit".toList, []⟩

/-- A linker with values for placeholders, of which there are none. -/
def unresolvedLinker : Linker :=
  { source := .cached (.fixed []) }

/-- What the call is linked to when the path is `uri`. -/
def editDraft (uri : Text) : LinkDraft :=
  { uri, affordances := Affordance.ofMethod editMethod (Link.ofHref uri) }

/-- The mapping of the method, in which the placeholder stays. -/
def editMapping : Text :=
  "/${region}/{id}/edit".toList

theorem isPlain_editMapping : Mapping.IsPlain [editMapping] := by
  have hchunks : Mapping.chunks editMapping =
      .literal ['/'] :: .literal ['$'] :: .token "region".toList :: .literal ['/'] ::
        .token "id".toList :: "/edit".toList.map (fun c => Mapping.Chunk.literal [c]) := by
    cbv
  have hdeclared : [editMapping].flatMap Mapping.declared =
      [⟨"region".toList, false⟩, ⟨"id".toList, false⟩] := by
    cbv
  constructor
  · rw [List.forall_mem_singleton, hchunks]
    decide
  · rw [hdeclared]
    decide

/-- The link to the method of the handler that was made with one argument. -/
theorem linkLast_edit :
    (unresolvedLinker.linkLast { handlers := ⟨[regionHandler]⟩ }
        ⟨regionHandler, [personValue "7"], some editCall⟩).1 =
      .ok (editDraft "/$7/{id}/edit".toList) := by
  cbv

/-- The class-level argument takes the place of the placeholder, and the variable that was meant
takes none. -/
theorem uri_linkLast_unresolved_edit :
    (unresolvedLinker.linkLast { handlers := ⟨[regionHandler]⟩ }
        ⟨regionHandler, [personValue "7"], some editCall⟩).1 =
        .ok (editDraft "/$7/{id}/edit".toList) ∧
      (editDraft "/$7/{id}/edit".toList).uri = "/$7/{id}/edit".toList ∧
      ¬∀ classLevel, PathBinding.positionText? {} (Mapping.parse editMapping).vars classLevel
          ⟨"id".toList, false⟩ =
        PathBinding.positionText? {} [⟨"id".toList, false⟩] classLevel ⟨"id".toList, false⟩ := by
  have hresolve : Placeholder.resolve (fun _ => none) editMapping = editMapping := by cbv
  have hlinks : unresolvedLinker.LinksPlainly { handlers := ⟨[regionHandler]⟩ }
      ⟨regionHandler, [personValue "7"], some editCall⟩ editCall editMethod
      (Placeholder.resolve (fun _ => none) editMapping) (editDraft "/$7/{id}/edit".toList) := by
    rw [hresolve]
    exact ⟨linkLast_edit, rfl, by cbv, by cbv, isPlain_editMapping, by decide⟩
  have hpieces : Placeholder.pieces editMapping =
      [.literal '/'] ++ .placeholder "region".toList ::
        "/{id}/edit".toList.map Placeholder.Piece.literal := by
    cbv
  have hkey : Placeholder.filling? (fun _ => none) "region".toList = none := by cbv
  obtain ⟨-, huri, -, hothers⟩ :=
    uri_linkLast_unresolved (IsNew.isSound ⟨rfl, rfl⟩) hlinks hpieces hkey
  have hvars : (Mapping.parse editMapping).vars =
      [⟨"region".toList, false⟩, ⟨"id".toList, false⟩] := by
    cbv
  refine ⟨linkLast_edit, huri.trans (by cbv), fun hsame => ?_⟩
  have hkeyVariable : Mapping.tokenVariable "region".toList = ⟨"region".toList, false⟩ := by cbv
  rw [hresolve, hvars, hkeyVariable] at hothers
  rw [hvars] at hsame
  have hbefore := (hothers ⟨"id".toList, false⟩ (by decide)).mp hsame
  exact absurd hbefore (by decide)

/-- The placeholder is not in the link. -/
theorem not_infix_linkLast_edit :
    Placeholder.filling? ((PlaceholderSource.fixed []).value? {}) "region".toList = none ∧
      regionHandler.mapping = some "/${region}/{id}".toList ∧
      (unresolvedLinker.linkLast { handlers := ⟨[regionHandler]⟩ }
        ⟨regionHandler, [personValue "7"], some editCall⟩).1 =
        .ok (editDraft "/$7/{id}/edit".toList) ∧
      ¬"${region}".toList <:+: (editDraft "/$7/{id}/edit".toList).uri := by
  refine ⟨?_, rfl, linkLast_edit, ?_⟩
  · cbv
  · decide

end Linker

end Signpost
