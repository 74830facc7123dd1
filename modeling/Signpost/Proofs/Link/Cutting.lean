import Signpost.Proofs.Link.Segments
import Signpost.Proofs.Template.Grammar

/-!
# Segments and expressions

Segments are put in front of the first question mark or number sign of a URI. In a template this may
be the operator of an expression, which is then cut apart behind its opening brace: what stands
between the braces begins with a slash and holds another operator behind it, so that the text is no
template any more. In any other place the expressions stay as they are.

## Main definitions

* `LinkDraft.CutsExpression`: a URI whose path ends inside an expression.

## Main results

* `Template.Reads.exists_appendSegments`, `Template.Reads.not_reads_appendSegments`: what segments
  make of a template whose path ends outside its expressions, and inside one.
* `LinkDraft.parse_extend_iff`: when an extended draft has a template.
-/

namespace Signpost

namespace LinkDraft

/-- The first question mark or number sign of the URI stands behind an opening brace. In a template
it is the operator of an expression. -/
def CutsExpression (uri : Text) : Prop :=
  (pathOf uri).getLast? = some '{'

instance : DecidablePred CutsExpression := fun uri =>
  inferInstanceAs (Decidable ((pathOf uri).getLast? = some '{'))

variable {uri lead content after segments : Text} {c : Char}

/-! ### Characters in front of the end of a path -/

theorem pathOf_append_cons (hlead : ∀ d ∈ lead, endsPath d = false) (hc : endsPath c = false)
    (after : Text) : pathOf (lead ++ c :: after) = lead ++ c :: pathOf after := by
  rw [pathOf_append hlead, pathOf, List.takeWhile_cons_of_pos (by simp [hc]), ← pathOf]

theorem cutsExpression_append_cons_iff (hlead : ∀ d ∈ lead, endsPath d = false)
    (hc : endsPath c = false) (hopen : c ≠ '{') (after : Text) :
    CutsExpression (lead ++ c :: after) ↔ CutsExpression after := by
  rw [CutsExpression, pathOf_append_cons hlead hc, CutsExpression, List.getLast?_append,
    List.getLast?_cons]
  cases (pathOf after).getLast? with
  | none => simp [hopen]
  | some d => simp

/-- Up to a character that ends no path and is no slash, segments change nothing. -/
theorem appendSegments_append_cons (hlead : ∀ d ∈ lead, endsPath d = false)
    (hc : endsPath c = false) (hslash : c ≠ '/') (after segments : Text) :
    appendSegments (lead ++ c :: after) segments = lead ++ c :: appendSegments after segments := by
  by_cases hnil : Text.segments segments = []
  · rw [appendSegments_of_eq_nil hnil, appendSegments_of_eq_nil hnil]
  · have htail : tailOf (lead ++ c :: after) = tailOf after := by
      rw [tailOf_append hlead, tailOf, List.dropWhile_cons_of_pos (by simp [hc]), ← tailOf]
    rw [appendSegments_of_ne_nil hnil, appendSegments_of_ne_nil hnil, extendedPath, extendedPath,
      pathOf_append_cons hlead hc, htail, Text.dropEndWhile_append_cons (by simpa using hslash)]
    simp

/-! ### Characters behind the end of a path -/

/-- The first character that ends the path. -/
theorem exists_end (h : ∃ c ∈ lead, endsPath c = true) :
    ∃ front c back, (∀ d ∈ front, endsPath d = false) ∧ endsPath c = true ∧
      lead = front ++ c :: back := by
  obtain ⟨c, hc, hends⟩ := h
  have hmem : c ∈ tailOf lead := by
    rw [← pathOf_append_tailOf lead] at hc
    refine (List.mem_append.mp hc).resolve_left fun hpath => ?_
    exact absurd hends (by simp [endsPath_of_mem_pathOf hpath])
  obtain ⟨d, back, hback⟩ := List.exists_cons_of_ne_nil (List.ne_nil_of_mem hmem)
  refine ⟨pathOf lead, d, back, fun e => endsPath_of_mem_pathOf, ?_, ?_⟩
  · have hhead := List.head?_dropWhile_not (!endsPath ·) lead
    rw [← tailOf, hback] at hhead
    simpa using hhead
  · rw [← hback, pathOf_append_tailOf]

/-- Behind the end of the path segments change nothing. -/
theorem appendSegments_append (h : ∃ c ∈ lead, endsPath c = true) (after segments : Text) :
    appendSegments (lead ++ after) segments = appendSegments lead segments ++ after := by
  obtain ⟨front, c, back, hfront, hc, rfl⟩ := exists_end h
  by_cases hnil : Text.segments segments = []
  · rw [appendSegments_of_eq_nil hnil, appendSegments_of_eq_nil hnil]
  · rw [List.append_assoc, List.cons_append, appendSegments_of_ne_nil hnil,
      appendSegments_of_ne_nil hnil, extendedPath, extendedPath, pathOf_append_end hfront hc,
      pathOf_append_end hfront hc, tailOf_append_end hfront hc, tailOf_append_end hfront hc]
    simp

theorem not_cutsExpression_append (h : ∃ c ∈ lead, endsPath c = true) (hopen : '{' ∉ lead)
    (after : Text) : ¬CutsExpression (lead ++ after) := by
  obtain ⟨front, c, back, hfront, hc, rfl⟩ := exists_end h
  rw [List.append_assoc, List.cons_append, CutsExpression, pathOf_append_end hfront hc]
  exact fun hlast => hopen (List.mem_append_left _ (List.mem_of_getLast? hlast))

/-! ### Expressions -/

theorem forall_open_endsPath (hlead : ∀ d ∈ lead, endsPath d = false)
    (hcontent : ∀ d ∈ content, endsPath d = false) :
    ∀ d ∈ lead ++ '{' :: content, endsPath d = false :=
  List.forall_mem_append.mpr ⟨hlead, List.forall_mem_cons.mpr ⟨by decide, hcontent⟩⟩

/-- An expression without an end of the path is passed by. -/
theorem appendSegments_expression (hlead : ∀ d ∈ lead, endsPath d = false)
    (hcontent : ∀ d ∈ content, endsPath d = false) (after segments : Text) :
    appendSegments (lead ++ '{' :: (content ++ '}' :: after)) segments =
      lead ++ '{' :: (content ++ '}' :: appendSegments after segments) := by
  have hfront := forall_open_endsPath hlead hcontent
  have hpass := appendSegments_append_cons hfront (c := '}') (by decide) (by decide) after segments
  rwa [List.append_assoc, List.append_assoc] at hpass

theorem cutsExpression_expression_iff (hlead : ∀ d ∈ lead, endsPath d = false)
    (hcontent : ∀ d ∈ content, endsPath d = false) (after : Text) :
    CutsExpression (lead ++ '{' :: (content ++ '}' :: after)) ↔ CutsExpression after := by
  have hfront := forall_open_endsPath hlead hcontent
  have hpass := cutsExpression_append_cons_iff hfront (c := '}') (by decide) (by decide) after
  rwa [List.append_assoc] at hpass

/-- Behind an opening brace the end of the path is an operator. -/
theorem cutsExpression_operator (hlead : ∀ d ∈ lead, endsPath d = false) (hc : endsPath c = true)
    (rest : Text) : CutsExpression (lead ++ '{' :: c :: rest) := by
  have hfront := forall_open_endsPath hlead (List.forall_mem_nil _)
  rw [CutsExpression, List.append_cons lead '{', pathOf_append_end hfront hc, List.getLast?_concat]

/-- There segments are put between the brace and the operator. -/
theorem appendSegments_operator (hlead : ∀ d ∈ lead, endsPath d = false) (hc : endsPath c = true)
    (hne : Text.segments segments ≠ []) (rest : Text) :
    appendSegments (lead ++ '{' :: c :: rest) segments =
      lead ++ '{' :: (Template.segmentPath segments ++ c :: rest) := by
  have hfront := forall_open_endsPath hlead (List.forall_mem_nil _)
  rw [List.append_cons lead '{', appendSegments_of_ne_nil hne, extendedPath,
    pathOf_append_end hfront hc, tailOf_append_end hfront hc,
    Text.dropEndWhile_append_cons (by decide)]
  simp [Text.dropEndWhile]

/-! ### Characters that segments do not bring -/

theorem notMem_appendSegments (hreserved : Percent.IsReserved c) (hslash : c ≠ '/')
    (h : c ∉ uri) (segments : Text) : c ∉ appendSegments uri segments := by
  by_cases hnil : Text.segments segments = []
  · rwa [appendSegments_of_eq_nil hnil]
  · rw [← pathOf_append_tailOf uri, List.mem_append, not_or] at h
    rw [appendSegments_of_ne_nil hnil, extendedPath, List.mem_append, List.mem_append, not_or,
      not_or]
    exact ⟨⟨fun hc => h.1 (Text.mem_of_mem_dropEndWhile hc),
      Template.notMem_segmentPath hreserved hslash segments⟩, h.2⟩

end LinkDraft

namespace Template

open LinkDraft

variable {text lead after segments : Text} {c : Char} {kind : VariableKind}
  {vars : List Variable} {parts others : List Part}

/-! ### Expressions and the end of a path -/

theorem isNameChar_ne_of_endsPath (hc : endsPath c = true) :
    isNameChar c = false ∧ c ∉ ['*', ','] ∧ c ≠ '/' := by
  rw [endsPath, Bool.or_eq_true, decide_eq_true_iff, decide_eq_true_iff] at hc
  rcases hc with rfl | rfl <;> decide

/-- An expression ends a path with its operator or not at all. -/
theorem expressionText_cases (hfits : ∀ v ∈ vars, v.Fits kind) :
    (∃ c names, endsPath c = true ∧ expressionText kind vars = c :: names) ∨
      ∀ c ∈ expressionText kind vars, endsPath c = false := by
  by_cases hkind : ∃ c, endsPath c = true ∧ kind.operator = [c]
  · obtain ⟨c, hc, hoperator⟩ := hkind
    have htext : expressionText kind vars = c :: Text.join [','] (vars.map Variable.label) := by
      rw [expressionText, hoperator, List.singleton_append]
    exact .inl ⟨c, _, hc, htext⟩
  · refine .inr fun c hmem => eq_false_of_ne_true fun hc => hkind ⟨c, hc, ?_⟩
    obtain ⟨hname, hmark, -⟩ := isNameChar_ne_of_endsPath hc
    have hoperator := (mem_expressionText_iff hname hmark hfits).mp hmem
    cases kind <;> simp_all [VariableKind.operator]

/-- No expression begins with segments and has the end of a path behind them: each of the two would
be its operator. -/
theorem segmentPath_append_ne_expressionText {names : Text} (hc : endsPath c = true)
    (hne : Text.segments segments ≠ []) (hfits : ∀ v ∈ vars, v.Fits kind) :
    segmentPath segments ++ c :: names ≠ expressionText kind vars := by
  intro h
  have hslash : '/' ∈ expressionText kind vars := by
    obtain ⟨segment, hsegment⟩ := List.exists_mem_of_ne_nil _ hne
    rw [← h]
    exact List.mem_append_left _ (List.mem_flatMap.mpr ⟨segment, hsegment, List.mem_cons_self⟩)
  have hend : c ∈ expressionText kind vars := h ▸ List.mem_append_right _ List.mem_cons_self
  obtain ⟨hname, hmark, hne_slash⟩ := isNameChar_ne_of_endsPath hc
  rw [mem_expressionText_iff (by decide) (by decide) hfits] at hslash
  rw [mem_expressionText_iff hname hmark hfits] at hend
  cases kind <;> simp_all [VariableKind.operator]

namespace Reads

/-- **Segments leave a template a template** with the variables it has, if the path does not end
inside an expression. -/
theorem exists_appendSegments (h : Reads text parts) (hcut : ¬CutsExpression text)
    (segments : Text) :
    ∃ others, Reads (appendSegments text segments) others ∧
      others.flatMap Part.vars = parts.flatMap Part.vars := by
  induction h with
  | @literal text hopen hclose =>
    refine ⟨_, .literal (notMem_appendSegments (by decide) (by decide) hopen segments)
      (notMem_appendSegments (by decide) (by decide) hclose segments), ?_⟩
    rw [flatMap_vars_literalPart, flatMap_vars_literalPart]
  | @expression lead after vars parts kind hlead hne hfits hafter ih =>
    by_cases hends : ∃ c ∈ lead, endsPath c = true
    · have hlead' := notMem_appendSegments (by decide) (by decide) hlead segments
      rw [appendSegments_append hends]
      refine ⟨_, .expression kind hlead' hne hfits hafter, ?_⟩
      rw [List.flatMap_append, List.flatMap_append, flatMap_vars_literalPart,
        flatMap_vars_literalPart]
    · have hfree : ∀ c ∈ lead, endsPath c = false := by simpa using hends
      rcases expressionText_cases hfits with ⟨c, names, hc, htext⟩ | hcontent
      · rw [htext] at hcut
        exact absurd (cutsExpression_operator hfree hc _) hcut
      · rw [cutsExpression_expression_iff hfree hcontent] at hcut
        obtain ⟨others, hothers, hvars⟩ := ih hcut
        rw [appendSegments_expression hfree hcontent]
        refine ⟨_, .expression kind hlead hne hfits hothers, ?_⟩
        rw [List.flatMap_append, List.flatMap_append, List.flatMap_cons, List.flatMap_cons, hvars]

/-- What begins with segments and has the end of a path behind them is no expression. -/
theorem not_reads_segmentPath_append {names : Text} (hlead : '{' ∉ lead) (hc : endsPath c = true)
    (hne : Text.segments segments ≠ []) (hclose : '}' ∉ c :: names) :
    ¬Reads (lead ++ '{' :: ((segmentPath segments ++ c :: names) ++ '}' :: after)) parts := by
  intro hreads
  have hcontent : '}' ∉ segmentPath segments ++ c :: names :=
    List.not_mem_append (notMem_segmentPath (by decide) (by decide) segments) hclose
  obtain ⟨kind, vars, -, hfits, htext, -⟩ := hreads.exists_expression hlead hcontent
  exact segmentPath_append_ne_expressionText hc hne hfits htext

/-- **Segments inside an expression leave no template**: the expression begins with a slash, and the
mark that ended the path stands behind it. -/
theorem not_reads_appendSegments (h : Reads text parts) (hcut : CutsExpression text)
    (hne : Text.segments segments ≠ []) : ¬Reads (appendSegments text segments) others := by
  induction h generalizing others with
  | @literal text hopen hclose =>
    have hmem := List.mem_append_left (tailOf text) (List.mem_of_getLast? hcut)
    rw [pathOf_append_tailOf] at hmem
    exact absurd hmem hopen
  | @expression lead after vars parts kind hlead hvars hfits hafter ih =>
    intro hreads
    have hclose : '}' ∉ expressionText kind vars :=
      notMem_expressionText (by decide) (by decide) hfits
    by_cases hends : ∃ c ∈ lead, endsPath c = true
    · exact not_cutsExpression_append hends hlead _ hcut
    · have hfree : ∀ c ∈ lead, endsPath c = false := by simpa using hends
      rcases expressionText_cases hfits with ⟨c, names, hc, htext⟩ | hcontent
      · rw [htext, List.cons_append, appendSegments_operator hfree hc hne] at hreads
        rw [htext] at hclose
        have hinside : Reads (lead ++ '{' :: ((segmentPath segments ++ c :: names) ++ '}' :: after))
            others := by
          simpa using hreads
        exact not_reads_segmentPath_append hlead hc hne hclose hinside
      · rw [cutsExpression_expression_iff hfree hcontent] at hcut
        rw [appendSegments_expression hfree hcontent] at hreads
        obtain ⟨-, -, later, -, -, hlater⟩ := hreads.exists_expression hlead hclose
        exact ih hcut hlater

end Reads

end Template

namespace LinkDraft

/-- **When an extended draft has a template.** If the URI of a draft is a template, its URI extended
by a text is one as well if and only if the text has no part to put in, or the path of the URI does
not end inside an expression; and then the template has the variables it had. -/
theorem parse_extend_iff {draft : LinkDraft} {template : Template}
    (hparse : Template.parse draft.uri = .ok template) (segments : Text) :
    ((∃ extended, Template.parse (draft.extend segments).uri = .ok extended) ↔
        Text.segments segments = [] ∨ ¬CutsExpression draft.uri) ∧
      ∀ extended, Template.parse (draft.extend segments).uri = .ok extended →
        extended.vars = template.vars := by
  have hkept : Text.segments segments = [] ∨ ¬CutsExpression draft.uri →
      ∃ extended, Template.parse (draft.extend segments).uri = .ok extended ∧
        extended.vars = template.vars := by
    rintro (hnil | hcut)
    · exact ⟨template, (congrArg Template.parse (appendSegments_of_eq_nil hnil)).trans hparse, rfl⟩
    · obtain ⟨-, hreads⟩ := Template.parse_eq_ok_iff.mp hparse
      obtain ⟨others, hothers, hvars⟩ := hreads.exists_appendSegments hcut segments
      exact ⟨⟨_, others⟩, Template.parse_eq_ok_iff.mpr ⟨rfl, hothers⟩, hvars⟩
  have hlost : ∀ extended, Template.parse (draft.extend segments).uri = .ok extended →
      Text.segments segments = [] ∨ ¬CutsExpression draft.uri := by
    intro extended hextended
    obtain ⟨-, hreads⟩ := Template.parse_eq_ok_iff.mp hparse
    obtain ⟨-, hothers⟩ := Template.parse_eq_ok_iff.mp hextended
    refine or_iff_not_imp_left.mpr fun hne hcut => ?_
    exact hreads.not_reads_appendSegments hcut hne hothers
  refine ⟨⟨fun ⟨extended, hextended⟩ => hlost extended hextended, fun h => ?_⟩,
    fun extended hextended => ?_⟩
  · obtain ⟨extended, hextended, -⟩ := hkept h
    exact ⟨extended, hextended⟩
  · obtain ⟨other, hother, hvars⟩ := hkept (hlost extended hextended)
    rw [Except.ok.inj (hextended.symm.trans hother), hvars]

/-- Segments go in front of a literal question mark and leave the expressions on its two sides. -/
theorem parse_extend_iff_groups :
    ∃ template extended,
      Template.parse "/groups/{id}?page={page}{&size}".toList = .ok template ∧
        (({ uri := "/groups/{id}?page={page}{&size}".toList } : LinkDraft).extend
          "members".toList).uri = "/groups/{id}/members?page={page}{&size}".toList ∧
        Template.parse (({ uri := "/groups/{id}?page={page}{&size}".toList } : LinkDraft).extend
          "members".toList).uri = .ok extended ∧
        extended.vars = template.vars := by
  have hparse :
      Template.parse ({ uri := "/groups/{id}?page={page}{&size}".toList } : LinkDraft).uri = .ok
        ⟨"/groups/{id}?page={page}{&size}".toList,
        [.literal "/groups/".toList, .expression [⟨"id".toList, .path, false⟩],
          .literal "?page=".toList, .expression [⟨"page".toList, .path, false⟩],
          .expression [⟨"size".toList, .queryContinued, false⟩]]⟩ := by
    cbv
  obtain ⟨hiff, hvars⟩ := parse_extend_iff hparse "members".toList
  obtain ⟨extended, hextended⟩ := hiff.mpr (.inr (by decide))
  exact ⟨_, extended, hparse, by decide, hextended, hvars extended hextended⟩

/-- In front of the operator of an expression segments are put inside the braces. -/
theorem not_parse_extend_page :
    (∃ template, Template.parse ({ uri := "/people{?page}".toList } : LinkDraft).uri =
        .ok template) ∧
      (({ uri := "/people{?page}".toList } : LinkDraft).extend "1".toList).uri =
        "/people{/1?page}".toList ∧
      ¬∃ extended, Template.parse
        (({ uri := "/people{?page}".toList } : LinkDraft).extend "1".toList).uri =
          .ok extended := by
  have huri : (({ uri := "/people{?page}".toList } : LinkDraft).extend "1".toList).uri =
      "/people{/1?page}".toList := by
    decide
  have hparse : Template.parse ({ uri := "/people{?page}".toList } : LinkDraft).uri =
      .ok ⟨"/people{?page}".toList,
        [.literal "/people".toList, .expression [⟨"page".toList, .query, false⟩]]⟩ := by
    cbv
  refine ⟨⟨_, hparse⟩, huri, ?_⟩
  rintro ⟨extended, hextended⟩
  rw [huri] at hextended
  have hfails : (Template.parse "/people{/1?page}".toList).isOk = false := by cbv
  rw [hextended] at hfails
  exact Bool.noConfusion hfails

end LinkDraft

end Signpost
