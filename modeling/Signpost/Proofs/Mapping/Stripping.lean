import Mathlib
import Signpost.Proofs.Mapping.Constraint
import Signpost.Proofs.Mapping.StoringInTurn

/-!
# Leaving constraints out

Of a mapping without empty segments a clean-up leaves out the constraints of the tokens and nothing
else. Without its constraint a token declares the variable that it declared before. Yet a token of a
catch-all is stored, and takes the slash in front of it along, only if it has no constraint. Hence
the expansions are the same if and only if all constraints belong to ordinary variables.

## Main definitions

* `Mapping.withoutConstraints`: a mapping without the constraints of its tokens.
* `Mapping.Variable.IsExactIn`: a catch-all whose token has no constraint among chunks.
* `Mapping.IsOrdinary`: a token that leads to an ordinary variable.

## Main results

* `Mapping.clean_eq_withoutConstraints_iff`: what a clean-up leaves out.
* `Mapping.tokenVariable_withoutConstraint`: constraints do not matter for what tokens declare.
* `Mapping.storedInTurn_map`: storing among other chunks of the same shape.
* `Mapping.expand_clean_iff`: when a clean-up does not change expansions.
-/

namespace Signpost.Mapping

/-- The chunk without its constraint, if it is a token. -/
def Chunk.withoutConstraint : Chunk → Chunk
  | .literal text => .literal text
  | .token content => .token (Mapping.withoutConstraint content)

/-- The mapping without the constraints of its tokens. -/
def withoutConstraints (mapping : Text) : Text :=
  ((chunks mapping).map Chunk.withoutConstraint).flatMap Chunk.render

variable {v w : Variable} {vars : List Variable} {cut : List Chunk} {chunk : Chunk}
  {text done content mapping : Text}

/-! ### Constraints -/

/-- A constraint that is left out has a colon. -/
theorem count_colon_withoutConstraint_lt (h : withoutConstraint content ≠ content) :
    (withoutConstraint content).count ':' < content.count ':' := by
  obtain ⟨rest, hrest⟩ := (withoutConstraintFrom_cases 1 content).resolve_left h
  conv_rhs => rw [hrest]
  rw [List.count_append, List.count_cons_self, ← withoutConstraint]
  omega

/-! ### What a clean-up leaves out -/

theorem Chunk.IsClosed.getLast?_withoutConstraint (h : chunk.IsClosed) :
    chunk.withoutConstraint.render.getLast? = chunk.render.getLast? := by
  cases h with
  | literal c hopen => rfl
  | empty => rfl
  | token content hne henclosed =>
    rw [Chunk.withoutConstraint, Chunk.render, Chunk.render, List.getLast?_concat,
      List.getLast?_concat]

/-- Leaving constraints out does not change the last character. -/
theorem getLast?_flatMap_withoutConstraint (h : ∀ chunk ∈ cut, chunk.IsClosed) :
    ((cut.map Chunk.withoutConstraint).flatMap Chunk.render).getLast? =
      (cut.flatMap Chunk.render).getLast? := by
  rcases List.eq_nil_or_concat' cut with rfl | ⟨front, chunk, rfl⟩
  · rfl
  · obtain ⟨-, hchunk⟩ := List.forall_mem_append.mp h
    have hclosed := hchunk chunk List.mem_cons_self
    obtain ⟨c, hlast⟩ :=
      Option.isSome_iff_exists.mp (List.getLast?_isSome.mpr hclosed.render_ne_nil)
    rw [List.map_append, List.flatMap_append, List.flatMap_append, List.getLast?_append,
      List.getLast?_append, List.map_singleton, List.flatMap_singleton, List.flatMap_singleton,
      hclosed.getLast?_withoutConstraint, hlast]
    rfl

/-- The slashes of a token are inside its braces. -/
theorem isApart_braces (hdepth : Text.depthFrom 0 done = 0) (h : Text.StaysOpen 1 content) :
    IsApart done ('{' :: content ++ ['}']) := by
  intro front back heq hfront
  exfalso
  cases front with
  | nil => exact absurd (List.cons.inj heq).1 (by decide)
  | cons c front =>
    obtain ⟨rfl, hrest⟩ := List.cons.inj heq
    have hprefix : front <+: content := by
      have hconcat : front ++ ['/'] <+: content ++ ['}'] := ⟨back, by simpa using hrest.symm⟩
      rcases List.prefix_concat_iff.mp hconcat with hwhole | hinside
      · exact absurd (List.append_inj' hwhole rfl).2 (by decide)
      · exact (List.prefix_append front ['/']).trans hinside
    rw [Text.depthFrom_append, hdepth] at hfront
    exact absurd hfront (Nat.ne_of_gt (h front hprefix))

/-- Outside all braces, closed chunks make an empty segment where a slash is put behind one. -/
theorem Chunk.IsClosed.isApart_iff (h : chunk.IsClosed) (hdepth : Text.depthFrom 0 done = 0) :
    IsApart done chunk.render ↔ (chunk = .literal ['/'] → done.getLast? ≠ some '/') := by
  cases h with
  | literal c hopen =>
    rw [Chunk.render, isApart_singleton_iff]
    simp [hdepth]
  | empty =>
    refine iff_of_true (isApart_braces hdepth (Text.staysOpen_nil.mpr Nat.one_pos)) fun hslash => ?_
    exact absurd hslash (by decide)
  | token content hne henclosed =>
    refine iff_of_true (isApart_braces hdepth henclosed.staysOpen) fun hslash => ?_
    exact absurd hslash (by simp)

/-- With or without its constraint, a chunk makes an empty segment in the same places. -/
theorem Chunk.IsClosed.isApart_withoutConstraint_iff (h : chunk.IsClosed)
    (hdepth : Text.depthFrom 0 done = 0) :
    IsApart done chunk.withoutConstraint.render ↔
      (chunk = .literal ['/'] → done.getLast? ≠ some '/') := by
  cases h with
  | literal c hopen => exact (literal c hopen).isApart_iff hdepth
  | empty => exact empty.isApart_iff hdepth
  | token content hne henclosed =>
    have hstays := (IsEnclosed.withoutConstraint henclosed).staysOpen
    refine iff_of_true (isApart_braces hdepth hstays) fun hslash => ?_
    exact absurd hslash (by simp)

theorem Chunk.IsClosed.depthFrom_withoutConstraint (h : chunk.IsClosed) :
    Text.depthFrom 0 chunk.withoutConstraint.render = 0 := by
  cases h with
  | literal c hopen => exact (literal c hopen).depthFrom_render
  | empty => rfl
  | token content hne henclosed => exact (IsEnclosed.withoutConstraint henclosed).isBalanced 0

/-- Leaving constraints out makes no empty segment and takes none away. -/
theorem isApart_flatMap_withoutConstraint_iff (hcut : ∀ chunk ∈ cut, chunk.IsClosed)
    (hdone : Text.depthFrom 0 done = 0) (htext : Text.depthFrom 0 text = 0)
    (hlast : text.getLast? = done.getLast?) :
    IsApart text ((cut.map Chunk.withoutConstraint).flatMap Chunk.render) ↔
      IsApart done (cut.flatMap Chunk.render) := by
  induction cut generalizing done text with
  | nil =>
    have hnil : ∀ before, IsApart before [] := isApart_of_notMem List.not_mem_nil
    exact iff_of_true (hnil text) (hnil done)
  | cons chunk cut ih =>
    obtain ⟨hchunk, hlater⟩ := List.forall_mem_cons.mp hcut
    rw [List.map_cons, List.flatMap_cons, List.flatMap_cons, isApart_append_iff,
      isApart_append_iff, hchunk.isApart_iff hdone, hchunk.isApart_withoutConstraint_iff htext,
      hlast]
    refine and_congr_right fun _ => ih hlater ?_ ?_ ?_
    · rw [Text.depthFrom_append, hdone, hchunk.depthFrom_render]
    · rw [Text.depthFrom_append, htext, hchunk.depthFrom_withoutConstraint]
    · rw [List.getLast?_append, List.getLast?_append, hchunk.getLast?_withoutConstraint, hlast]

/-- Between closed chunks a clean-up leaves the constraints out. -/
theorem cleanFrom_flatMap_render (hcut : ∀ chunk ∈ cut, chunk.IsClosed)
    (hdollar : ∀ chunk ∈ cut, '$' ∉ chunk.render) (hdepth : Text.depthFrom 0 done = 0)
    (hlast : done.getLast? ≠ some '$') (happart : IsApart done (cut.flatMap Chunk.render)) :
    cleanFrom { last := done.getLast? } (cut.flatMap Chunk.render) =
      (cut.map Chunk.withoutConstraint).flatMap Chunk.render := by
  induction cut generalizing done with
  | nil => rfl
  | cons chunk cut ih =>
    obtain ⟨hchunk, hlater⟩ := List.forall_mem_cons.mp hcut
    obtain ⟨hnone, hothers⟩ := List.forall_mem_cons.mp hdollar
    rw [List.flatMap_cons, isApart_append_iff, hchunk.isApart_iff hdepth] at happart
    obtain ⟨hslash, hbehind⟩ := happart
    obtain ⟨c, hc⟩ := Option.isSome_iff_exists.mp (List.getLast?_isSome.mpr hchunk.render_ne_nil)
    have hnext : (done ++ chunk.render).getLast? = some c := by
      rw [List.getLast?_append, hc]
      rfl
    have hrest := ih hlater hothers
      (by rw [Text.depthFrom_append, hdepth, hchunk.depthFrom_render])
      (fun hdone => hnone (List.mem_of_getLast? (hc.trans (hnext.symm.trans hdone)))) hbehind
    rw [hnext] at hrest
    rw [List.flatMap_cons, List.map_cons, List.flatMap_cons, ← hrest]
    cases hchunk with
    | literal d hopen =>
      obtain rfl : d = c := Option.some_inj.mp hc
      refine cleanFrom_of_kept (Cleaner.step_outside hopen fun hd => hslash ?_) _
      rw [hd]
    | empty =>
      obtain rfl : '}' = c := Option.some_inj.mp hc
      exact cleanFrom_expression (.of_notMem List.not_mem_nil List.not_mem_nil) hlast _
    | token content hne henclosed =>
      obtain rfl : '}' = c := by
        rw [Chunk.render, List.getLast?_concat] at hc
        exact Option.some_inj.mp hc
      rw [Chunk.withoutConstraint, Chunk.render, Chunk.render, List.append_assoc,
        List.append_assoc]
      exact cleanFrom_expression henclosed hlast _

theorem withoutConstraints_slash : withoutConstraints ['/'] = ['/'] := by
  rw [withoutConstraints, chunks_cons (by decide), chunks]
  rfl

/-- Nothing but a slash becomes a slash. -/
theorem eq_slash_of_flatMap_withoutConstraint (hcut : ∀ chunk ∈ cut, chunk.IsClosed)
    (h : (cut.map Chunk.withoutConstraint).flatMap Chunk.render = ['/']) :
    cut.flatMap Chunk.render = ['/'] := by
  cases cut with
  | nil => exact h
  | cons chunk cut =>
    obtain ⟨hchunk, hlater⟩ := List.forall_mem_cons.mp hcut
    rw [List.map_cons, List.flatMap_cons] at h
    cases hchunk with
    | literal c hopen =>
      obtain ⟨rfl, hrest⟩ := List.cons.inj h
      have hlast := getLast?_flatMap_withoutConstraint hlater
      rw [show (cut.map Chunk.withoutConstraint).flatMap Chunk.render = [] from hrest] at hlast
      rw [List.flatMap_cons, List.getLast?_eq_none_iff.mp hlast.symm]
      rfl
    | empty => exact absurd (List.cons.inj h).1 (by decide)
    | token content hne henclosed => exact absurd (List.cons.inj h).1 (by decide)

/-- **Of a mapping without placeholders a clean-up leaves out nothing but constraints** if and only
if the mapping is normal. -/
theorem clean_eq_withoutConstraints_iff (hdollar : '$' ∉ mapping)
    (hdepth : Text.depthFrom 0 mapping = 0) :
    clean mapping = withoutConstraints mapping ↔ IsNormal mapping := by
  have hclosed : ∀ chunk ∈ chunks mapping, chunk.IsClosed :=
    fun chunk hchunk => isClosed_of_mem_chunks hdepth hchunk
  have hwhole := flatMap_render_chunks mapping
  have hlast : (withoutConstraints mapping).getLast? = mapping.getLast? := by
    rw [withoutConstraints, getLast?_flatMap_withoutConstraint hclosed, hwhole]
  have happart : IsApart [] (withoutConstraints mapping) ↔ IsApart [] mapping := by
    rw [withoutConstraints, isApart_flatMap_withoutConstraint_iff hclosed rfl rfl rfl, hwhole]
  constructor
  · intro h
    have hnormal := isNormal_clean mapping
    rw [h] at hnormal
    refine ⟨happart.mp hnormal.isApart, fun hslash => ?_⟩
    rw [← hwhole]
    exact eq_slash_of_flatMap_withoutConstraint hclosed
      (hnormal.eq_slash (hlast.trans hslash))
  · intro h
    have hclean : cleanFrom {} mapping = withoutConstraints mapping := by
      have hnone : ∀ chunk ∈ chunks mapping, '$' ∉ chunk.render :=
        fun chunk hchunk hc => hdollar (mem_of_mem_chunks hchunk hc)
      have hstart : IsApart [] ((chunks mapping).flatMap Chunk.render) := hwhole.symm ▸ h.isApart
      have hfrom := cleanFrom_flatMap_render hclosed hnone rfl (by simp) hstart
      rw [hwhole] at hfrom
      exact hfrom
    rw [clean, hclean]
    refine dropEndSlashes_eq_self fun hslash => ?_
    rw [h.eq_slash (hlast.symm.trans hslash)]
    exact withoutConstraints_slash

/-! ### What tokens declare -/

theorem takeWhile_withoutConstraintFrom (depth : Nat) (text : Text) :
    (withoutConstraintFrom depth text).takeWhile (· ≠ ':') = text.takeWhile (· ≠ ':') := by
  induction text generalizing depth with
  | nil => rfl
  | cons c text ih =>
    rw [withoutConstraintFrom]
    split
    · rename_i hcolon
      rw [hcolon.1]
      rfl
    · rw [List.takeWhile_cons, List.takeWhile_cons, ih]

theorem withoutConstraint_star (rest : Text) :
    withoutConstraint ('*' :: rest) = '*' :: withoutConstraint rest :=
  rfl

theorem head?_withoutConstraint_iff :
    (withoutConstraint content).head? = some '*' ↔ content.head? = some '*' := by
  cases content with
  | nil => exact Iff.rfl
  | cons c rest =>
    rw [withoutConstraint, withoutConstraintFrom]
    split
    · rename_i hcolon
      rw [hcolon.1]
      simp
    · exact Iff.rfl

theorem tokenName_withoutConstraint (content : Text) :
    tokenName (withoutConstraint content) = tokenName content := by
  by_cases hstar : content.head? = some '*'
  · obtain ⟨rest, rfl⟩ := List.head?_eq_some_iff.mp hstar
    rw [withoutConstraint_star, tokenName_star_cons, tokenName_star_cons, withoutConstraint,
      takeWhile_withoutConstraintFrom]
  · rw [tokenName_of_head?_ne (mt head?_withoutConstraint_iff.mp hstar),
      tokenName_of_head?_ne hstar, withoutConstraint, takeWhile_withoutConstraintFrom]

/-- **A token declares the same without its constraint.** -/
theorem tokenVariable_withoutConstraint (content : Text) :
    tokenVariable (withoutConstraint content) = tokenVariable content := by
  rw [tokenVariable, tokenVariable, tokenName_withoutConstraint]
  simp only [head?_withoutConstraint_iff]

theorem Chunk.declared_withoutConstraint (chunk : Chunk) :
    chunk.withoutConstraint.declared = chunk.declared := by
  cases chunk with
  | literal text => rfl
  | token content => exact congrArg ([·]) (tokenVariable_withoutConstraint content)

/-- If no name is empty, something is in front of each constraint. -/
theorem withoutConstraint_ne_nil (hname : ∀ v ∈ (parse mapping).vars, v.name ≠ [])
    (hcontent : content ∈ tokens mapping) : withoutConstraint content ≠ [] := by
  intro hnil
  have hmem : tokenVariable content ∈ declared mapping := List.mem_map_of_mem hcontent
  obtain ⟨v, hv, hsame⟩ := exists_mem_firstOfEachName hmem
  rw [← tokenVariable_withoutConstraint, hnil] at hsame
  exact hname v hv hsame

/-- Without constraints the chunks are still closed. -/
theorem isClosed_withoutConstraint (hdepth : Text.depthFrom 0 mapping = 0)
    (hname : ∀ v ∈ (parse mapping).vars, v.name ≠ []) :
    ∀ chunk ∈ (chunks mapping).map Chunk.withoutConstraint, chunk.IsClosed := by
  intro chunk hchunk
  obtain ⟨other, hother, rfl⟩ := List.mem_map.mp hchunk
  cases isClosed_of_mem_chunks hdepth hother with
  | literal c hopen => exact .literal c hopen
  | empty => exact .empty
  | token content hne henclosed =>
    exact .token _ (withoutConstraint_ne_nil hname (mem_tokens_iff.mpr hother))
      (IsEnclosed.withoutConstraint henclosed)

theorem chunks_withoutConstraints (hdepth : Text.depthFrom 0 mapping = 0)
    (hname : ∀ v ∈ (parse mapping).vars, v.name ≠ []) :
    chunks (withoutConstraints mapping) = (chunks mapping).map Chunk.withoutConstraint :=
  chunks_flatMap_of_isClosed (isClosed_withoutConstraint hdepth hname)

/-- **Leaving constraints out does not change the variables.** -/
theorem vars_withoutConstraints (hdepth : Text.depthFrom 0 mapping = 0)
    (hname : ∀ v ∈ (parse mapping).vars, v.name ≠ []) :
    (parse (withoutConstraints mapping)).vars = (parse mapping).vars := by
  refine congrArg firstOfEachName ?_
  change declared (withoutConstraints mapping) = declared mapping
  rw [declared_eq_flatMap, chunks_withoutConstraints hdepth hname, List.flatMap_map,
    declared_eq_flatMap]
  exact List.flatMap_congr fun chunk _ => chunk.declared_withoutConstraint

/-! ### Storing without constraints -/

/-- Among the chunks, the token of the variable has no constraint. -/
def Variable.IsExactIn (v : Variable) (cut : List Chunk) : Prop :=
  ∀ chunk ∈ cut, chunk.withoutConstraint = .token v.content → chunk = .token v.content

theorem withoutConstraint_eq_literal_iff :
    chunk.withoutConstraint = .literal text ↔ chunk = .literal text := by
  cases chunk with
  | literal other => exact Iff.rfl
  | token content => exact iff_of_false nofun nofun

theorem withoutConstraint_token_key (hv : v.IsStorable) :
    (Chunk.token v.key).withoutConstraint = .token v.key :=
  congrArg Chunk.token (withoutConstraint_eq_self (hv.colon_notMem_key hv.catchAll))

section

variable (hv : v.IsStorable)

include hv

theorem Variable.IsExactIn.eq_iff (h : v.IsExactIn cut) (hchunk : chunk ∈ cut) :
    chunk.withoutConstraint = .token v.content ↔ chunk = .token v.content := by
  refine ⟨h chunk hchunk, fun htoken => ?_⟩
  rw [htoken]
  exact congrArg Chunk.token (withoutConstraint_eq_self (hv.colon_notMem_content hv.catchAll))

theorem hasSlashed_map_withoutConstraint_iff (h : v.IsExactIn cut) :
    HasSlashed v.content (cut.map Chunk.withoutConstraint) ↔ HasSlashed v.content cut := by
  induction cut with
  | nil => exact Iff.rfl
  | cons chunk cut ih =>
    obtain ⟨-, hlater⟩ := List.forall_mem_cons.mp h
    have hhead : (cut.map Chunk.withoutConstraint).head? = some (.token v.content) ↔
        cut.head? = some (.token v.content) := by
      cases cut with
      | nil => exact Iff.rfl
      | cons next cut =>
        rw [List.map_cons, List.head?_cons, List.head?_cons, Option.some_inj, Option.some_inj]
        exact Variable.IsExactIn.eq_iff hv hlater List.mem_cons_self
    rw [List.map_cons, HasSlashed, HasSlashed, withoutConstraint_eq_literal_iff, hhead, ih hlater]

theorem storeEach_withoutConstraint (h : v.IsExactIn cut) (hchunk : chunk ∈ cut) :
    storeEach v chunk.withoutConstraint = (storeEach v chunk).withoutConstraint := by
  rw [storeEach, storeEach]
  simp only [Variable.IsExactIn.eq_iff hv h hchunk]
  split
  · exact (withoutConstraint_token_key hv).symm
  · rfl

theorem storeBehindSlash_map (h : v.IsExactIn cut) :
    storeBehindSlash v (cut.map Chunk.withoutConstraint) =
      (storeBehindSlash v cut).map Chunk.withoutConstraint := by
  fun_induction storeBehindSlash v cut with
  | case1 => rfl
  | case2 chunk => rfl
  | case3 chunk next others hboth ih =>
    obtain ⟨rfl, rfl⟩ := hboth
    have hlater := (List.forall_mem_cons.mp (List.forall_mem_cons.mp h).2).2
    have hnext := Variable.IsExactIn.eq_iff hv h (List.mem_cons_of_mem _ List.mem_cons_self)
    rw [List.map_cons, List.map_cons, storeBehindSlash,
      if_pos ⟨withoutConstraint_eq_literal_iff.mpr rfl, hnext.mpr rfl⟩, ih hlater, List.map_cons,
      withoutConstraint_token_key hv]
  | case4 chunk next others hboth ih =>
    obtain ⟨-, hlater⟩ := List.forall_mem_cons.mp h
    have hnone : ¬(chunk.withoutConstraint = .literal ['/'] ∧
        next.withoutConstraint = .token v.content) := by
      rwa [withoutConstraint_eq_literal_iff,
        Variable.IsExactIn.eq_iff hv hlater List.mem_cons_self]
    rw [List.map_cons, List.map_cons, storeBehindSlash, if_neg hnone, ← List.map_cons, ih hlater,
      List.map_cons]

theorem storedIn_map (h : v.IsExactIn cut) :
    storedIn v (cut.map Chunk.withoutConstraint) =
      (storedIn v cut).map Chunk.withoutConstraint := by
  rw [storedIn, storedIn]
  simp only [hasSlashed_map_withoutConstraint_iff hv h]
  split
  · exact storeBehindSlash_map hv h
  · rw [List.map_map, List.map_map]
    exact List.map_congr_left fun chunk hchunk => storeEach_withoutConstraint hv h hchunk

theorem Variable.IsExactIn.storedIn (h : w.IsExactIn cut) : w.IsExactIn (storedIn v cut) := by
  intro chunk hchunk hstripped
  rcases mem_storedIn hchunk with hold | ⟨rfl, -⟩
  · exact h chunk hold hstripped
  · rwa [withoutConstraint_token_key hv] at hstripped

end

/-- **Catch-alls without constraints are stored the same** without the other constraints. -/
theorem storedInTurn_map (hvars : ∀ v ∈ vars, v.IsStorable)
    (h : ∀ v ∈ vars, v.IsExactIn cut) :
    storedInTurn vars (cut.map Chunk.withoutConstraint) =
      (storedInTurn vars cut).map Chunk.withoutConstraint := by
  induction vars generalizing cut with
  | nil => rfl
  | cons v vars ih =>
    obtain ⟨hv, hlater⟩ := List.forall_mem_cons.mp hvars
    obtain ⟨hexact, hothers⟩ := List.forall_mem_cons.mp h
    rw [storedInTurn, List.foldl_cons, storedIn_map hv hexact]
    exact ih hlater fun w hw => (hothers w hw).storedIn hv

/-- No token of a catch-all is inside what is left of a chunk that has none inside. -/
theorem Variable.IsWholeIn.withoutConstraint (h : v.IsWholeIn chunk)
    (hopen : Text.StaysOpen 1 v.content) (hclosed : chunk.IsClosed) :
    v.IsWholeIn chunk.withoutConstraint := by
  cases hclosed with
  | literal c hc => exact h
  | empty => exact h
  | token content hne henclosed =>
    intro hinfix
    rcases eq_content_or_infix hopen (IsEnclosed.withoutConstraint henclosed) hinfix with
      heq | hinside
    · exact congrArg Chunk.token heq
    · -- the token would be in front of the constraint, hence be the whole chunk and yet be shorter
      have hprefix : '{' :: Mapping.withoutConstraint content <+: (Chunk.token content).render :=
        (List.cons_prefix_cons.mpr ⟨rfl, withoutConstraint_isPrefix content⟩).trans
          (List.prefix_append _ _)
      have hcontent := Chunk.token.inj (h (hinside.trans hprefix.isInfix))
      have hshort := hinside.length_le
      have hkept := (withoutConstraint_isPrefix content).length_le
      rw [display_eq, ← hcontent] at hshort
      simp only [List.length_append, List.length_cons] at hshort
      omega

/-! ### Expanding without constraints -/

/-- The token leads to an ordinary variable of the mapping. -/
def IsOrdinary (mapping : Mapping) (content : Text) : Prop :=
  ∃ v, mapping.variableOfToken? (tokenName content) = some v ∧ v.catchAll = false

section

variable {mapping : Mapping} {value? : Text → Option Substitution}

theorem isOrdinary_withoutConstraint_iff :
    mapping.IsOrdinary (withoutConstraint content) ↔ mapping.IsOrdinary content := by
  rw [IsOrdinary, IsOrdinary, tokenName_withoutConstraint]

/-- The constraint of an ordinary variable does not matter for what its token is replaced by. -/
theorem substitute_withoutConstraint (h : mapping.IsOrdinary content) :
    mapping.substitute value? (.token (withoutConstraint content)) =
      mapping.substitute value? (.token content) := by
  obtain ⟨v, hv, hordinary⟩ := h
  refine substitute_eq_of_variableOfToken? (v := v) ?_ hv fun hcatch => ?_
  · rw [tokenName_withoutConstraint, hv]
  · exact absurd (hordinary.symm.trans hcatch) (by decide)

/-- A token that does not lead to an ordinary variable is left as it is. -/
theorem residue_of_not_isOrdinary (h : ¬mapping.IsOrdinary content) :
    mapping.residue content = (Chunk.token content).render := by
  rw [residue]
  split
  · rename_i v hv
    refine if_pos (eq_true_of_ne_false fun hordinary => h ⟨v, hv, hordinary⟩)
  · rfl

end

/-! ### Colons that are left -/

/-- The colons that are left of a chunk when there are no values. -/
def colons (mapping : Mapping) (chunk : Chunk) : Text :=
  (mapping.substitute (fun _ => none) chunk).filter (· = ':')

section

variable {mapping : Mapping}

theorem colons_token (mapping : Mapping) (content : Text) :
    mapping.colons (.token content) = (mapping.residue content).filter (· = ':') := by
  rw [colons, substitute_token]

/-- A token that does not lead to an ordinary variable keeps its colons. -/
theorem length_colons_of_not_isOrdinary (h : ¬mapping.IsOrdinary content) :
    (mapping.colons (.token content)).length = content.count ':' := by
  rw [colons_token, residue_of_not_isOrdinary h, Chunk.render, List.cons_append,
    List.filter_cons_of_neg (by decide), List.filter_append, List.filter_singleton,
    List.count_eq_length_filter]
  simp [beq_eq_decide]

theorem length_colons_withoutConstraint_le (mapping : Mapping) (chunk : Chunk) :
    (mapping.colons chunk.withoutConstraint).length ≤ (mapping.colons chunk).length := by
  cases chunk with
  | literal text => exact Nat.le_refl _
  | token content =>
    by_cases hordinary : mapping.IsOrdinary content
    · rw [colons, Chunk.withoutConstraint, substitute_withoutConstraint hordinary, colons]
    · rw [Chunk.withoutConstraint, length_colons_of_not_isOrdinary hordinary,
        length_colons_of_not_isOrdinary (mt isOrdinary_withoutConstraint_iff.mp hordinary)]
      exact (withoutConstraint_isPrefix content).sublist.count_le ':'

theorem length_colons_withoutConstraint_lt (hchanged : withoutConstraint content ≠ content)
    (hordinary : ¬mapping.IsOrdinary content) :
    (mapping.colons (Chunk.token content).withoutConstraint).length <
      (mapping.colons (.token content)).length := by
  rw [Chunk.withoutConstraint, length_colons_of_not_isOrdinary hordinary,
    length_colons_of_not_isOrdinary (mt isOrdinary_withoutConstraint_iff.mp hordinary)]
  exact count_colon_withoutConstraint_lt hchanged

end

theorem colons_eq_nil (raw : Text) (h : ':' ∉ content) :
    (parse raw).colons (.token content) = [] := by
  rw [colons_token, List.filter_eq_nil_iff]
  intro c hc hcolon
  obtain rfl : c = ':' := by simpa using hcolon
  rw [residue] at hc
  split at hc
  · rename_i v hv
    split at hc
    · simp [Chunk.render, h] at hc
    · obtain ⟨other, -, rfl⟩ := exists_token_of_mem_vars (mem_vars_of_variableOfToken? hv)
      simp [colon_notMem_tokenVariable other] at hc
  · simp [Chunk.render, h] at hc

/-! ### With and without constraints -/

section

variable (hdepth : Text.depthFrom 0 mapping = 0)
  (hname : ∀ v ∈ (parse mapping).vars, v.name ≠ [])
  (hvars : ∀ v ∈ (parse mapping).catchAlls, v.IsStorable)
  (hwhole : ∀ v ∈ (parse mapping).catchAlls, ∀ content ∈ tokens mapping,
    v.IsWholeIn (.token content))

include hdepth hvars hwhole

theorem isWhole_chunks : IsWhole (parse mapping).catchAlls (chunks mapping) where
  isClosed chunk hchunk := isClosed_of_mem_chunks hdepth hchunk
  isWholeIn v hv chunk hchunk := by
    have hclosed := isClosed_of_mem_chunks hdepth hchunk
    cases chunk with
    | literal text =>
      refine hclosed.isWholeIn ?_ nofun
      rw [Variable.content_of_catchAll (hvars v hv).catchAll]
      exact List.cons_ne_nil _ _
    | token content => exact hwhole v hv content (mem_tokens_iff.mpr hchunk)

/-- Expanding a mapping goes through its chunks with the catch-alls stored. -/
theorem expand_eq_flatMap (value? : Text → Option Substitution) :
    (parse mapping).expand value? =
      (storedInTurn (parse mapping).catchAlls (chunks mapping)).flatMap
        ((parse mapping).substitute value?) := by
  obtain ⟨htext, hclosed⟩ :=
    (isWhole_chunks hdepth hvars hwhole).foldl_storeCatchAll hvars
  rw [flatMap_render_chunks] at htext
  rw [expand, show (parse mapping).text = _ from htext, chunks_flatMap_of_isClosed hclosed]

include hname

/-- Expanding a mapping without its constraints goes through the chunks without constraints. -/
theorem expand_withoutConstraints_eq_flatMap (value? : Text → Option Substitution) :
    (parse (withoutConstraints mapping)).expand value? =
      (storedInTurn (parse mapping).catchAlls
        ((chunks mapping).map Chunk.withoutConstraint)).flatMap
        ((parse mapping).substitute value?) := by
  have hsame := vars_withoutConstraints hdepth hname
  have hbefore := isWhole_chunks hdepth hvars hwhole
  have hstripped : IsWhole (parse mapping).catchAlls
      ((chunks mapping).map Chunk.withoutConstraint) := by
    refine ⟨isClosed_withoutConstraint hdepth hname, fun v hv chunk hchunk => ?_⟩
    obtain ⟨other, hother, rfl⟩ := List.mem_map.mp hchunk
    exact (hbefore.isWholeIn v hv other hother).withoutConstraint (hvars v hv).staysOpen
      (hbefore.isClosed other hother)
  obtain ⟨htext, hclosed⟩ := hstripped.foldl_storeCatchAll hvars
  have hparse : (parse (withoutConstraints mapping)).text =
      (parse mapping).catchAlls.foldl storeCatchAll (withoutConstraints mapping) := by
    change ((parse (withoutConstraints mapping)).vars.filter _).foldl storeCatchAll _ = _
    rw [hsame]
    rfl
  rw [expand, hparse, withoutConstraints, htext, chunks_flatMap_of_isClosed hclosed]
  exact List.flatMap_congr fun chunk _ => substitute_congr hsame value? chunk

/-- If all constraints belong to ordinary variables, they do not matter. -/
theorem expand_withoutConstraints_of_isOrdinary
    (h : ∀ content ∈ tokens mapping, withoutConstraint content ≠ content →
      (parse mapping).IsOrdinary content) (value? : Text → Option Substitution) :
    (parse (withoutConstraints mapping)).expand value? = (parse mapping).expand value? := by
  have hexact : ∀ v ∈ (parse mapping).catchAlls, v.IsExactIn (chunks mapping) := by
    intro v hv chunk hchunk hstripped
    cases chunk with
    | literal text => exact absurd hstripped nofun
    | token content =>
      by_contra hne
      have hcontent : withoutConstraint content = v.content := Chunk.token.inj hstripped
      -- the constraint would belong to an ordinary variable with the name of the catch-all
      obtain ⟨w, hw, hordinary⟩ := h content (mem_tokens_iff.mpr hchunk)
        fun hsame => hne (congrArg Chunk.token (hsame.symm.trans hcontent))
      obtain ⟨hmem, hcatch⟩ := List.mem_filter.mp hv
      rw [← tokenName_withoutConstraint, hcontent, (hvars v hv).tokenName_content hcatch] at hw
      have hfound := List.find?_some hw
      have hname : w.name = v.name := by
        simpa [Variable.key, hordinary] using hfound
      obtain rfl := eq_of_name_eq (mem_vars_of_variableOfToken? hw) hmem hname
      exact absurd (hordinary.symm.trans hcatch) (by decide)
  rw [expand_withoutConstraints_eq_flatMap hdepth hname hvars hwhole,
    expand_eq_flatMap hdepth hvars hwhole, storedInTurn_map hvars hexact, List.flatMap_map]
  refine List.flatMap_congr fun chunk hchunk => ?_
  rcases mem_storedInTurn hchunk with hold | ⟨v, hv, rfl⟩
  · cases chunk with
    | literal text => rfl
    | token content =>
      by_cases hsame : withoutConstraint content = content
      · rw [Chunk.withoutConstraint, hsame]
      · exact substitute_withoutConstraint (h content (mem_tokens_iff.mpr hold) hsame)
  · rw [withoutConstraint_token_key (hvars v hv)]

/-- If constraints do not matter when there are no values, all belong to ordinary variables. -/
theorem isOrdinary_of_expand_withoutConstraints
    (h : (parse (withoutConstraints mapping)).expand (fun _ => none) =
      (parse mapping).expand fun _ => none) (hcontent : content ∈ tokens mapping)
    (hchanged : withoutConstraint content ≠ content) : (parse mapping).IsOrdinary content := by
  by_contra hordinary
  have hkey : ∀ v ∈ (parse mapping).catchAlls, (parse mapping).colons (.token v.key) =
      (parse mapping).colons (.token v.content) := by
    intro v hv
    have hcatch := (hvars v hv).catchAll
    rw [colons_eq_nil mapping ((hvars v hv).colon_notMem_key hcatch),
      colons_eq_nil mapping ((hvars v hv).colon_notMem_content hcatch)]
  have hcolons : ((chunks mapping).map Chunk.withoutConstraint).flatMap (parse mapping).colons =
      (chunks mapping).flatMap (parse mapping).colons := by
    rw [expand_withoutConstraints_eq_flatMap hdepth hname hvars hwhole,
      expand_eq_flatMap hdepth hvars hwhole] at h
    have hfilter := congrArg (List.filter (· = ':')) h
    rw [List.filter_flatMap, List.filter_flatMap] at hfilter
    rw [← flatMap_storedInTurn rfl hkey (chunks mapping),
      ← flatMap_storedInTurn rfl hkey ((chunks mapping).map Chunk.withoutConstraint)]
    exact hfilter
  -- every constraint that is left out takes a colon along
  have hlength := congrArg List.length hcolons
  rw [List.flatMap_map, List.length_flatMap, List.length_flatMap] at hlength
  refine absurd hlength (Nat.ne_of_lt (List.sum_lt_sum _ _ (fun chunk _ => ?_)
    ⟨_, mem_tokens_iff.mp hcontent, ?_⟩))
  · exact length_colons_withoutConstraint_le (parse mapping) chunk
  · exact length_colons_withoutConstraint_lt hchanged hordinary

end

/-- **Leaving constraints out of a mapping.** Let a clean-up leave constraints out and nothing else.
Then the mapping is normal, and the variables are the same as before. If no token of a catch-all is
inside another token, and no catch-all has blanks at the ends of its name, the expansions are the
same if and only if every constraint belongs to an ordinary variable. -/
theorem expand_clean_iff (hdollar : '$' ∉ mapping) (hdepth : Text.depthFrom 0 mapping = 0)
    (hclean : clean mapping = withoutConstraints mapping)
    (hname : ∀ v ∈ (parse mapping).vars, v.name ≠ []) :
    IsNormal mapping ∧ (parse (clean mapping)).vars = (parse mapping).vars ∧
      ((∀ v ∈ (parse mapping).vars, v.catchAll = true → Text.trim v.name = v.name ∧
          ∀ content ∈ tokens mapping, v.IsWholeIn (.token content)) →
        ((∀ value?, (parse (clean mapping)).expand value? = (parse mapping).expand value?) ↔
          ∀ content ∈ tokens mapping, withoutConstraint content ≠ content →
            (parse mapping).IsOrdinary content)) := by
  refine ⟨(clean_eq_withoutConstraints_iff hdollar hdepth).mp hclean, ?_, fun hcatch => ?_⟩
  · rw [hclean, vars_withoutConstraints hdepth hname]
  · have hvars := isStorable_of_mem_catchAlls hdepth fun v hv h => (hcatch v hv h).1
    have hwhole : ∀ v ∈ (parse mapping).catchAlls, ∀ content ∈ tokens mapping,
        v.IsWholeIn (.token content) := by
      intro v hv
      obtain ⟨hmem, hcatchAll⟩ := List.mem_filter.mp hv
      exact (hcatch v hmem hcatchAll).2
    rw [hclean]
    constructor
    · exact fun h content hcontent hchanged =>
        isOrdinary_of_expand_withoutConstraints hdepth hname hvars hwhole (h fun _ => none)
          hcontent hchanged
    · exact fun h => expand_withoutConstraints_of_isOrdinary hdepth hname hvars hwhole h

/-- The constraint of an ordinary variable does not matter, and the catch-all is stored. -/
theorem expand_clean_iff_of_ordinary :
    clean "/items/{id:[0-9]+}/{*path}".toList = "/items/{id}/{*path}".toList ∧
      ∀ value?, (parse (clean "/items/{id:[0-9]+}/{*path}".toList)).expand value? =
        (parse "/items/{id:[0-9]+}/{*path}".toList).expand value? := by
  have hclean : clean "/items/{id:[0-9]+}/{*path}".toList = "/items/{id}/{*path}".toList := by cbv
  have hwithout : withoutConstraints "/items/{id:[0-9]+}/{*path}".toList =
      "/items/{id}/{*path}".toList := by cbv
  have htokens : tokens "/items/{id:[0-9]+}/{*path}".toList =
      ["id:[0-9]+".toList, "*path".toList] := by cbv
  have hparse : parse "/items/{id:[0-9]+}/{*path}".toList =
      ⟨"/items/{id:[0-9]+}{__composite-path__}".toList,
        [⟨"id".toList, false⟩, ⟨"path".toList, true⟩]⟩ := by cbv
  refine ⟨hclean, (expand_clean_iff (by decide) (by decide) (hclean.trans hwithout.symm) ?_).2.2
    ?_ |>.mpr ?_⟩
  · rw [hparse]
    decide
  · simp only [hparse, htokens, Variable.IsWholeIn]
    decide
  · intro content hcontent hchanged
    rw [htokens] at hcontent
    rcases List.mem_cons.mp hcontent with rfl | hlater
    · exact ⟨⟨"id".toList, false⟩, by rw [hparse]; decide, rfl⟩
    · obtain rfl := List.mem_singleton.mp hlater
      exact absurd rfl hchanged

/-- A catch-all with a constraint is not stored: its value stands behind the slash. -/
theorem expand_clean_ne :
    '$' ∉ "/files/{*path:.*}".toList ∧ Text.depthFrom 0 "/files/{*path:.*}".toList = 0 ∧
      (parse "/files/{*path:.*}".toList).vars = [⟨"path".toList, true⟩] ∧
      clean "/files/{*path:.*}".toList = withoutConstraints "/files/{*path:.*}".toList ∧
      (parse "/files/{*path:.*}".toList).expand (fun _ => some (.text "/a/b".toList)) ≠
        (parse (clean "/files/{*path:.*}".toList)).expand
          fun _ => some (.text "/a/b".toList) := by
  have hclean : clean "/files/{*path:.*}".toList = "/files/{*path}".toList := by cbv
  have hwithout : withoutConstraints "/files/{*path:.*}".toList = "/files/{*path}".toList := by
    cbv
  have hvars : (parse "/files/{*path:.*}".toList).vars = [⟨"path".toList, true⟩] := by cbv
  have hbefore : (parse "/files/{*path:.*}".toList).expand
      (fun _ => some (.text "/a/b".toList)) = "/files//a/b".toList := by cbv
  have hbehind : (parse "/files/{*path}".toList).expand
      (fun _ => some (.text "/a/b".toList)) = "/files/a/b".toList := by cbv
  rw [hclean, hwithout, hvars, hbefore, hbehind]
  decide

end Signpost.Mapping
