import Mathlib.Data.List.Basic
import Mathlib.Data.List.Induction
import Signpost.Mapping.Fragments
import Signpost.Proofs.Text.Depth
import Signpost.Proofs.Text.Separators

/-!
# What a clean-up guarantees

A clean-up scans a mapping and keeps count of the open braces. Outside braces it keeps no slash
behind a slash, and at the end none at all unless the mapping is a slash. The braces it counts are
those of the mapping it reads; inside a constraint, which it leaves out with the braces in it, what
it has put out stands one level deep.

## Main definitions

* `Mapping.IsApart`: a text that is put behind another one without making empty segments.
* `Mapping.IsSeam`: a place where two texts make an empty segment.
* `Mapping.IsNormal`: a mapping without empty segments and without a slash at its end.

## Main results

* `Mapping.isApart_append_iff`: putting texts behind each other.
* `Mapping.isApart_flatMap_iff`: the seams between texts are where empty segments begin.
* `Mapping.isNormal_clean`: a cleaned mapping.
-/

namespace Signpost.Mapping

/-- Behind `done`, no slash of the text that is outside braces follows a slash. -/
def IsApart (done text : Text) : Prop :=
  ∀ front back, text = front ++ '/' :: back → Text.depthFrom 0 (done ++ front) = 0 →
    (done ++ front).getLast? ≠ some '/'

/-- Outside braces, a text that begins with a slash is put behind one. -/
structure IsSeam (done text : Text) : Prop where
  behind : done.getLast? = some '/'
  outside : Text.depthFrom 0 done = 0
  head : text.head? = some '/'

/-- The mapping has no empty segment outside braces and no slash at its end, unless it is a
slash. -/
structure IsNormal (mapping : Text) : Prop where
  isApart : IsApart [] mapping
  eq_slash : mapping.getLast? = some '/' → mapping = ['/']

variable {cleaner next : Cleaner} {done text other : Text} {c : Char}

/-! ### Empty segments -/

theorem isApart_of_notMem (h : '/' ∉ text) (done : Text) : IsApart done text :=
  fun front _ heq => absurd (heq ▸ List.mem_append_right front List.mem_cons_self) h

theorem isApart_append_iff :
    IsApart done (text ++ other) ↔ IsApart done text ∧ IsApart (done ++ text) other := by
  constructor
  · refine fun h => ⟨fun front back htext => ?_, fun front back hother => ?_⟩
    · exact h front (back ++ other) (by rw [htext, List.append_assoc, List.cons_append])
    · rw [List.append_assoc]
      exact h (text ++ front) back (by rw [hother, List.append_assoc])
  · rintro ⟨htext, hother⟩ front back heq
    rcases List.append_eq_append_iff.mp heq with ⟨more, rfl, hmore⟩ | ⟨more, htexteq, hmore⟩
    · rw [← List.append_assoc]
      exact hother more back hmore
    · cases more with
      | nil =>
        rw [List.append_nil] at htexteq
        rw [← htexteq, ← List.append_nil (done ++ text)]
        exact hother [] back hmore.symm
      | cons d more =>
        obtain ⟨rfl, rfl⟩ := List.cons.inj hmore
        exact htext front more htexteq

theorem isApart_singleton_iff :
    IsApart done [c] ↔
      (c = '/' → Text.depthFrom 0 done = 0 → done.getLast? ≠ some '/') := by
  constructor
  · intro h hslash
    have hfirst := h [] [] (by rw [hslash]; rfl)
    rwa [List.append_nil] at hfirst
  · intro h front back heq
    cases front with
    | nil =>
      rw [List.append_nil]
      exact h (List.cons.inj heq).1
    | cons d front => exact absurd (List.cons.inj heq).2 (by simp)

/-- A text without empty segments of its own makes one behind another text only where it begins. -/
theorem isApart_iff_not_isSeam (h : IsApart [] text) :
    IsApart done text ↔ ¬IsSeam done text := by
  constructor
  · rintro happart ⟨hlast, hdepth, hhead⟩
    obtain ⟨back, rfl⟩ := List.head?_eq_some_iff.mp hhead
    have hfirst := happart [] back rfl
    rw [List.append_nil] at hfirst
    exact hfirst hdepth hlast
  · intro hseam front back heq hdepth
    cases front with
    | nil =>
      rw [List.append_nil] at hdepth ⊢
      exact fun hlast => hseam ⟨hlast, hdepth, by rw [heq]; rfl⟩
    | cons d front =>
      -- the slash is not the first character: more braces are open around it than without `done`
      rw [List.getLast?_append_of_ne_nil _ (List.cons_ne_nil _ _)]
      refine h (d :: front) back heq (Nat.le_zero.mp ?_)
      rw [Text.depthFrom_append] at hdepth
      exact hdepth ▸ Text.depthFrom_mono (Nat.zero_le _) _

/-- Texts without empty segments of their own make them at seams only. -/
theorem isApart_flatMap_iff {α : Type*} {f : α → Text} {items : List α}
    (h : ∀ item ∈ items, IsApart [] (f item)) (done : Text) :
    IsApart done (items.flatMap f) ↔
      ∀ before item after, items = before ++ item :: after →
        ¬IsSeam (done ++ before.flatMap f) (f item) := by
  induction items generalizing done with
  | nil =>
    refine iff_of_true (isApart_of_notMem List.not_mem_nil done) fun before item after heq => ?_
    exact absurd heq (by simp)
  | cons first items ih =>
    obtain ⟨hfirst, hlater⟩ := List.forall_mem_cons.mp h
    rw [List.flatMap_cons, isApart_append_iff, isApart_iff_not_isSeam hfirst,
      ih hlater (done ++ f first)]
    constructor
    · rintro ⟨hseam, hseams⟩ before item after heq
      cases before with
      | nil =>
        obtain ⟨rfl, rfl⟩ := List.cons.inj heq
        rwa [List.flatMap_nil, List.append_nil]
      | cons head before =>
        obtain ⟨rfl, rfl⟩ := List.cons.inj heq
        rw [List.flatMap_cons, ← List.append_assoc]
        exact hseams before item after rfl
    · refine fun hseams => ⟨?_, fun before item after heq => ?_⟩
      · have hnone := hseams [] first items rfl
        rwa [List.flatMap_nil, List.append_nil] at hnone
      · have hnone := hseams (first :: before) item after (by rw [heq, List.cons_append])
        rwa [List.flatMap_cons, ← List.append_assoc] at hnone

/-! ### Cleaning up -/

theorem cleanFrom_of_kept (h : cleaner.step c = (next, true)) (rest : Text) :
    cleanFrom cleaner (c :: rest) = c :: cleanFrom next rest := by
  simp only [cleanFrom, h, if_true]

theorem cleanFrom_of_dropped (h : cleaner.step c = (next, false)) (rest : Text) :
    cleanFrom cleaner (c :: rest) = cleanFrom next rest := by
  simp only [cleanFrom, h, Bool.false_eq_true, if_false]

/-- A clean-up that stands at `cleaner` has put out `done`. -/
structure Cleaner.Reflects (cleaner : Cleaner) (done : Text) : Prop where
  last : cleaner.last = done.getLast?
  depth : Text.depthFrom 0 done = if cleaner.inConstraint then 1 else cleaner.depth
  pos : cleaner.inConstraint = true → 0 < cleaner.depth

namespace Cleaner

variable {depth : Nat} {inConstraint : Bool} {last : Option Char}

theorem Reflects.new : ({} : Cleaner).Reflects [] :=
  ⟨rfl, rfl, fun h => absurd h Bool.false_ne_true⟩

/-- A character that is put out goes to the end. -/
theorem Reflects.concat
    (hdepth : Text.depthAfter (Text.depthFrom 0 done) c = if inConstraint then 1 else depth)
    (hpos : inConstraint = true → 0 < depth) (inPlaceholder : Bool) :
    Reflects ⟨depth, inConstraint, inPlaceholder, some c⟩ (done ++ [c]) where
  last := (List.getLast?_concat).symm
  depth := by
    rw [Text.depthFrom_append]
    exact hdepth
  pos := hpos

/-- What a clean-up that has put out `done` does with a character: it puts it out or not, and a
slash that it puts out outside braces follows no slash. -/
def Advances (done : Text) (c : Char) (outcome : Cleaner × Bool) : Prop :=
  if outcome.2 then
    outcome.1.Reflects (done ++ [c]) ∧
      (c = '/' → Text.depthFrom 0 done = 0 → done.getLast? ≠ some '/')
  else outcome.1.Reflects done

namespace Reflects

variable {cleaner : Cleaner} (h : cleaner.Reflects done)

include h

theorem depth_eq (hconstraint : ¬cleaner.inConstraint = true) :
    Text.depthFrom 0 done = cleaner.depth := by
  rw [h.depth, if_neg hconstraint]

theorem advances_open : Advances done '{' (cleaner.step '{') := by
  rw [Cleaner.step]
  simp only [if_true]
  split
  · rename_i hconstraint
    exact ⟨h.last, by simpa [hconstraint] using h.depth, fun _ => Nat.succ_pos _⟩
  · rename_i hconstraint
    refine ⟨concat ?_ (fun _ => Nat.succ_pos _) _, fun hc => absurd hc (by decide)⟩
    rw [Text.depthAfter_open, h.depth_eq hconstraint, if_neg hconstraint]

theorem advances_close (hdepth : 0 < cleaner.depth) :
    Advances done '}' (cleaner.step '}') := by
  rw [Cleaner.step, if_neg (by decide), if_pos ⟨rfl, hdepth⟩]
  simp only
  split
  · rename_i houtside
    refine ⟨concat ?_ (fun h => absurd h Bool.false_ne_true) _, fun hc => absurd hc (by decide)⟩
    rw [Text.depthAfter_close, h.depth]
    split
    · exact houtside.symm
    · rfl
  · rename_i hinside
    split
    · rename_i hconstraint
      exact ⟨h.last, by simpa [hconstraint] using h.depth, fun _ => Nat.pos_of_ne_zero hinside⟩
    · rename_i hconstraint
      refine ⟨concat ?_ (fun _ => Nat.pos_of_ne_zero hinside) _, fun hc => absurd hc (by decide)⟩
      rw [Text.depthAfter_close, h.depth_eq hconstraint, if_neg hconstraint]

/-- A brace that closes nothing is a character like others. -/
theorem advances_other (hopen : c ≠ '{') (hclose : ¬(c = '}' ∧ 0 < cleaner.depth)) :
    Advances done c (cleaner.step c) := by
  rw [Cleaner.step, if_neg hopen, if_neg hclose]
  simp only
  split
  · rename_i hcolon
    refine ⟨h.last, ?_, fun _ => hcolon.2.1 ▸ Nat.one_pos⟩
    rw [h.depth, hcolon.2.1]
    exact ite_self 1
  · split
    · rename_i hslash
      split
      · exact h
      · rename_i hsecond
        refine ⟨concat ?_ h.pos _, fun _ _ => h.last ▸ hsecond⟩
        rw [hslash.1, Text.depthAfter_of_ne (by decide) (by decide), h.depth]
    · rename_i hslash
      split
      · exact h
      · rename_i hconstraint
        refine ⟨concat ?_ h.pos _, fun hc houtside => ?_⟩
        · rw [h.depth_eq hconstraint, if_neg hconstraint, Text.depthAfter, if_neg hopen]
          split
          · rename_i hc
            have hzero : cleaner.depth = 0 := by simpa [hc] using hclose
            rw [hzero]
          · rfl
        · exact absurd ⟨hc, (h.depth_eq hconstraint).symm.trans houtside⟩ hslash

theorem advances (c : Char) : Advances done c (cleaner.step c) := by
  by_cases hopen : c = '{'
  · exact hopen ▸ h.advances_open
  · by_cases hclose : c = '}' ∧ 0 < cleaner.depth
    · exact hclose.1 ▸ h.advances_close hclose.2
    · exact h.advances_other hopen hclose

end Reflects

end Cleaner

/-- What a clean-up puts out makes no empty segment. -/
theorem isApart_cleanFrom {cleaner : Cleaner} (h : cleaner.Reflects done) (text : Text) :
    IsApart done (cleanFrom cleaner text) := by
  induction text generalizing cleaner done with
  | nil => exact isApart_of_notMem List.not_mem_nil done
  | cons c text ih =>
    have hadvances := h.advances c
    rw [Cleaner.Advances] at hadvances
    rw [cleanFrom]
    simp only
    split
    · rename_i hkept
      rw [if_pos hkept] at hadvances
      rw [← List.singleton_append, isApart_append_iff]
      exact ⟨isApart_singleton_iff.mpr hadvances.2, ih hadvances.1⟩
    · rename_i hdropped
      rw [if_neg hdropped] at hadvances
      exact ih hadvances

theorem dropEndSlashes_isPrefix (mapping : Text) : dropEndSlashes mapping <+: mapping := by
  cases mapping with
  | nil => exact List.prefix_refl []
  | cons c rest => exact List.cons_prefix_cons.mpr ⟨rfl, Text.dropEndWhile_prefix _ rest⟩

theorem dropEndSlashes_slash (hne : text ≠ []) :
    dropEndSlashes (text ++ ['/']) = dropEndSlashes text := by
  obtain ⟨c, rest, rfl⟩ := List.exists_cons_of_ne_nil hne
  rw [List.cons_append, dropEndSlashes, dropEndSlashes, Text.dropEndWhile_concat (by decide)]

theorem dropEndSlashes_concat (hc : c ≠ '/') (text : Text) :
    dropEndSlashes (text ++ [c]) = text ++ [c] := by
  cases text with
  | nil => rfl
  | cons d rest =>
    rw [List.cons_append, dropEndSlashes, Text.dropEndWhile_append_cons (by simpa using hc)]
    rfl

/-- What a slash at the end does not change, slashes at the end do not change. -/
theorem apply_dropEndSlashes {α : Type*} {f : Text → α} (hf : ∀ text, f (text ++ ['/']) = f text)
    (mapping : Text) : f (dropEndSlashes mapping) = f mapping := by
  induction mapping using List.reverseRecOn with
  | nil => rfl
  | append_singleton front c ih =>
    by_cases hc : c = '/'
    · subst hc
      rcases eq_or_ne front [] with rfl | hne
      · rfl
      · rw [dropEndSlashes_slash hne, ih, hf]
    · rw [dropEndSlashes_concat hc]

theorem dropEndSlashes_eq_self (h : text.getLast? = some '/' → text = ['/']) :
    dropEndSlashes text = text := by
  rcases List.eq_nil_or_concat' text with rfl | ⟨front, c, rfl⟩
  · rfl
  · by_cases hc : c = '/'
    · rw [h (by rw [List.getLast?_concat, hc])]
      rfl
    · exact dropEndSlashes_concat hc front

theorem eq_slash_of_getLast?_dropEndSlashes {mapping : Text}
    (h : (dropEndSlashes mapping).getLast? = some '/') : dropEndSlashes mapping = ['/'] := by
  cases mapping with
  | nil => exact absurd h (by simp [dropEndSlashes])
  | cons c rest =>
    rw [dropEndSlashes] at h ⊢
    cases hrest : Text.dropEndWhile (· = '/') rest with
    | nil =>
      rw [hrest] at h
      exact congrArg (· :: []) (Option.some_inj.mp h)
    | cons d more =>
      rw [hrest, List.getLast?_cons_cons, ← hrest] at h
      exact absurd (Text.eq_false_of_getLast?_dropEndWhile h) (by decide)

/-- **A cleaned mapping is normal**, whatever braces the mapping has. -/
theorem isNormal_clean (mapping : Text) : IsNormal (clean mapping) where
  isApart := by
    obtain ⟨slashes, hslashes⟩ := dropEndSlashes_isPrefix (cleanFrom {} mapping)
    have hclean := isApart_cleanFrom Cleaner.Reflects.new mapping
    rw [← hslashes, isApart_append_iff] at hclean
    exact hclean.1
  eq_slash := eq_slash_of_getLast?_dropEndSlashes

end Signpost.Mapping
