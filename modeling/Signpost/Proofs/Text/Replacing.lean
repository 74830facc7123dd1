import Mathlib.Data.List.Infix
import Signpost.Text.Basic

/-!
# Replacing in texts

Occurrences of a pattern are replaced from the left to the right. What becomes of a text is told by
an induction that reads an occurrence, or a character with which none begins, at a time. Whether
replacing one pattern makes occurrences of another depends on whether these can reach into the
replacement.

## Main definitions

* `Text.IsClearOf`: a text whose occurrences do not reach into a replacement.

## Main results

* `Text.mem_replaceAll`: where the characters of a text with a pattern replaced come from.
* `Text.replaceAll_induction`: reading a text for a pattern.
* `Text.replaceAll_append`: a text in which no occurrence begins stays as it is.
* `Text.replaceAll_append_of_prefix`: two texts are replaced in one by one if no occurrence reaches
  from the first into the second.
* `Text.IsClearOf.infix_of_infix_replaceAll`: replacing makes no new occurrences.
-/

namespace Signpost.Text

/-- Where a pattern is not found the text stays as it is. -/
theorem replaceFrom_cons {pattern new rest : Text} {c : Char} (h : ¬pattern <+: c :: rest) :
    replaceFrom pattern new 0 (c :: rest) = c :: replaceFrom pattern new 0 rest := by
  rw [replaceFrom, if_neg]
  rintro ⟨-, hprefix⟩
  exact h (List.isPrefixOf_iff_prefix.mp hprefix)

theorem replaceFrom_length (pattern new skipped rest : Text) :
    replaceFrom pattern new skipped.length (skipped ++ rest) = replaceFrom pattern new 0 rest := by
  induction skipped with
  | nil => rfl
  | cons c skipped ih => rw [List.length_cons, List.cons_append, replaceFrom, ih]

/-- Where a pattern is found the replacement takes its place. -/
theorem replaceFrom_append {pattern : Text} (h : pattern ≠ []) (new rest : Text) :
    replaceFrom pattern new 0 (pattern ++ rest) = new ++ replaceFrom pattern new 0 rest := by
  cases pattern with
  | nil => exact absurd rfl h
  | cons c pattern =>
    have hprefix : (c :: pattern).isPrefixOf (c :: (pattern ++ rest)) = true :=
      List.isPrefixOf_iff_prefix.mpr ⟨rest, rfl⟩
    rw [List.cons_append, replaceFrom, if_pos ⟨h, hprefix⟩, List.length_cons, Nat.add_sub_cancel,
      replaceFrom_length]

theorem mem_replaceFrom {pattern new text : Text} {skip : Nat} {c : Char}
    (h : c ∈ replaceFrom pattern new skip text) : c ∈ new ∨ c ∈ text := by
  induction text generalizing skip with
  | nil => simp [replaceFrom] at h
  | cons d rest ih =>
    cases skip with
    | succ skip => exact (ih h).imp_right (List.mem_cons_of_mem d)
    | zero =>
      rw [replaceFrom] at h
      split at h
      · rcases List.mem_append.mp h with hnew | hrest
        · exact .inl hnew
        · exact (ih hrest).imp_right (List.mem_cons_of_mem d)
      · rcases List.mem_cons.mp h with rfl | hrest
        · exact .inr List.mem_cons_self
        · exact (ih hrest).imp_right (List.mem_cons_of_mem d)

/-- Every character of a text with a pattern replaced stands in the replacement or in the text. -/
theorem mem_replaceAll {pattern new text : Text} {c : Char}
    (h : c ∈ replaceAll pattern new text) : c ∈ new ∨ c ∈ text :=
  mem_replaceFrom h

/-! ### Occurrences -/

variable {pattern new text front rest : Text} {c : Char}

/-- A text occurs in two texts in a row behind the start of the first or in the second. -/
theorem infix_append_iff_suffix :
    pattern <:+: front ++ rest ↔
      (∃ start, start <:+ front ∧ start ≠ [] ∧ pattern <+: start ++ rest) ∨ pattern <:+: rest := by
  induction front with
  | nil =>
    refine ⟨.inr, fun h => h.resolve_left ?_⟩
    rintro ⟨start, hstart, hne, -⟩
    exact hne (List.suffix_nil.mp hstart)
  | cons c front ih =>
    rw [List.cons_append, List.infix_cons_iff, ih]
    constructor
    · rintro (hbegins | ⟨start, hstart, hne, hbegins⟩ | hrest)
      · exact .inl ⟨c :: front, List.suffix_refl _, List.cons_ne_nil _ _, hbegins⟩
      · exact .inl ⟨start, hstart.trans (List.suffix_cons c front), hne, hbegins⟩
      · exact .inr hrest
    · rintro (⟨start, hstart, hne, hbegins⟩ | hrest)
      · rcases List.suffix_cons_iff.mp hstart with rfl | hlater
        · exact .inl hbegins
        · exact .inr (.inl ⟨start, hlater, hne, hbegins⟩)
      · exact .inr (.inr hrest)

/-- A text does not reach into what lacks its first character. -/
theorem infix_of_infix_append_left (hhead : pattern.head? = some c) (hc : c ∉ front)
    (h : pattern <:+: front ++ text) : pattern <:+: text := by
  obtain ⟨more, rfl⟩ := List.head?_eq_some_iff.mp hhead
  rcases List.infix_append_iff.mp h with hfront | htext | ⟨left, right, heq, hleft, hright⟩
  · exact absurd (hfront.subset List.mem_cons_self) hc
  · exact htext
  · cases left with
    | nil => exact heq ▸ hright.isInfix
    | cons d left =>
      obtain ⟨rfl, -⟩ := List.cons.inj heq
      exact absurd (hleft.subset List.mem_cons_self) hc

/-- A text does not reach into what lacks its last character. -/
theorem infix_of_infix_append_right (hlast : pattern.getLast? = some c) (hc : c ∉ front)
    (h : pattern <:+: text ++ front) : pattern <:+: text := by
  rw [← List.reverse_infix, List.reverse_append] at h
  refine List.reverse_infix.mp (infix_of_infix_append_left ?_ (mt List.mem_reverse.mp hc) h)
  rw [List.head?_reverse, hlast]

theorem hasInfix_iff : hasInfix pattern text = true ↔ pattern <:+: text := by
  induction text with
  | nil => rw [hasInfix, List.isEmpty_iff, List.infix_nil]
  | cons c text ih =>
    rw [hasInfix, Bool.or_eq_true, List.isPrefixOf_iff_prefix, ih, List.infix_cons_iff]

/-! ### What becomes of a text -/

/-- A text is read for a pattern an occurrence, or a character with which none begins, at a time. -/
theorem replaceAll_induction {motive : Text → Text → Prop} (hpattern : pattern ≠ [])
    (nil : motive [] [])
    (found : ∀ rest, motive rest (replaceAll pattern new rest) →
      motive (pattern ++ rest) (new ++ replaceAll pattern new rest))
    (skip : ∀ c rest, ¬pattern <+: c :: rest → motive rest (replaceAll pattern new rest) →
      motive (c :: rest) (c :: replaceAll pattern new rest)) (text : Text) :
    motive text (replaceAll pattern new text) := by
  induction hlength : text.length using Nat.strong_induction_on generalizing text with
  | h length ih =>
    by_cases hfound : pattern <+: text
    · obtain ⟨rest, rfl⟩ := hfound
      have hpos := List.length_pos_of_ne_nil hpattern
      rw [List.length_append] at hlength
      rw [replaceAll, replaceFrom_append hpattern]
      exact found rest (ih rest.length (by omega) rest rfl)
    · cases text with
      | nil => exact nil
      | cons c rest =>
        rw [List.length_cons] at hlength
        rw [replaceAll, replaceFrom_cons hfound]
        exact skip c rest hfound (ih rest.length (by omega) rest rfl)

/-- A text in which no occurrence begins stays as it is. -/
theorem replaceAll_append
    (h : ∀ start, start <:+ front → start ≠ [] → ¬pattern <+: start ++ rest) :
    replaceAll pattern new (front ++ rest) = front ++ replaceAll pattern new rest := by
  induction front with
  | nil => rfl
  | cons c front ih =>
    have hfirst := h (c :: front) (List.suffix_refl _) (List.cons_ne_nil _ _)
    rw [List.cons_append] at hfirst ⊢
    rw [replaceAll, replaceFrom_cons hfirst]
    refine congrArg (c :: ·) (ih fun start hstart => ?_)
    exact h start (hstart.trans (List.suffix_cons c front))

/-- Two texts are replaced in one by one if no occurrence reaches from the first into the second. -/
theorem replaceAll_append_of_prefix (hpattern : pattern ≠ [])
    (h : ∀ start, start <:+ front → start ≠ [] → pattern <+: start ++ rest → pattern <+: start) :
    replaceAll pattern new (front ++ rest) =
      replaceAll pattern new front ++ replaceAll pattern new rest := by
  refine replaceAll_induction (motive := fun front replaced =>
    (∀ start, start <:+ front → start ≠ [] → pattern <+: start ++ rest → pattern <+: start) →
      replaceAll pattern new (front ++ rest) = replaced ++ replaceAll pattern new rest)
    hpattern (fun _ => rfl) ?_ ?_ front h
  · intro later ih h
    rw [List.append_assoc, replaceAll, replaceFrom_append hpattern, List.append_assoc]
    refine congrArg (new ++ ·) (ih fun start hstart => h start ?_)
    exact hstart.trans (List.suffix_append pattern later)
  · intro c later hno ih h
    have hstays : ¬pattern <+: c :: (later ++ rest) := fun hprefix =>
      hno (h (c :: later) (List.suffix_refl _) (List.cons_ne_nil _ _) hprefix)
    rw [List.cons_append, replaceAll, replaceFrom_cons hstays]
    refine congrArg (c :: ·) (ih fun start hstart => h start ?_)
    exact hstart.trans (List.suffix_cons c later)

/-- Where a pattern occurs, the replacement occurs afterwards. -/
theorem infix_replaceAll_of_infix (hpattern : pattern ≠ []) (text : Text) :
    pattern <:+: text → new <:+: replaceAll pattern new text := by
  refine replaceAll_induction (motive := fun text replaced =>
    pattern <:+: text → new <:+: replaced) hpattern ?_ ?_ ?_ text
  · exact fun h => absurd (List.infix_nil.mp h) hpattern
  · exact fun rest _ _ => (List.prefix_append new _).isInfix
  · intro c rest hno ih h
    have hrest := (List.infix_cons_iff.mp h).resolve_left hno
    exact (ih hrest).trans (List.suffix_cons c _).isInfix

/-- Replacing does not reach across a character that neither pattern nor replacement has. -/
theorem takeWhile_replaceAll (hpattern : pattern ≠ []) (hold : c ∉ pattern) (hnew : c ∉ new)
    (text : Text) :
    (replaceAll pattern new text).takeWhile (· ≠ c) =
      replaceAll pattern new (text.takeWhile (· ≠ c)) := by
  have htake {front : Text} (hfront : c ∉ front) (rest : Text) :
      (front ++ rest).takeWhile (· ≠ c) = front ++ rest.takeWhile (· ≠ c) :=
    List.takeWhile_append_of_pos fun d hd => by simpa using ne_of_mem_of_not_mem hd hfront
  refine replaceAll_induction (motive := fun text replaced =>
    replaced.takeWhile (· ≠ c) = replaceAll pattern new (text.takeWhile (· ≠ c)))
    hpattern rfl ?_ ?_ text
  · intro rest ih
    rw [htake hnew, htake hold, ih, replaceAll, replaceAll, replaceFrom_append hpattern]
  · intro d rest hno ih
    by_cases hd : d = c
    · simp [hd, replaceAll, replaceFrom]
    · have hkept : ¬pattern <+: d :: rest.takeWhile (· ≠ c) := fun hbegins =>
        hno (hbegins.trans (List.cons_prefix_cons.mpr ⟨rfl, List.takeWhile_prefix _⟩))
      rw [List.takeWhile_cons_of_pos (by simpa using hd),
        List.takeWhile_cons_of_pos (by simpa using hd), ih, replaceAll, replaceAll,
        replaceFrom_cons hkept]

/-- Without an occurrence the text stays as it is. -/
theorem replaceAll_of_not_infix (h : ¬pattern <:+: text) : replaceAll pattern new text = text := by
  have hnone : replaceAll pattern new (text ++ []) = text ++ replaceAll pattern new [] := by
    refine replaceAll_append fun start hstart _ hprefix => h ?_
    rw [List.append_nil] at hprefix
    exact hprefix.isInfix.trans hstart.isInfix
  rw [List.append_nil] at hnone
  exact hnone.trans (List.append_nil text)

/-! ### What does not occur -/

/-- No occurrence of the pattern begins inside the replacement, and none that begins in front of it
reaches into it. -/
structure IsClearOf (new pattern : Text) : Prop where
  start : ∀ start, start <:+ new → start ≠ [] → ∀ rest, ¬pattern <+: start ++ rest
  reach : ∀ tail, tail <:+ pattern → tail ≠ [] → ∀ rest, ¬tail <+: new ++ rest

namespace IsClearOf

variable {other : Text}

theorem prefix_of_prefix_replaceAll (h : IsClearOf new other) (hpattern : pattern ≠ [])
    {tail : Text} (htail : tail <:+ other) (text : Text) :
    tail <+: replaceAll pattern new text → tail <+: text := by
  refine replaceAll_induction (motive := fun text replaced =>
    ∀ tail, tail <:+ other → tail <+: replaced → tail <+: text) hpattern ?_ ?_ ?_ text tail htail
  · exact fun tail _ hprefix => hprefix
  · intro rest _ tail htail hprefix
    by_cases hne : tail = []
    · exact hne ▸ List.nil_prefix
    · exact absurd hprefix (h.reach tail htail hne _)
  · intro c rest _ ih tail htail hprefix
    cases tail with
    | nil => exact List.nil_prefix
    | cons d tail =>
      obtain ⟨rfl, hlater⟩ := List.cons_prefix_cons.mp hprefix
      exact List.cons_prefix_cons.mpr
        ⟨rfl, ih tail ((List.suffix_cons d tail).trans htail) hlater⟩

/-- Replacing one pattern makes no occurrence of another. -/
theorem infix_of_infix_replaceAll (h : IsClearOf new other) (hpattern : pattern ≠ [])
    (text : Text) : other <:+: replaceAll pattern new text → other <:+: text := by
  refine replaceAll_induction (motive := fun text replaced => other <:+: replaced → other <:+: text)
    hpattern id ?_ ?_ text
  · intro rest ih hinfix
    rcases infix_append_iff_suffix.mp hinfix with ⟨start, hstart, hne, hprefix⟩ | hrest
    · exact absurd hprefix (h.start start hstart hne _)
    · exact (ih hrest).trans (List.suffix_append pattern rest).isInfix
  · intro c rest hno ih hinfix
    rcases List.infix_cons_iff.mp hinfix with hprefix | hrest
    · have hkept : other <+: replaceAll pattern new (c :: rest) := by
        rwa [replaceAll, replaceFrom_cons hno]
      exact (h.prefix_of_prefix_replaceAll hpattern (List.suffix_refl other) _ hkept).isInfix
    · exact (ih hrest).trans (List.suffix_cons c rest).isInfix

/-- A replaced pattern does not occur any more. -/
theorem not_infix_replaceAll (h : IsClearOf new pattern) (hpattern : pattern ≠ [])
    (text : Text) : ¬pattern <:+: replaceAll pattern new text := by
  refine replaceAll_induction (motive := fun _ replaced => ¬pattern <:+: replaced)
    hpattern ?_ ?_ ?_ text
  · exact fun hinfix => hpattern (List.infix_nil.mp hinfix)
  · intro rest ih hinfix
    rcases infix_append_iff_suffix.mp hinfix with ⟨start, hstart, hne, hprefix⟩ | hrest
    · exact h.start start hstart hne _ hprefix
    · exact ih hrest
  · intro c rest hno ih hinfix
    rcases List.infix_cons_iff.mp hinfix with hprefix | hrest
    · have hkept : pattern <+: replaceAll pattern new (c :: rest) := by
        rwa [replaceAll, replaceFrom_cons hno]
      exact hno (h.prefix_of_prefix_replaceAll hpattern (List.suffix_refl pattern) _ hkept)
    · exact ih hrest

end IsClearOf

end Signpost.Text
