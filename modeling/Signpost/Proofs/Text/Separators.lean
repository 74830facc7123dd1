import Mathlib.Data.List.TakeWhile
import Signpost.Text.Basic

/-!
# Separators

Cutting a text at a separator undoes joining, as long as no part holds the separator. What trimming
and stripping leave consists of characters that the text had before.

## Main results

* `Text.splitOn_join`, `Text.join_splitOn`: cutting and joining are inverse to each other.
* `Text.splitOnce?_append`: the two sides of a separator that the left side does not hold.
-/

namespace Signpost.Text

variable {sep : Char}

/-! ### Reading up to a separator -/

theorem takeWhile_ne_append {left : Text} (h : sep ∉ left) (right : Text) :
    (left ++ sep :: right).takeWhile (· ≠ sep) = left := by
  induction left with
  | nil => simp
  | cons c left ih =>
    rw [List.mem_cons, not_or] at h
    rw [List.cons_append, List.takeWhile_cons, if_pos (by simpa using Ne.symm h.1), ih h.2]

theorem dropWhile_ne_append {left : Text} (h : sep ∉ left) (right : Text) :
    (left ++ sep :: right).dropWhile (· ≠ sep) = sep :: right := by
  induction left with
  | nil => simp
  | cons c left ih =>
    rw [List.mem_cons, not_or] at h
    rw [List.cons_append, List.dropWhile_cons, if_pos (by simpa using Ne.symm h.1), ih h.2]

theorem takeWhile_ne_of_notMem {text : Text} (h : sep ∉ text) :
    text.takeWhile (· ≠ sep) = text := by
  induction text with
  | nil => rfl
  | cons c text ih =>
    rw [List.mem_cons, not_or] at h
    rw [List.takeWhile_cons, if_pos (by simpa using Ne.symm h.1), ih h.2]

theorem dropWhile_ne_of_notMem {text : Text} (h : sep ∉ text) :
    text.dropWhile (· ≠ sep) = [] := by
  induction text with
  | nil => rfl
  | cons c text ih =>
    rw [List.mem_cons, not_or] at h
    rw [List.dropWhile_cons, if_pos (by simpa using Ne.symm h.1), ih h.2]

/-- A text with a separator is split by the first one. -/
theorem exists_append_of_mem {text : Text} (h : sep ∈ text) :
    ∃ left right, sep ∉ left ∧ text = left ++ sep :: right := by
  induction text with
  | nil => exact absurd h List.not_mem_nil
  | cons c text ih =>
    by_cases hc : sep = c
    · exact ⟨[], text, List.not_mem_nil, by rw [hc, List.nil_append]⟩
    · obtain ⟨left, right, hleft, rfl⟩ := ih ((List.mem_cons.mp h).resolve_left hc)
      exact ⟨c :: left, right, List.not_mem_cons_of_ne_of_not_mem hc hleft, rfl⟩

/-! ### Cutting and joining -/

theorem splitOn_ne_nil : (text : Text) → splitOn sep text ≠ []
  | [] => List.cons_ne_nil _ _
  | c :: rest => by
    rw [splitOn]
    split
    · exact List.cons_ne_nil _ _
    · split
      · exact List.cons_ne_nil _ _
      · exact List.cons_ne_nil _ _

/-- The first part of a text is what stands in front of the first separator. -/
theorem head?_splitOn (text : Text) :
    (splitOn sep text).head? = some (text.takeWhile (· ≠ sep)) := by
  induction text with
  | nil => rfl
  | cons c rest ih =>
    rw [splitOn]
    split
    · rename_i hc
      simp [hc]
    · rename_i hc
      rw [List.takeWhile_cons_of_pos (by simpa using hc)]
      split
      · rename_i hnil
        exact absurd hnil (splitOn_ne_nil rest)
      · rename_i part parts hparts
        rw [hparts, List.head?_cons, Option.some_inj] at ih
        rw [List.head?_cons, ih]

theorem splitOn_of_notMem {text : Text} (h : sep ∉ text) : splitOn sep text = [text] := by
  induction text with
  | nil => rfl
  | cons c rest ih =>
    rw [List.mem_cons, not_or] at h
    rw [splitOn, if_neg (Ne.symm h.1), ih h.2]

/-- A text is cut on both sides of a separator. -/
theorem splitOn_append_cons (text rest : Text) :
    splitOn sep (text ++ sep :: rest) = splitOn sep text ++ splitOn sep rest := by
  induction text with
  | nil => simp [splitOn]
  | cons c text ih =>
    rw [List.cons_append, splitOn, splitOn, ih]
    by_cases hc : c = sep
    · rw [if_pos hc, if_pos hc, List.cons_append]
    · rw [if_neg hc, if_neg hc]
      cases hparts : splitOn sep text with
      | nil => exact absurd hparts (splitOn_ne_nil text)
      | cons part parts => rfl

theorem splitOn_append {part : Text} (h : sep ∉ part) (rest : Text) :
    splitOn sep (part ++ sep :: rest) = part :: splitOn sep rest := by
  rw [splitOn_append_cons, splitOn_of_notMem h, List.singleton_append]

/-- The parts between slashes of two texts with a slash between them. -/
theorem segments_append (path other : Text) :
    segments (path ++ '/' :: other) = segments path ++ segments other := by
  rw [segments, splitOn_append_cons, List.filter_append]
  rfl

theorem ne_nil_of_mem_segments {path segment : Text} (h : segment ∈ segments path) :
    segment ≠ [] :=
  of_decide_eq_true (List.mem_filter.mp h).2

/-- Cutting a joined text gives its parts back. -/
theorem splitOn_join : {parts : List Text} → parts ≠ [] → (∀ part ∈ parts, sep ∉ part) →
    splitOn sep (join [sep] parts) = parts
  | [], hne, _ => absurd rfl hne
  | [part], _, h => splitOn_of_notMem (h part List.mem_cons_self)
  | part :: next :: parts, _, h => by
    have hrest := splitOn_join (List.cons_ne_nil next parts) fun other hother =>
      h other (List.mem_cons_of_mem part hother)
    rw [join, List.append_assoc, List.singleton_append,
      splitOn_append (h part List.mem_cons_self), hrest]
    exact List.cons_ne_nil next parts

theorem notMem_of_mem_splitOn : {text part : Text} → part ∈ splitOn sep text → sep ∉ part
  | [], part, h => by
    obtain rfl := List.mem_singleton.mp h
    exact List.not_mem_nil
  | c :: rest, part, h => by
    rw [splitOn] at h
    split at h
    · rcases List.mem_cons.mp h with rfl | hrest
      · exact List.not_mem_nil
      · exact notMem_of_mem_splitOn hrest
    · rename_i hc
      split at h
      · obtain rfl := List.mem_singleton.mp h
        simpa using Ne.symm hc
      · rename_i first parts hparts
        rcases List.mem_cons.mp h with rfl | hrest
        · have hfirst := notMem_of_mem_splitOn (hparts ▸ List.mem_cons_self)
          exact List.not_mem_cons_of_ne_of_not_mem (Ne.symm hc) hfirst
        · exact notMem_of_mem_splitOn (hparts ▸ List.mem_cons_of_mem first hrest)

theorem mem_of_mem_splitOn : {text part : Text} → part ∈ splitOn sep text → ∀ c ∈ part, c ∈ text
  | [], part, h, c, hc => by
    obtain rfl := List.mem_singleton.mp h
    exact hc
  | first :: rest, part, h, c, hc => by
    rw [splitOn] at h
    split at h
    · rcases List.mem_cons.mp h with rfl | h
      · exact absurd hc List.not_mem_nil
      · exact List.mem_cons_of_mem first (mem_of_mem_splitOn h c hc)
    · split at h
      · rename_i hnil
        exact absurd hnil (splitOn_ne_nil rest)
      · rename_i next parts hparts
        rcases List.mem_cons.mp h with rfl | h
        · refine (List.mem_cons.mp hc).elim (fun hfirst => hfirst ▸ List.mem_cons_self) fun hc => ?_
          exact List.mem_cons_of_mem first
            (mem_of_mem_splitOn (hparts ▸ List.mem_cons_self) c hc)
        · exact List.mem_cons_of_mem first
            (mem_of_mem_splitOn (hparts ▸ List.mem_cons_of_mem next h) c hc)

theorem notMem_of_mem_segments {path segment : Text} (h : segment ∈ segments path) :
    '/' ∉ segment :=
  notMem_of_mem_splitOn (List.mem_filter.mp h).1

/-- A text is its only segment if it is not empty and holds no slash. -/
theorem segments_eq_singleton_iff {text : Text} :
    segments text = [text] ↔ text ≠ [] ∧ '/' ∉ text := by
  constructor
  · intro h
    have hmem : text ∈ segments text := h ▸ List.mem_cons_self
    exact ⟨ne_nil_of_mem_segments hmem, notMem_of_mem_segments hmem⟩
  · rintro ⟨hne, hslash⟩
    rw [segments, splitOn_of_notMem hslash, List.filter_eq_self, List.forall_mem_singleton]
    exact decide_eq_true hne

/-- Joining the parts of a text gives the text back. -/
theorem join_splitOn : (text : Text) → join [sep] (splitOn sep text) = text
  | [] => rfl
  | c :: rest => by
    have hrest := join_splitOn rest
    rw [splitOn]
    split
    · rename_i hc
      rw [join, hrest, hc]
      · rfl
      · exact splitOn_ne_nil rest
    · split
      · rename_i hnil
        exact absurd hnil (splitOn_ne_nil rest)
      · rename_i first parts hparts
        rw [hparts] at hrest
        rw [← hrest]
        cases parts with
        | nil => rfl
        | cons next parts => rfl

theorem splitOnce?_append {left : Text} (h : sep ∉ left) (right : Text) :
    splitOnce? sep (left ++ sep :: right) = some (left, right) := by
  induction left with
  | nil => simp [splitOnce?]
  | cons c left ih =>
    rw [List.mem_cons, not_or] at h
    rw [List.cons_append, splitOnce?, if_neg (Ne.symm h.1), ih h.2, Option.map_some]

theorem splitOnce?_of_notMem {text : Text} (h : sep ∉ text) : splitOnce? sep text = none := by
  induction text with
  | nil => rfl
  | cons c rest ih =>
    rw [List.mem_cons, not_or] at h
    rw [splitOnce?, if_neg (Ne.symm h.1), ih h.2, Option.map_none]

/-- The first separator stands between its two sides. -/
theorem splitOnce?_eq_some_iff {text left right : Text} :
    splitOnce? sep text = some (left, right) ↔ sep ∉ left ∧ text = left ++ sep :: right := by
  constructor
  · intro h
    by_cases hmem : sep ∈ text
    · obtain ⟨front, rest, hfront, rfl⟩ := exists_append_of_mem hmem
      rw [splitOnce?_append hfront, Option.some.injEq, Prod.mk.injEq] at h
      obtain ⟨rfl, rfl⟩ := h
      exact ⟨hfront, rfl⟩
    · rw [splitOnce?_of_notMem hmem] at h
      exact absurd h (Option.some_ne_none _).symm
  · rintro ⟨hleft, rfl⟩
    exact splitOnce?_append hleft right

theorem join_cons (between first : Text) : (rest : List Text) →
    join between (first :: rest) = first ++ rest.flatMap fun part => between ++ part
  | [] => by simp [join]
  | next :: rest => by
    rw [join, join_cons between next rest, List.flatMap_cons]
    · simp
    · exact List.cons_ne_nil _ _

/-- Every character of a joined text stands in a part or in the separator. -/
theorem mem_join {between : Text} {c : Char} : {parts : List Text} → c ∈ join between parts →
    c ∈ between ∨ ∃ part ∈ parts, c ∈ part
  | [], h => absurd h List.not_mem_nil
  | [part], h => .inr ⟨part, List.mem_cons_self, h⟩
  | part :: next :: parts, h => by
    rw [join, List.mem_append, List.mem_append] at h
    · rcases h with (hpart | hbetween) | hrest
      · exact .inr ⟨part, List.mem_cons_self, hpart⟩
      · exact .inl hbetween
      · rcases mem_join hrest with hbetween | ⟨other, hother, hc⟩
        · exact .inl hbetween
        · exact .inr ⟨other, List.mem_cons_of_mem part hother, hc⟩
    · exact List.cons_ne_nil next parts

/-! ### Ends -/

theorem mem_of_mem_dropEndWhile {p : Char → Bool} {text : Text} {c : Char}
    (h : c ∈ dropEndWhile p text) : c ∈ text := by
  rw [dropEndWhile, List.mem_reverse] at h
  exact List.mem_reverse.mp ((List.dropWhile_sublist p).subset h)

theorem dropEndWhile_prefix (p : Char → Bool) (text : Text) : dropEndWhile p text <+: text := by
  have hsuffix : text.reverse.dropWhile p <:+ text.reverse := List.dropWhile_suffix p
  have hprefix := List.reverse_prefix.mpr hsuffix
  rwa [List.reverse_reverse] at hprefix

theorem eq_false_of_getLast?_dropEndWhile {p : Char → Bool} {text : Text} {c : Char}
    (h : (dropEndWhile p text).getLast? = some c) : p c = false := by
  rw [dropEndWhile, List.getLast?_reverse] at h
  have hhead := List.head?_dropWhile_not p text.reverse
  rwa [h] at hhead

theorem mem_of_mem_trim {text : Text} {c : Char} (h : c ∈ trim text) : c ∈ text :=
  (List.dropWhile_sublist _).subset (mem_of_mem_dropEndWhile h)

theorem dropEndWhile_eq_self {p : Char → Bool} {text : Text} (h : ∀ c ∈ text, p c = false) :
    dropEndWhile p text = text := by
  have hreverse : ∀ c ∈ text.reverse, p c = false := fun c hc => h c (List.mem_reverse.mp hc)
  rw [dropEndWhile, List.dropWhile_eq_self_iff.mpr, List.reverse_reverse]
  intro hlength
  simpa using hreverse _ (List.getElem_mem hlength)

theorem dropEndWhile_concat {p : Char → Bool} {c : Char} (h : p c = true) (text : Text) :
    dropEndWhile p (text ++ [c]) = dropEndWhile p text := by
  rw [dropEndWhile, List.reverse_append, List.reverse_singleton, List.singleton_append,
    List.dropWhile_cons_of_pos h, dropEndWhile]

/-- Nothing is left out in front of a character that stays. -/
theorem dropEndWhile_append_cons {p : Char → Bool} {c : Char} (h : p c = false)
    (front rest : Text) :
    dropEndWhile p (front ++ c :: rest) = front ++ c :: dropEndWhile p rest := by
  have hc : ¬p c = true := by simp [h]
  rw [dropEndWhile, List.reverse_append, List.reverse_cons, List.append_assoc,
    List.dropWhile_append, List.singleton_append, List.dropWhile_cons_of_neg hc, dropEndWhile]
  split
  · rename_i hempty
    rw [List.isEmpty_iff.mp hempty]
    simp
  · simp

/-- Nothing is left out of a non-empty end of characters that stay. -/
theorem dropEndWhile_append_of_ne_nil {p : Char → Bool} {rest : Text} (hne : rest ≠ [])
    (h : ∀ c ∈ rest, p c = false) (front : Text) :
    dropEndWhile p (front ++ rest) = front ++ rest := by
  obtain ⟨c, rest, rfl⟩ := List.exists_cons_of_ne_nil hne
  rw [List.forall_mem_cons] at h
  rw [dropEndWhile_append_cons h.1, dropEndWhile_eq_self h.2]

/-- Nothing is left out if the last character stays. -/
theorem dropEndWhile_eq_self_of_getLast? {p : Char → Bool} {text : Text}
    (h : ∀ c ∈ text.getLast?, p c = false) : dropEndWhile p text = text := by
  cases hlast : text.getLast? with
  | none => rw [List.getLast?_eq_none_iff.mp hlast, dropEndWhile, List.reverse_nil,
      List.dropWhile_nil, List.reverse_nil]
  | some c =>
    obtain ⟨front, rfl⟩ := List.getLast?_eq_some_iff.mp hlast
    exact dropEndWhile_append_cons (h c hlast) front []

theorem trim_eq_self {text : Text} (h : ∀ c ∈ text, Character.isBlank c = false) :
    trim text = text := by
  rw [trim, trimStart, List.dropWhile_eq_self_iff.mpr]
  · exact dropEndWhile_eq_self h
  · intro hlength
    simpa using h _ (List.getElem_mem hlength)

/-- A text that starts with `lead` is `lead` and what follows it. -/
theorem stripLead?_eq_some_iff {lead text rest : Text} :
    stripLead? lead text = some rest ↔ text = lead ++ rest := by
  induction lead generalizing text with
  | nil => rw [stripLead?, Option.some_inj, List.nil_append]
  | cons l lead ih =>
    cases text with
    | nil => simp [stripLead?]
    | cons c text =>
      by_cases hc : l = c
      · rw [stripLead?, if_pos hc, ih, hc, List.cons_append, List.cons_inj_right]
      · simp [stripLead?, hc, Ne.symm hc]

/-- A text that ends with `tail` is what stands in front of it and `tail`. -/
theorem stripTail?_eq_some_iff {tail text front : Text} :
    stripTail? tail text = some front ↔ text = front ++ tail := by
  rw [stripTail?, Option.map_eq_some_iff]
  constructor
  · rintro ⟨rest, hrest, rfl⟩
    rw [stripLead?_eq_some_iff] at hrest
    rw [← List.reverse_inj, hrest, List.reverse_append, List.reverse_reverse]
  · rintro rfl
    refine ⟨front.reverse, ?_, List.reverse_reverse front⟩
    rw [stripLead?_eq_some_iff, List.reverse_append]

theorem stripTail?_of_notMem {text : Text} {c : Char} (h : c ∉ text) :
    stripTail? [c] text = none := by
  rw [Option.eq_none_iff_forall_ne_some]
  intro front hfront
  rw [stripTail?_eq_some_iff] at hfront
  exact h (hfront ▸ List.mem_append_right front List.mem_cons_self)

end Signpost.Text
