import Mathlib.Data.List.DropRight
import Mathlib.Data.List.Induction
import Signpost.Proofs.Text.Separators

/-!
# Trimming

Trimming leaves a text out of the middle of another one, between characters that are not trimmed, so
that a text is its own trimmed form exactly if its ends stay, and trimming once is enough. White
space and quotes are trimmed alike.

## Main results

* `Text.trim_eq_self_iff`: when there is nothing to trim.
* `Text.trim_trim`, `Text.trimOf_trimOf`: trimming once is enough.
* `Text.trimOf_trim_eq_self_iff`: when neither white space nor a character is to be trimmed.
-/

namespace Signpost.Text

variable {p : Char → Bool} {text : Text}

/-! ### Both ends -/

theorem eq_false_of_head?_dropEnds {c : Char}
    (h : (dropEndWhile p (text.dropWhile p)).head? = some c) : p c = false := by
  obtain ⟨rest, hrest⟩ := List.head?_eq_some_iff.mp h
  obtain ⟨tail, htail⟩ := dropEndWhile_prefix p (text.dropWhile p)
  have hhead := List.head?_dropWhile_not p text
  rwa [← htail, hrest, List.cons_append, List.head?_cons] at hhead

/-- Nothing is left out exactly if both ends stay. -/
theorem dropEnds_eq_self_iff :
    dropEndWhile p (text.dropWhile p) = text ↔
      (∀ c ∈ text.head?, p c = false) ∧ ∀ c ∈ text.getLast?, p c = false := by
  constructor
  · intro h
    refine ⟨fun c hc => ?_, fun c hc => ?_⟩
    · rw [← h] at hc
      exact eq_false_of_head?_dropEnds hc
    · rw [← h] at hc
      exact eq_false_of_getLast?_dropEndWhile hc
  · rintro ⟨hhead, hlast⟩
    have hstart : text.dropWhile p = text := by
      cases text with
      | nil => rfl
      | cons c rest => rw [List.dropWhile_cons_of_neg (by simp [hhead c rfl])]
    rw [hstart, dropEndWhile_eq_self_of_getLast? hlast]

theorem dropEnds_dropEnds (p : Char → Bool) (text : Text) :
    dropEndWhile p ((dropEndWhile p (text.dropWhile p)).dropWhile p) =
      dropEndWhile p (text.dropWhile p) :=
  dropEnds_eq_self_iff.mpr
    ⟨fun _ => eq_false_of_head?_dropEnds, fun _ => eq_false_of_getLast?_dropEndWhile⟩

theorem dropEnds_sublist (p : Char → Bool) (text : Text) :
    (dropEndWhile p (text.dropWhile p)).Sublist text := by
  have hend := dropEndWhile_prefix p (text.dropWhile p)
  exact hend.sublist.trans (List.dropWhile_sublist p)

/-! ### White space and single characters -/

/-- There is nothing to trim exactly if neither end is blank. -/
theorem trim_eq_self_iff :
    trim text = text ↔
      (∀ c ∈ text.head?, Character.isBlank c = false) ∧
        ∀ c ∈ text.getLast?, Character.isBlank c = false :=
  dropEnds_eq_self_iff

/-- A text whose ends are not blank has nothing to trim. -/
theorem trim_eq_self_of_ends {c d : Char} (hfirst : text.head? = some c)
    (hc : Character.isBlank c = false) (hlast : text.getLast? = some d)
    (hd : Character.isBlank d = false) : text.trim = text := by
  rw [trim_eq_self_iff, hfirst, hlast]
  exact ⟨fun e he => Option.mem_some_iff.mp he ▸ hc, fun e he => Option.mem_some_iff.mp he ▸ hd⟩

theorem trim_trim (text : Text) : text.trim.trim = text.trim :=
  dropEnds_dropEnds Character.isBlank text

theorem trimOf_trimOf (c : Char) (text : Text) : (text.trimOf c).trimOf c = text.trimOf c :=
  dropEnds_dropEnds (· = c) text

theorem trim_sublist (text : Text) : text.trim.Sublist text :=
  dropEnds_sublist Character.isBlank text

theorem trimOf_sublist (c : Char) (text : Text) : (text.trimOf c).Sublist text :=
  dropEnds_sublist (· = c) text

theorem trimOf_eq_self_of_notMem {c : Char} (h : c ∉ text) : text.trimOf c = text :=
  dropEnds_eq_self_iff.mpr
    ⟨fun _ hd => decide_eq_false (by rintro rfl; exact h (List.mem_of_mem_head? hd)),
      fun _ hd => decide_eq_false (by rintro rfl; exact h (List.mem_of_mem_getLast? hd))⟩

theorem trim_concat_of_isBlank {c : Char} (h : Character.isBlank c = true) (text : Text) :
    trim (text ++ [c]) = text.trim := by
  rw [trim, trim, trimStart, List.dropWhile_append]
  split
  · rename_i hempty
    rw [List.dropWhile_cons_of_pos h, trimStart, List.isEmpty_iff.mp hempty, List.dropWhile_nil]
  · exact dropEndWhile_concat h _

theorem trim_trimEnd (text : Text) : text.trimEnd.trim = text.trim := by
  induction text using List.reverseRecOn with
  | nil => rfl
  | append_singleton text c ih =>
    by_cases h : Character.isBlank c = true
    · rw [trimEnd, dropEndWhile_concat h, trim_concat_of_isBlank h]
      exact ih
    · rw [trimEnd, dropEndWhile_append_cons (by simpa using h)]
      rfl

theorem trim_trimStart (text : Text) : text.trimStart.trim = text.trim := by
  rw [trim, trim, trimStart, trimStart, List.dropWhile_idempotent]

theorem trimStart_append_cons {c : Char} (h : Character.isBlank c = false) (left right : Text) :
    trimStart (left ++ c :: right) = left.trimStart ++ c :: right := by
  rw [trimStart, trimStart, List.dropWhile_append]
  split
  · rename_i hempty
    rw [List.isEmpty_iff.mp hempty, List.dropWhile_cons_of_neg (by simp [h]), List.nil_append]
  · rfl

/-- On both sides of a character that stays only one end is trimmed. -/
theorem trim_append_cons {c : Char} (h : Character.isBlank c = false) (left right : Text) :
    trim (left ++ c :: right) = left.trimStart ++ c :: right.trimEnd := by
  rw [trim, trimStart_append_cons h, trimEnd, dropEndWhile_append_cons h, trimEnd]

theorem trimStart_eq_self (h : text.trim = text) : text.trimStart = text := by
  have hprefix := dropEndWhile_prefix Character.isBlank text.trimStart
  have hlength : text.trim.length ≤ text.trimStart.length := hprefix.length_le
  rw [h] at hlength
  exact (List.dropWhile_sublist _).eq_of_length_le hlength

theorem trimEnd_eq_self (h : text.trim = text) : text.trimEnd = text :=
  dropEndWhile_eq_self_of_getLast? (trim_eq_self_iff.mp h).2

/-! ### Parts -/

/-- The white space behind a text stands behind its last part. -/
theorem map_trim_splitOn_trimEnd {sep : Char} (h : Character.isBlank sep = false) (text : Text) :
    (splitOn sep text.trimEnd).map trim = (splitOn sep text).map trim := by
  induction hlength : text.length using Nat.strong_induction_on generalizing text with
  | _ length ih =>
    subst hlength
    by_cases hmem : sep ∈ text
    · obtain ⟨left, right, hleft, rfl⟩ := exists_append_of_mem hmem
      have hright := ih right.length (by simp; omega) right rfl
      rw [trimEnd, dropEndWhile_append_cons h, splitOn_append hleft, splitOn_append hleft,
        List.map_cons, List.map_cons]
      exact congrArg _ hright
    · have hend : sep ∉ text.trimEnd := fun hsep => hmem (mem_of_mem_dropEndWhile hsep)
      rw [splitOn_of_notMem hmem, splitOn_of_notMem hend, List.map_singleton, List.map_singleton,
        trim_trimEnd]

/-- The white space in front of a text stands in front of its first part. -/
theorem map_trim_splitOn_trimStart {sep : Char} (h : Character.isBlank sep = false) (text : Text) :
    (splitOn sep text.trimStart).map trim = (splitOn sep text).map trim := by
  have hsub (text : Text) (hmem : sep ∉ text) : sep ∉ text.trimStart := fun hsep =>
    hmem ((List.dropWhile_sublist _).subset hsep)
  by_cases hmem : sep ∈ text
  · obtain ⟨left, right, hleft, rfl⟩ := exists_append_of_mem hmem
    rw [trimStart_append_cons h, splitOn_append (hsub left hleft), splitOn_append hleft,
      List.map_cons, List.map_cons, trim_trimStart]
  · rw [splitOn_of_notMem hmem, splitOn_of_notMem (hsub text hmem), List.map_singleton,
      List.map_singleton, trim_trimStart]

/-- The white space around a text stands around its parts. -/
theorem map_trim_splitOn_trim {sep : Char} (h : Character.isBlank sep = false) (text : Text) :
    (splitOn sep text.trim).map trim = (splitOn sep text).map trim := by
  rw [trim, map_trim_splitOn_trimEnd h, map_trim_splitOn_trimStart h]

/-- White space and a character at the ends are trimmed to nothing less exactly if there are neither
of them. -/
theorem trimOf_trim_eq_self_iff {c : Char} :
    text.trim.trimOf c = text ↔ text.trim = text ∧ text.trimOf c = text := by
  constructor
  · intro h
    have hlength : (text.trim.trimOf c).length ≤ text.trim.length :=
      (trimOf_sublist c text.trim).length_le
    rw [h] at hlength
    have htrim : text.trim = text := (trim_sublist text).eq_of_length_le hlength
    rw [htrim] at h
    exact ⟨htrim, h⟩
  · rintro ⟨htrim, hquotes⟩
    rw [htrim, hquotes]

end Signpost.Text
