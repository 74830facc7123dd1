import Signpost.Text.Basic

/-!
# Balanced braces

An expression in braces may hold further braces. `Text.closeBrace?` finds the brace that closes an
expression already opened.
-/

namespace Signpost.Text

/-- Splits what follows an opening brace at the brace closing it, when `depth` further braces are
open. -/
def closeBraceAt? : (depth : Nat) → Text → Option (Text × Text)
  | _, [] => none
  | depth, c :: rest =>
    if c = '{' then (closeBraceAt? (depth + 1) rest).map fun sides => (c :: sides.1, sides.2)
    else if c = '}' then
      match depth with
      | 0 => some ([], rest)
      | depth + 1 => (closeBraceAt? depth rest).map fun sides => (c :: sides.1, sides.2)
    else (closeBraceAt? depth rest).map fun sides => (c :: sides.1, sides.2)

/-- Splits what follows an opening brace at the brace closing it. -/
def closeBrace? (text : Text) : Option (Text × Text) :=
  closeBraceAt? 0 text

/-- Content, closing brace and rest make up the text again. -/
theorem eq_append_of_closeBraceAt? {depth : Nat} {text content rest : Text}
    (h : closeBraceAt? depth text = some (content, rest)) : text = content ++ '}' :: rest := by
  induction text generalizing depth content with
  | nil => simp [closeBraceAt?] at h
  | cons c text ih =>
    by_cases hopen : c = '{'
    · simp only [closeBraceAt?, hopen, if_true, Option.map_eq_some_iff, Prod.mk.injEq] at h
      obtain ⟨sides, hs, rfl, rfl⟩ := h
      simp [hopen, ih hs]
    · by_cases hclose : c = '}'
      · cases depth with
        | zero => simp_all [closeBraceAt?]
        | succ depth =>
          simp only [closeBraceAt?, hclose, if_true, Char.reduceEq, if_false,
            Option.map_eq_some_iff] at h
          obtain ⟨⟨inner, after⟩, hs, hsides⟩ := h
          simp only [Prod.mk.injEq] at hsides
          obtain ⟨rfl, rfl⟩ := hsides
          simp [hclose, ih hs]
      · simp only [closeBraceAt?, hopen, hclose, if_false, Option.map_eq_some_iff,
          Prod.mk.injEq] at h
        obtain ⟨sides, hs, rfl, rfl⟩ := h
        simp [ih hs]

theorem eq_append_of_closeBrace? {text content rest : Text}
    (h : closeBrace? text = some (content, rest)) : text = content ++ '}' :: rest :=
  eq_append_of_closeBraceAt? h

/-- The rest behind a closing brace is shorter than the text. -/
theorem length_lt_of_closeBrace? {text content rest : Text}
    (h : closeBrace? text = some (content, rest)) : rest.length < text.length := by
  have := congrArg List.length (eq_append_of_closeBrace? h)
  simp only [List.length_append, List.length_cons] at this
  omega

end Signpost.Text
