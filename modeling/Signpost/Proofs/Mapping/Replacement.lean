import Mathlib.Data.List.Infix
import Signpost.Proofs.Mapping.Placeholder
import Signpost.Proofs.Text.Separators

/-!
# Placeholders are replaced place by place

The search for placeholders goes through a text from left to right and never looks back: neither at
what it has left behind nor at what it has put in. Hence a text may be cut anywhere but inside a
placeholder, and the pieces may be replaced on their own. A cut between a dollar sign and an opening
brace is inside one, and so is every cut behind a placeholder that is never closed.

## Main definitions

* `Placeholder.IsSearched`: a text that the search gets through.

## Main results

* `Placeholder.IsSearched.resolve_append`: replacing in two texts one behind the other.
* `Placeholder.exists_isSearched`: where the search ends.
* `Placeholder.resolve_placewise`: how placeholders are replaced.
-/

namespace Signpost.Placeholder

/-- The search for placeholders gets through the text: it meets characters that begin no placeholder
and placeholders that are closed. -/
inductive IsSearched : Text → Prop
  | nil : IsSearched []
  | char {c : Char} {rest : Text} (hc : c = '$' → rest.head? ≠ some '{') (h : IsSearched rest) :
    IsSearched (c :: rest)
  | placeholder {content rest : Text} (hcontent : Text.IsEnclosed content) (h : IsSearched rest) :
    IsSearched ('$' :: '{' :: (content ++ '}' :: rest))

variable {value? : Text → Option Text} {text other content key default : Text}

/-! ### Texts one behind the other -/

/-- **Replacing goes through two texts one behind the other** as through each of them, unless a
placeholder begins where they meet. -/
theorem IsSearched.resolve_append (h : IsSearched text)
    (hseam : ¬(text.getLast? = some '$' ∧ other.head? = some '{')) :
    resolve value? (text ++ other) = resolve value? text ++ resolve value? other := by
  induction h with
  | nil => rw [resolve, List.nil_append, List.nil_append]
  | @char c rest hc hrest ih =>
    have hbegins : c = '$' → (rest ++ other).head? ≠ some '{' := by
      intro hdollar hopen
      cases rest with
      | nil => exact hseam ⟨congrArg some hdollar, hopen⟩
      | cons d rest => exact hc hdollar hopen
    have hlater : ¬(rest.getLast? = some '$' ∧ other.head? = some '{') := by
      rintro ⟨hlast, hopen⟩
      exact hseam ⟨by rw [List.getLast?_cons, hlast]; rfl, hopen⟩
    rw [List.cons_append, resolve_cons hbegins, ih hlater, resolve_cons hc, List.cons_append]
  | @placeholder content rest hcontent hrest ih =>
    have hlater : ¬(rest.getLast? = some '$' ∧ other.head? = some '{') := by
      rintro ⟨hlast, hopen⟩
      refine hseam ⟨?_, hopen⟩
      rw [← List.cons_append, ← List.cons_append, List.getLast?_append, List.getLast?_cons, hlast]
      rfl
    rw [List.cons_append, List.cons_append, List.append_assoc, List.cons_append,
      resolve_placeholder hcontent, ih hlater, resolve_placeholder hcontent, List.append_assoc]

/-- The search gets through a text or ends at a placeholder that is never closed. -/
theorem exists_isSearched (text : Text) :
    IsSearched text ∨
      ∃ front inside, IsSearched front ∧ Text.StaysOpen 1 inside ∧
        text = front ++ '$' :: '{' :: inside := by
  fun_induction pieces text with
  | case1 => exact .inl .nil
  | case2 c => exact .inl (.char (fun _ => by simp) .nil)
  | case3 c d rest hplaceholder content after hclose hlength ih =>
    obtain ⟨rfl, rfl⟩ := hplaceholder
    have hcontent := Text.isEnclosed_of_closeBrace? hclose
    obtain rfl := Text.eq_append_of_closeBrace? hclose
    rcases ih with hafter | ⟨front, inside, hfront, hinside, rfl⟩
    · exact .inl (.placeholder hcontent hafter)
    · refine .inr ⟨_, inside, .placeholder hcontent hfront, hinside, ?_⟩
      simp
  | case4 c d rest hplaceholder hnone =>
    obtain ⟨rfl, rfl⟩ := hplaceholder
    exact .inr ⟨[], rest, .nil, Text.closeBrace?_eq_none_iff.mp hnone, rfl⟩
  | case5 c d rest hliteral ih =>
    have hc : c = '$' → d ≠ '{' := fun hdollar hopen => hliteral ⟨hdollar, hopen⟩
    rcases ih with hrest | ⟨front, inside, hfront, hinside, heq⟩
    · exact .inl (.char (fun hdollar => by simpa using hc hdollar) hrest)
    · refine .inr ⟨c :: front, inside, .char (fun hdollar hopen => ?_) hfront, hinside, ?_⟩
      · obtain ⟨more, rfl⟩ := List.head?_eq_some_iff.mp hopen
        exact hc hdollar (List.cons.inj heq).1
      · rw [heq, List.cons_append]

/-- The search does not get through a placeholder that is never closed. -/
theorem not_isSearched_of_staysOpen (h : Text.StaysOpen 1 text) :
    ¬IsSearched ('$' :: '{' :: text) := by
  intro hsearched
  cases hsearched with
  | char hc hrest => exact hc rfl rfl
  | placeholder hcontent hrest =>
    have hnone := Text.closeBrace?_eq_none_iff.mpr h
    exact absurd ((hcontent.closeBrace?_append _).symm.trans hnone) (by simp)

/-! ### Single placeholders -/

/-- What is found for a key without a default. -/
theorem put_of_notMem (h : ':' ∉ key) :
    (Piece.placeholder key).put value? =
      (value? key.trim).getD (Piece.placeholder key).source := by
  rw [Piece.put, filling?, Text.splitOnce?_of_notMem h]

/-- What is found for a key with a default. -/
theorem put_append (h : ':' ∉ key) (default : Text) :
    (Piece.placeholder (key ++ ':' :: default)).put value? = (value? key.trim).getD default := by
  rw [Piece.put, filling?, Text.splitOnce?_append h]
  rfl

theorem resolve_source (h : Text.IsEnclosed content) :
    resolve value? (Piece.placeholder content).source = (Piece.placeholder content).put value? := by
  rw [Piece.source, List.cons_append, List.cons_append, resolve_placeholder h, resolve,
    List.append_nil]

/-- A text without placeholders stays. -/
theorem resolve_of_not_infix (h : ¬['$', '{'] <:+: text) : resolve value? text = text := by
  induction text with
  | nil => rw [resolve]
  | cons c rest ih =>
    rw [List.infix_cons_iff, not_or] at h
    rw [resolve_cons, ih h.2]
    rintro rfl hopen
    obtain ⟨more, rfl⟩ := List.head?_eq_some_iff.mp hopen
    exact h.1 ⟨more, rfl⟩

/-- **How placeholders are replaced.** Take any source of values. In two texts one behind the other,
placeholders are replaced as in each of them, if the search gets through the first one and no
placeholder begins where they meet. A placeholder on its own gives way to the value of its key,
without the blanks around it, whatever this value holds; if there is none, to what is behind its
first colon; and it stays if it has no colon. A text without placeholders stays. If the search does
not get through a text, it ends at a placeholder that is never closed, which stays together with all
that is behind it. -/
theorem resolve_placewise (value? : Text → Option Text) :
    (∀ text other, IsSearched text → ¬(text.getLast? = some '$' ∧ other.head? = some '{') →
        resolve value? (text ++ other) = resolve value? text ++ resolve value? other) ∧
      (∀ key, ':' ∉ key → Text.IsEnclosed key →
        resolve value? (Piece.placeholder key).source =
          (value? key.trim).getD (Piece.placeholder key).source) ∧
      (∀ key default, ':' ∉ key → Text.IsEnclosed (key ++ ':' :: default) →
        resolve value? (Piece.placeholder (key ++ ':' :: default)).source =
          (value? key.trim).getD default) ∧
      (∀ text, ¬['$', '{'] <:+: text → resolve value? text = text) ∧
      ∀ text, ¬IsSearched text →
        ∃ front inside, IsSearched front ∧ Text.StaysOpen 1 inside ∧
          text = front ++ '$' :: '{' :: inside ∧
          resolve value? text = resolve value? front ++ '$' :: '{' :: inside := by
  refine ⟨fun text other h hseam => h.resolve_append hseam, fun key hkey h => ?_,
    fun key default hkey h => ?_, fun text h => resolve_of_not_infix h, fun text h => ?_⟩
  · rw [resolve_source h, put_of_notMem hkey]
  · rw [resolve_source h, put_append hkey]
  · obtain ⟨front, inside, hfront, hinside, rfl⟩ := (exists_isSearched text).resolve_left h
    refine ⟨front, inside, hfront, hinside, rfl, ?_⟩
    rw [hfront.resolve_append (by simp), resolve_of_staysOpen hinside]

/-- A default in braces is taken as it stands, and so is a value that looks like a placeholder. -/
theorem resolve_placewise_area :
    let value? : Text → Option Text :=
      fun key => if key = "zone".toList then some "${area}\x7b".toList else none
    let zone := " zone ".toList
    let area := "area".toList ++ ':' :: "{zone}".toList
    let front := "/\x7d".toList ++ (Piece.placeholder area).source
    let back := (Piece.placeholder zone).source ++ "/{id}".toList
    IsSearched front ∧ ¬(front.getLast? = some '$' ∧ back.head? = some '{') ∧
      resolve value? (front ++ back) = resolve value? front ++ resolve value? back ∧
      ':' ∉ zone ∧ Text.IsEnclosed zone ∧
      resolve value? (Piece.placeholder zone).source = "${area}\x7b".toList ∧
      ':' ∉ "area".toList ∧ Text.IsEnclosed area ∧
      resolve value? (Piece.placeholder area).source = "{zone}".toList ∧
      ¬['$', '{'] <:+: "/{id}".toList ∧ resolve value? "/{id}".toList = "/{id}".toList ∧
      ¬IsSearched ('$' :: '{' :: zone) ∧
      ∃ front inside, IsSearched front ∧ Text.StaysOpen 1 inside ∧
        '$' :: '{' :: zone = front ++ '$' :: '{' :: inside ∧
        resolve value? ('$' :: '{' :: zone) = resolve value? front ++ '$' :: '{' :: inside := by
  intro value? zone area front back
  obtain ⟨happend, hkey, hdefault, hplain, hunclosed⟩ := resolve_placewise value?
  have hzone : Text.IsEnclosed zone := .of_notMem (by decide) (by decide)
  have harea : Text.IsEnclosed area := by
    have hclose : Text.closeBrace? (area ++ ['}']) = some (area, []) := by decide
    exact Text.isEnclosed_of_closeBrace? hclose
  have hfront : IsSearched front :=
    .char (by decide) (.char (by decide) (.placeholder harea .nil))
  have hseam : ¬(front.getLast? = some '$' ∧ back.head? = some '{') := by
    rintro ⟨hlast, -⟩
    exact absurd hlast (by decide)
  have hnone : ¬['$', '{'] <:+: "/{id}".toList := by decide
  have hopen : ¬IsSearched ('$' :: '{' :: zone) := not_isSearched_of_staysOpen hzone.staysOpen
  refine ⟨hfront, hseam, happend front back hfront hseam, by decide, hzone, ?_, by decide, harea,
    ?_, hnone, hplain _ hnone, hopen, hunclosed _ hopen⟩
  · have hvalue : value? (Text.trim zone) = some "${area}\x7b".toList := by decide
    rw [hkey zone (by decide) hzone, hvalue, Option.getD_some]
  · have hmissing : value? (Text.trim "area".toList) = none := by decide
    rw [hdefault "area".toList "{zone}".toList (by decide) harea, hmissing, Option.getD_none]

end Signpost.Placeholder
