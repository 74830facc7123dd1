import Mathlib.Data.List.Basic
import Signpost.Uri.Base
import Signpost.Proofs.Outcome
import Signpost.Proofs.Text.Separators

/-!
# Links against a base

A base that was read from a text holds neither a question mark nor a number sign, since both end
what it is read from. Resolving a path puts a lead in front of it that depends on the first
character of the path alone.

## Main definitions

* `Uri.EndsPath`: a question mark or a number sign.
* `BaseUri.IsRead`: the empty base, or one that was read from a text.
* `BaseUri.lead`: what stands in front of a resolved path.

## Main results

* `BaseUri.IsRead.notMem_display`: the characters that end a path occur in no base.
* `BaseUri.resolve_eq_lead_append`: a resolved path behind its lead.
* `BaseUri.lead_query`, `BaseUri.lead_of_ordinary`: how the lead depends on the first character.
-/

namespace Signpost

/-! ### Characters that end a path -/

namespace Uri

variable {c : Char}

/-- The character ends a path, and an authority. -/
def EndsPath (c : Char) : Prop :=
  c = '?' ∨ c = '#'

theorem notMem_takeWhile {p : Char → Bool} (h : p c = false) (text : Text) :
    c ∉ text.takeWhile p := fun hc =>
  absurd (List.all_eq_true.mp List.all_takeWhile c hc) (by simp [h])

theorem eq_takeWhile_of_parsePath {text path : Text} {query : Option Text}
    (h : parsePath text = .ok (path, query)) :
    path = text.takeWhile fun d => !(d = '?' || d = '#') := by
  unfold parsePath at h
  simp only at h
  split at h
  · simp at h
  · split at h
    · split at h
      · simp only [Except.pure_eq_ok_iff, Prod.mk.injEq] at h
        exact h.1.symm
      · simp at h
    · simp only [Except.pure_eq_ok_iff, Prod.mk.injEq] at h
      exact h.1.symm

theorem eq_takeWhile_of_splitAuthority {text authority rest : Text}
    (h : splitAuthority text = .ok (authority, rest)) :
    authority = text.takeWhile (fun d => !(d = '/' || d = '?' || d = '#')) ∧
      rest = text.dropWhile fun d => !(d = '/' || d = '?' || d = '#') := by
  unfold splitAuthority at h
  simp only at h
  split at h
  · simp at h
  · obtain ⟨state, -, h⟩ := Except.bind_eq_ok_iff.mp h
    split at h
    · obtain ⟨_, hthrow, -⟩ := Except.bind_eq_ok_iff.mp h
      exact absurd hthrow Except.throw_ne_ok
    · simp only [Except.pure_eq_ok_iff, Prod.mk.injEq] at h
      exact ⟨h.1.symm, h.2.symm⟩

theorem parseFull_cases {text : Text} {uri : Uri} (h : parseFull text = .ok uri) :
    (∃ authority, splitAuthority text = .ok (authority, []) ∧
        uri = ⟨none, some authority, [], none⟩) ∨
      ∃ scheme authority rest tail path query,
        splitScheme? text = .ok (some (scheme, rest)) ∧
        splitAuthority rest = .ok (authority, tail) ∧ parsePath tail = .ok (path, query) ∧
        uri = ⟨some scheme, some authority, if path = [] then ['/'] else path, query⟩ := by
  unfold parseFull at h
  obtain ⟨scheme?, hscheme, h⟩ := Except.bind_eq_ok_iff.mp h
  split at h
  · obtain ⟨⟨authority, rest⟩, hauthority, h⟩ := Except.bind_eq_ok_iff.mp h
    simp only at h
    split at h
    · rename_i hrest
      exact .inl ⟨authority, hrest ▸ hauthority, (Except.pure_eq_ok_iff.mp h).symm⟩
    · simp at h
  · rename_i scheme rest
    obtain ⟨⟨authority, tail⟩, hauthority, h⟩ := Except.bind_eq_ok_iff.mp h
    simp only at h
    split at h
    · simp at h
    · obtain ⟨⟨path, query⟩, hpath, h⟩ := Except.bind_eq_ok_iff.mp h
      exact .inr ⟨scheme, authority, rest, tail, path, query, hscheme, hauthority, hpath,
        (Except.pure_eq_ok_iff.mp h).symm⟩

/-- A URI is an asterisk, a path, an authority, or a scheme with an authority and a path. -/
theorem parse_cases {text : Text} {uri : Uri} (h : parse text = .ok uri) :
    uri = ⟨none, none, ['*'], none⟩ ∨
      (∃ path query, parsePath text = .ok (path, query) ∧ uri = ⟨none, none, path, query⟩) ∨
      (∃ authority, splitAuthority text = .ok (authority, []) ∧
        uri = ⟨none, some authority, [], none⟩) ∨
      ∃ scheme authority rest tail path query,
        splitScheme? text = .ok (some (scheme, rest)) ∧
        splitAuthority rest = .ok (authority, tail) ∧ parsePath tail = .ok (path, query) ∧
        uri = ⟨some scheme, some authority, if path = [] then ['/'] else path, query⟩ := by
  unfold parse at h
  simp only at h
  split at h
  · simp at h
  · split at h
    · simp at h
    · exact .inl (Except.pure_eq_ok_iff.mp h).symm
    · obtain ⟨⟨path, query⟩, hpath, h⟩ := Except.bind_eq_ok_iff.mp h
      exact .inr (.inl ⟨path, query, hpath, (Except.pure_eq_ok_iff.mp h).symm⟩)
    · obtain ⟨⟨authority, rest⟩, hauthority, h⟩ := Except.bind_eq_ok_iff.mp h
      split at h
      · rename_i hrest
        obtain rfl : rest = [] := hrest
        exact .inr (.inr (.inl ⟨authority, hauthority, (Except.pure_eq_ok_iff.mp h).symm⟩))
      · simp at h
    · exact .inr (.inr (parseFull_cases h))

namespace EndsPath

theorem notMem_of_parsePath (hc : EndsPath c) {text path : Text} {query : Option Text}
    (h : parsePath text = .ok (path, query)) : c ∉ path := by
  rw [eq_takeWhile_of_parsePath h]
  exact notMem_takeWhile (by rcases hc with rfl | rfl <;> rfl) text

theorem notMem_of_splitAuthority (hc : EndsPath c) {text authority rest : Text}
    (h : splitAuthority text = .ok (authority, rest)) : c ∉ authority := by
  rw [(eq_takeWhile_of_splitAuthority h).1]
  exact notMem_takeWhile (by rcases hc with rfl | rfl <;> rfl) text

theorem notMem_of_splitScheme? (hc : EndsPath c) {text scheme rest : Text}
    (h : splitScheme? text = .ok (some (scheme, rest))) : c ∉ scheme := by
  have hscheme : isSchemeChar c = false := by rcases hc with rfl | rfl <;> rfl
  unfold splitScheme? at h
  simp only at h
  split at h
  · obtain ⟨rfl, -⟩ := by simpa using h
    rcases hc with rfl | rfl <;> decide
  · split at h
    · obtain ⟨rfl, -⟩ := by simpa using h
      rcases hc with rfl | rfl <;> decide
    · split at h
      · simp at h
      · split at h
        · split at h
          · simp at h
          · obtain ⟨rfl, -⟩ := by simpa using h
            exact notMem_takeWhile hscheme text
        · simp at h

/-- Neither scheme nor authority nor path of a URI holds a character that ends a path. -/
theorem notMem_of_parse (hc : EndsPath c) {text : Text} {uri : Uri} (h : parse text = .ok uri) :
    (∀ scheme ∈ uri.scheme, c ∉ scheme) ∧ (∀ authority ∈ uri.authority, c ∉ authority) ∧
      c ∉ uri.path := by
  rcases parse_cases h with rfl | ⟨path, query, hpath, rfl⟩ | ⟨authority, hauthority, rfl⟩ |
    ⟨scheme, authority, rest, tail, path, query, hscheme, hauthority, hpath, rfl⟩
  · refine ⟨by simp, by simp, ?_⟩
    rcases hc with rfl | rfl <;> decide
  · exact ⟨by simp, by simp, hc.notMem_of_parsePath hpath⟩
  · refine ⟨by simp, ?_, by simp⟩
    simpa using hc.notMem_of_splitAuthority hauthority
  · refine ⟨by simpa using hc.notMem_of_splitScheme? hscheme,
      by simpa using hc.notMem_of_splitAuthority hauthority, ?_⟩
    have hrooted : c ∉ path := hc.notMem_of_parsePath hpath
    change c ∉ if path = [] then ['/'] else path
    split
    · rcases hc with rfl | rfl <;> decide
    · exact hrooted

end EndsPath

end Uri

/-! ### Bases -/

namespace BaseUri

/-- The base is the empty one or was read from a text. -/
def IsRead (base : BaseUri) : Prop :=
  base = root ∨ ∃ text, parse text = .ok base

/-- A base that is read has the scheme and the authority of a URI, and its path without the slashes
at the end. -/
theorem exists_uri_of_parse {base : BaseUri} {text : Text} (h : parse text = .ok base) :
    ∃ uri, Uri.parse text = .ok uri ∧ base.scheme = uri.scheme ∧ base.authority = uri.authority ∧
      base.contextPath = Text.dropEndWhile (· = '/') uri.path := by
  unfold parse at h
  simp only at h
  split at h
  · simp at h
  · rename_i uri huri
    split at h
    · rename_i scheme authority hscheme hauthority
      obtain rfl := Except.ok.inj h
      exact ⟨uri, huri, hscheme.symm, hauthority.symm, rfl⟩
    · rename_i hscheme hauthority
      obtain rfl := Except.ok.inj h
      exact ⟨uri, huri, hscheme.symm, hauthority.symm, rfl⟩
    · simp at h

theorem IsRead.notMem_display {base : BaseUri} {c : Char} (h : base.IsRead) (hc : Uri.EndsPath c) :
    c ∉ base.display := by
  rcases h with rfl | ⟨text, h⟩
  · exact List.not_mem_nil
  · obtain ⟨uri, huri, hscheme, hauthority, hcontextPath⟩ := exists_uri_of_parse h
    obtain ⟨hnoScheme, hnoAuthority, hnoPath⟩ := hc.notMem_of_parse huri
    have hcontext : c ∉ base.contextPath := by
      rw [hcontextPath]
      exact fun hmem => hnoPath (Text.mem_of_mem_dropEndWhile hmem)
    have hcolon : c ∉ "://".toList := by rcases hc with rfl | rfl <;> decide
    rw [display]
    split
    · rename_i scheme authority horigin
      rw [BaseUri.scheme, horigin] at hscheme
      rw [BaseUri.authority, horigin] at hauthority
      simp only [List.mem_append, not_or]
      exact ⟨⟨⟨hnoScheme scheme hscheme.symm, hcolon⟩, hnoAuthority authority hauthority.symm⟩,
        hcontext⟩
    · exact hcontext

/-- The base and a slash behind it, unless the path that begins with `first` brings its own or
begins a query or a fragment. -/
def front (base : BaseUri) (first : Option Char) : Text :=
  base.display ++ if first.all fun c => c = '/' || c = '?' || c = '#' then [] else ['/']

/-- What stands in front of a path that begins with `first` once it is resolved. Where the base
names no server, the whole link starts with a slash. -/
def lead (base : BaseUri) (first : Option Char) : Text :=
  if base.front first = [] then (if first = some '/' then [] else ['/'])
  else if base.isAbsolute ∨ (base.front first).head? = some '/' then base.front first
  else '/' :: base.front first

theorem isAbsolute_eq_false_of_display {base : BaseUri} (h : base.display = []) :
    base.isAbsolute = false := by
  obtain ⟨origin, contextPath⟩ := base
  cases origin with
  | none => rfl
  | some origin => exact absurd h (by simp [display])

/-- A resolved path stands behind its lead as it is. -/
theorem resolve_eq_lead_append (base : BaseUri) (path : Text) :
    base.resolve path = base.lead path.head? ++ path := by
  have hfront : base.display ++ (if startsComponent path then path else '/' :: path) =
      base.front path.head? ++ path := by
    cases path with
    | nil => simp [front, startsComponent]
    | cons c path =>
      rw [front, List.append_assoc]
      by_cases hc : c = '/' ∨ c = '?' ∨ c = '#'
      · rcases hc with rfl | rfl | rfl <;> rfl
      · simp_all [startsComponent]
  rw [resolve, hfront, lead]
  by_cases hnil : base.front path.head? = []
  · have habsolute : base.isAbsolute = false :=
      isAbsolute_eq_false_of_display (List.append_eq_nil_iff.mp hnil).1
    rw [if_pos hnil, hnil, List.nil_append, habsolute]
    cases path with
    | nil => simp
    | cons c path => by_cases hc : c = '/' <;> simp [hc]
  · rw [if_neg hnil, List.head?_append_of_ne_nil _ hnil]
    by_cases hkeep : base.isAbsolute = true ∨ (base.front path.head?).head? = some '/'
    · rw [if_pos hkeep, if_neg]
      rintro (hlink | ⟨habsolute, hhead⟩)
      · exact hnil (List.append_eq_nil_iff.mp hlink).1
      · exact hkeep.elim (by simpa using habsolute) hhead
    · rw [not_or] at hkeep
      rw [if_neg (not_or.mpr hkeep), if_pos, List.cons_append]
      exact .inr ⟨by simpa using hkeep.1, hkeep.2⟩

/-- A query has the same lead as nothing at all. -/
theorem lead_query (base : BaseUri) : base.lead (some '?') = base.lead none := by
  simp [lead, front]

/-- A path that begins neither with a slash nor with the mark of a query or a fragment has a slash
put in front of it. -/
theorem lead_of_ordinary (base : BaseUri) {c : Char} (hslash : c ≠ '/') (hend : ¬Uri.EndsPath c) :
    base.lead (some c) = base.lead (some '/') ++ ['/'] := by
  have hfront : base.front (some c) = base.front (some '/') ++ ['/'] := by
    rw [Uri.EndsPath, not_or] at hend
    simp [front, hslash, hend]
  rw [lead, hfront, lead]
  by_cases hnil : base.front (some '/') = []
  · simp [hnil]
  · rw [if_neg (by simp), if_neg hnil, List.head?_append_of_ne_nil _ hnil]
    split <;> rfl

/-- The lead of a brace in front of another path: the path is resolved with a slash more, unless it
begins like one that has a slash put in front of it anyway. -/
theorem lead_brace_append (base : BaseUri) {path : Text}
    (hpath : ∀ c, Uri.EndsPath c → c ∉ path) :
    base.lead (some '{') ++ path =
      base.resolve (if path.head?.all (· = '/') then '/' :: path else path) := by
  have hbrace : base.lead (some '{') = base.lead (some '/') ++ ['/'] :=
    base.lead_of_ordinary (by decide) (by rintro (h | h) <;> exact absurd h (by decide))
  have hslash : base.lead (some '{') ++ path = base.resolve ('/' :: path) := by
    rw [hbrace, resolve_eq_lead_append, List.append_assoc]
    rfl
  cases path with
  | nil => exact hslash
  | cons c path =>
    by_cases hc : c = '/'
    · simpa [hc] using hslash
    · have hordinary := base.lead_of_ordinary hc fun hend => hpath c hend List.mem_cons_self
      simp [hc, resolve_eq_lead_append, hbrace, hordinary]

theorem mem_lead_of_mem_display {base : BaseUri} {c : Char} (h : c ∈ base.display)
    (first : Option Char) : c ∈ base.lead first := by
  have hfront : c ∈ base.front first := List.mem_append_left _ h
  rw [lead]
  split
  · rename_i hnil
    rw [hnil] at hfront
    exact absurd hfront List.not_mem_nil
  · split
    · exact hfront
    · exact List.mem_cons_of_mem '/' hfront

theorem notMem_lead {base : BaseUri} {c : Char} (hslash : c ≠ '/') (h : c ∉ base.display)
    (first : Option Char) : c ∉ base.lead first := by
  have hfront : c ∉ base.front first := by
    rw [front]
    split <;> simp [h, hslash]
  rw [lead]
  split
  · split <;> simp [hslash]
  · split
    · exact hfront
    · simp [hslash, hfront]

end BaseUri

end Signpost
