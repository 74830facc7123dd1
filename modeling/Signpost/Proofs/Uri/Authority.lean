import Signpost.Proofs.Uri.Base

/-!
# Where a link leads

A link that begins with two slashes names a server of its own, which a client takes from what stands
behind them. A link against a base that names a server begins with that server, and what follows is
a path, a query or a fragment of it. A link against any other base begins with a slash; it begins
with two exactly if the context path does, or if there is none and the path itself does.

## Main definitions

* `Uri.IsNetworkPath`: a reference that names a server and no scheme.

## Main results

* `BaseUri.IsRead.exists_resolve_eq`: a link against a base that names a server.
* `BaseUri.IsRead.isNetworkPath_resolve_iff`: a link against any other base.
-/

namespace Signpost

namespace Uri

/-- The reference begins with two slashes, so that what follows them is a server. -/
def IsNetworkPath (reference : Text) : Prop :=
  ['/', '/'] <+: reference

instance : DecidablePred IsNetworkPath := fun reference =>
  inferInstanceAs (Decidable (['/', '/'] <+: reference))

theorem isNetworkPath_cons_cons_iff {c d : Char} {rest : Text} :
    IsNetworkPath (c :: d :: rest) ↔ c = '/' ∧ d = '/' := by
  simp [IsNetworkPath, List.cons_prefix_cons, eq_comm]

theorem not_isNetworkPath_of_ne {c : Char} {rest : Text} (h : c ≠ '/') :
    ¬IsNetworkPath (c :: rest) := by
  intro hnetwork
  exact h (List.cons_prefix_cons.mp hnetwork).1.symm

theorem not_isNetworkPath_nil : ¬IsNetworkPath [] := by
  decide

theorem not_isNetworkPath_slash : ¬IsNetworkPath ['/'] := by
  decide

/-- What follows a path does not make it name a server, unless it begins with a slash. -/
theorem isNetworkPath_append_iff {path more : Text} (hmore : more.head? ≠ some '/') :
    IsNetworkPath (path ++ more) ↔ IsNetworkPath path := by
  match path with
  | [] =>
    rw [List.nil_append, iff_false_right not_isNetworkPath_nil]
    cases more with
    | nil => exact not_isNetworkPath_nil
    | cons c more => exact not_isNetworkPath_of_ne fun hc => hmore (hc ▸ rfl)
  | [c] =>
    cases more with
    | nil => rw [List.append_nil]
    | cons d more =>
      have hd : d ≠ '/' := fun hd => hmore (hd ▸ rfl)
      rw [List.singleton_append, isNetworkPath_cons_cons_iff]
      simp [IsNetworkPath, hd]
  | c :: d :: path => rw [List.cons_append, List.cons_append, isNetworkPath_cons_cons_iff,
      isNetworkPath_cons_cons_iff]

/-- What is read as a path behind an authority begins with a slash. -/
theorem head?_path_of_splitAuthority {text authority rest path : Text} {query : Option Text}
    (hauthority : splitAuthority text = .ok (authority, rest))
    (hpath : parsePath rest = .ok (path, query)) (hne : path ≠ []) : path.head? = some '/' := by
  have hrest := (eq_takeWhile_of_splitAuthority hauthority).2
  rw [eq_takeWhile_of_parsePath hpath] at hne ⊢
  cases rest with
  | nil => exact absurd rfl hne
  | cons c rest =>
    have hends : c ≠ '/' → c ≠ '?' → c = '#' := by
      have hhead := List.head?_dropWhile_not (fun d => !(d = '/' || d = '?' || d = '#')) text
      rw [← hrest] at hhead
      simpa using hhead
    rw [List.takeWhile_cons] at hne ⊢
    by_cases hgoesOn : (!(decide (c = '?') || decide (c = '#'))) = true
    · have hslash : c = '/' := by
        rw [Bool.not_eq_true', Bool.or_eq_false_iff, decide_eq_false_iff_not,
          decide_eq_false_iff_not] at hgoesOn
        by_contra hother
        exact hgoesOn.2 (hends hother hgoesOn.1)
      rw [if_pos hgoesOn, hslash]
      rfl
    · rw [if_neg hgoesOn] at hne
      exact absurd rfl hne

/-- The path of a URI with a scheme begins with a slash. -/
theorem head?_path_of_parse {text : Text} {uri : Uri} (h : parse text = .ok uri)
    (hscheme : uri.scheme ≠ none) : uri.path.head? = some '/' := by
  rcases parse_cases h with rfl | ⟨path, query, -, rfl⟩ | ⟨authority, -, rfl⟩ |
    ⟨scheme, authority, rest, tail, path, query, -, hauthority, hpath, rfl⟩
  · exact absurd rfl hscheme
  · exact absurd rfl hscheme
  · exact absurd rfl hscheme
  · by_cases hnil : path = []
    · rw [if_pos hnil]
      rfl
    · rw [if_neg hnil]
      exact head?_path_of_splitAuthority hauthority hpath hnil

end Uri

namespace BaseUri

variable {base : BaseUri}

/-! ### Context paths -/

theorem IsRead.getLast?_contextPath (h : base.IsRead) : base.contextPath.getLast? ≠ some '/' := by
  rcases h with rfl | ⟨text, h⟩
  · decide
  · obtain ⟨uri, -, -, -, hcontextPath⟩ := exists_uri_of_parse h
    rw [hcontextPath]
    intro hlast
    have hslash := Text.eq_false_of_getLast?_dropEndWhile hlast
    exact absurd hslash (by decide)

/-- The context path of a base that names a server begins with a slash, if there is one. -/
theorem IsRead.startsComponent_contextPath (h : base.IsRead) (horigin : base.origin ≠ none) :
    startsComponent base.contextPath = true := by
  rcases h with rfl | ⟨text, h⟩
  · exact absurd rfl horigin
  · obtain ⟨uri, huri, hscheme, -, hcontextPath⟩ := exists_uri_of_parse h
    have hnamed : uri.scheme ≠ none := by
      rw [← hscheme, scheme]
      simpa using horigin
    have hpath : uri.path.head? = some '/' := Uri.head?_path_of_parse huri hnamed
    have hprefix : base.contextPath <+: uri.path :=
      hcontextPath ▸ Text.dropEndWhile_prefix _ uri.path
    cases hcontext : base.contextPath with
    | nil => rfl
    | cons c rest =>
      rw [hcontext] at hprefix
      have hc : c = '/' := by
        obtain ⟨more, hmore⟩ := hprefix
        rw [← hmore] at hpath
        exact Option.some_inj.mp hpath
      rw [hc]
      rfl

/-! ### Resolved paths -/

/-- The path as it stands behind a base. -/
def separated (path : Text) : Text :=
  if startsComponent path then path else '/' :: path

/-- The link with a slash in front of it, unless it has one. -/
def rooted (link : Text) : Text :=
  if link.head? = some '/' then link else '/' :: link

theorem resolve_of_origin {origin : Text × Text} (horigin : base.origin = some origin)
    (path : Text) : base.resolve path = base.display ++ separated path := by
  have hdisplay : base.display ≠ [] := by simp [display, horigin]
  have habsolute : base.isAbsolute = true := by rw [isAbsolute, horigin, Option.isSome_some]
  have hlink : ¬(base.display ++ separated path = [] ∨
      (!base.isAbsolute) = true ∧ (base.display ++ separated path).head? ≠ some '/') := by
    rintro (hnil | ⟨hrelative, -⟩)
    · exact hdisplay (List.append_eq_nil_iff.mp hnil).1
    · rw [habsolute] at hrelative
      exact absurd hrelative (by decide)
  exact if_neg hlink

theorem resolve_of_no_origin (horigin : base.origin = none) (path : Text) :
    base.resolve path = rooted (base.contextPath ++ separated path) := by
  have hdisplay : base.display = base.contextPath := by simp [display, horigin]
  have habsolute : base.isAbsolute = false := by rw [isAbsolute, horigin, Option.isSome_none]
  have hresolve : base.resolve path = if base.display ++ separated path = [] ∨
      (!base.isAbsolute) = true ∧ (base.display ++ separated path).head? ≠ some '/'
      then '/' :: (base.display ++ separated path) else base.display ++ separated path := rfl
  rw [hresolve, rooted, hdisplay, habsolute]
  by_cases hslash : (base.contextPath ++ separated path).head? = some '/'
  · rw [if_pos hslash, if_neg]
    rintro (hnil | ⟨-, hother⟩)
    · rw [hnil] at hslash
      exact absurd hslash (by simp)
    · exact hother hslash
  · rw [if_neg hslash, if_pos (.inr ⟨rfl, hslash⟩)]

theorem startsComponent_separated (path : Text) : startsComponent (separated path) = true := by
  rw [separated]
  by_cases h : startsComponent path = true
  · rw [if_pos h]
    exact h
  · rw [if_neg h]
    rfl

theorem startsComponent_append {text more : Text} (h : startsComponent text = true)
    (hmore : startsComponent more = true) : startsComponent (text ++ more) = true := by
  cases text with
  | nil => exact hmore
  | cons c text => exact h

/-- **A link against a base that names a server** begins with that server and goes on with a path, a
query or a fragment of it. -/
theorem IsRead.exists_resolve_eq (h : base.IsRead) {scheme authority : Text}
    (horigin : base.origin = some (scheme, authority)) (path : Text) :
    ∃ rest, base.resolve path = scheme ++ "://".toList ++ authority ++ rest ∧
      startsComponent rest = true := by
  have hcontext : startsComponent base.contextPath = true :=
    h.startsComponent_contextPath (by simp [horigin])
  refine ⟨base.contextPath ++ separated path, ?_,
    startsComponent_append hcontext (startsComponent_separated path)⟩
  rw [resolve_of_origin horigin, display, horigin]
  exact List.append_assoc ..

theorem head?_rooted (link : Text) : (rooted link).head? = some '/' := by
  rw [rooted]
  by_cases h : link.head? = some '/'
  · rw [if_pos h, h]
  · rw [if_neg h]
    rfl

/-- A link against a base that names no server begins with a slash. -/
theorem head?_resolve (horigin : base.origin = none) (path : Text) :
    (base.resolve path).head? = some '/' := by
  rw [resolve_of_no_origin horigin, head?_rooted]

theorem isNetworkPath_rooted_iff {link : Text} :
    Uri.IsNetworkPath (rooted link) ↔ Uri.IsNetworkPath link := by
  rw [rooted]
  by_cases h : link.head? = some '/'
  · rw [if_pos h]
  · rw [if_neg h]
    cases link with
    | nil => exact iff_of_false Uri.not_isNetworkPath_slash Uri.not_isNetworkPath_nil
    | cons c link =>
      have hc : c ≠ '/' := fun hc => h (hc ▸ rfl)
      rw [Uri.isNetworkPath_cons_cons_iff]
      exact iff_of_false (fun hboth => hc hboth.2) (Uri.not_isNetworkPath_of_ne hc)

theorem isNetworkPath_separated_iff {path : Text} :
    Uri.IsNetworkPath (separated path) ↔ Uri.IsNetworkPath path := by
  rw [separated]
  by_cases h : startsComponent path = true
  · rw [if_pos h]
  · rw [if_neg h]
    cases path with
    | nil => exact absurd rfl h
    | cons c path =>
      have hc : c ≠ '/' := by
        rintro rfl
        exact h rfl
      rw [Uri.isNetworkPath_cons_cons_iff]
      exact iff_of_false (fun hboth => hc hboth.2) (Uri.not_isNetworkPath_of_ne hc)

/-- **A link against a base that names no server** names one itself exactly if the context path
does, or if there is no context path and the path does. -/
theorem IsRead.isNetworkPath_resolve_iff (h : base.IsRead) (horigin : base.origin = none)
    (path : Text) :
    Uri.IsNetworkPath (base.resolve path) ↔
      Uri.IsNetworkPath base.contextPath ∨
        base.contextPath = [] ∧ Uri.IsNetworkPath path := by
  rw [resolve_of_no_origin horigin, isNetworkPath_rooted_iff]
  have hlast := h.getLast?_contextPath
  match hcontext : base.contextPath with
  | [] =>
    rw [List.nil_append, isNetworkPath_separated_iff]
    simp [Uri.not_isNetworkPath_nil]
  | [c] =>
    -- A context path of one character is no slash.
    have hc : c ≠ '/' := by
      rw [hcontext] at hlast
      exact fun hc => hlast (hc ▸ rfl)
    have hlink : ¬Uri.IsNetworkPath ([c] ++ separated path) := Uri.not_isNetworkPath_of_ne hc
    have hnone : ¬Uri.IsNetworkPath [c] := Uri.not_isNetworkPath_of_ne hc
    refine iff_of_false hlink ?_
    rintro (hcontextPath | ⟨hnil, -⟩)
    · exact hnone hcontextPath
    · exact List.cons_ne_nil c [] hnil
  | c :: d :: rest =>
    rw [List.cons_append, List.cons_append, Uri.isNetworkPath_cons_cons_iff,
      Uri.isNetworkPath_cons_cons_iff]
    simp

end BaseUri

end Signpost
