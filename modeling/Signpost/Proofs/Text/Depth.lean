import Signpost.Text.Braces

/-!
# How deep a text is inside braces

A text is scanned from left to right: an opening brace leads one level deeper, a closing brace one
level back, unless no brace is open. What stands at depth zero is outside all braces.

## Main definitions

* `Text.depthFrom`: the depth behind a text.
* `Text.IsBalanced`: a text that leaves every depth as it was.
* `Text.StaysOpen`: a text that closes no brace in front of it.
* `Text.IsEnclosed`: the content of an expression.
* `Text.braces`: the braces of a text.

## Main results

* `Text.depthFrom_mono`: deeper before is not less deep behind.
* `Text.isBalanced_of_closeBrace?`: an expression is balanced.
* `Text.pos_depthFrom_of_closeBrace?`: its content is inside its braces.
* `Text.closeBrace?_eq_none_iff`, `Text.IsEnclosed.closeBrace?_append`: when an expression is
  closed.
* `Text.depthFrom_braces`, `Text.staysOpen_braces_iff`: the braces of a text tell how deep it is.
-/

namespace Signpost.Text

/-- The depth behind a character. -/
def depthAfter (depth : Nat) (c : Char) : Nat :=
  if c = '{' then depth + 1 else if c = '}' then depth - 1 else depth

/-- The depth behind a text that starts at the given depth. -/
def depthFrom (depth : Nat) (text : Text) : Nat :=
  text.foldl depthAfter depth

/-- The text leaves every depth as it was. -/
def IsBalanced (text : Text) : Prop :=
  ∀ depth, depthFrom depth text = depth

variable {depth deeper : Nat} {c : Char} {text content rest : Text}

theorem depthAfter_open (depth : Nat) : depthAfter depth '{' = depth + 1 :=
  rfl

theorem depthAfter_close (depth : Nat) : depthAfter depth '}' = depth - 1 :=
  rfl

theorem depthAfter_of_ne (hopen : c ≠ '{') (hclose : c ≠ '}') (depth : Nat) :
    depthAfter depth c = depth := by
  rw [depthAfter, if_neg hopen, if_neg hclose]

theorem depthFrom_cons (depth : Nat) (c : Char) (text : Text) :
    depthFrom depth (c :: text) = depthFrom (depthAfter depth c) text :=
  rfl

theorem depthFrom_append (depth : Nat) (text other : Text) :
    depthFrom depth (text ++ other) = depthFrom (depthFrom depth text) other :=
  List.foldl_append

theorem depthAfter_mono (h : depth ≤ deeper) (c : Char) :
    depthAfter depth c ≤ depthAfter deeper c := by
  rw [depthAfter, depthAfter]
  split
  · omega
  · split
    · omega
    · exact h

theorem depthFrom_mono (h : depth ≤ deeper) (text : Text) :
    depthFrom depth text ≤ depthFrom deeper text := by
  induction text generalizing depth deeper with
  | nil => exact h
  | cons c text ih => exact ih (depthAfter_mono h c)

/-! ### Inside an expression -/

/-- Inside a brace a character leads as far up or down as it does inside fewer. -/
theorem depthAfter_succ_add (depth around : Nat) (c : Char) :
    depthAfter (depth + 1 + around) c = depthAfter (depth + 1) c + around := by
  rw [depthAfter, depthAfter]
  split
  · omega
  · split
    · omega
    · rfl

/-- The search for a closing brace has found it or goes on behind a character of the content. -/
theorem closeBraceAt?_cons {opened : Nat}
    (h : closeBraceAt? opened (c :: text) = some (content, rest)) :
    content = [] ∧ opened = 0 ∨
      ∃ inner next, content = c :: inner ∧ closeBraceAt? next text = some (inner, rest) ∧
        depthAfter (opened + 1) c = next + 1 := by
  rw [closeBraceAt?.eq_def] at h
  simp only at h
  split at h
  · rename_i hopen
    obtain ⟨⟨inner, after⟩, hinner, hsides⟩ := Option.map_eq_some_iff.mp h
    obtain ⟨rfl, rfl⟩ := Prod.mk.inj hsides
    exact .inr ⟨inner, _, rfl, hinner, hopen ▸ depthAfter_open _⟩
  · split at h
    · rename_i hclose
      cases opened with
      | zero => exact .inl ⟨(Prod.mk.inj (Option.some_inj.mp h)).1.symm, rfl⟩
      | succ opened =>
        obtain ⟨⟨inner, after⟩, hinner, hsides⟩ := Option.map_eq_some_iff.mp h
        obtain ⟨rfl, rfl⟩ := Prod.mk.inj hsides
        exact .inr ⟨inner, _, rfl, hinner, hclose ▸ depthAfter_close _⟩
    · rename_i hopen hclose
      obtain ⟨⟨inner, after⟩, hinner, hsides⟩ := Option.map_eq_some_iff.mp h
      obtain ⟨rfl, rfl⟩ := Prod.mk.inj hsides
      exact .inr ⟨inner, _, rfl, hinner, depthAfter_of_ne hopen hclose _⟩

/-- In front of the closing brace the expression and what is around it are open. -/
theorem depthFrom_of_closeBraceAt? {opened : Nat}
    (h : closeBraceAt? opened text = some (content, rest)) (around : Nat) :
    depthFrom (opened + 1 + around) content = 1 + around := by
  induction text generalizing opened content with
  | nil => exact absurd h (by simp [closeBraceAt?])
  | cons c text ih =>
    rcases closeBraceAt?_cons h with ⟨rfl, rfl⟩ | ⟨inner, next, rfl, hinner, hnext⟩
    · rw [Nat.zero_add]
      rfl
    · rw [depthFrom_cons, depthAfter_succ_add, hnext]
      exact ih hinner

/-- Up to the closing brace the expression is open. -/
theorem pos_depthFrom_of_closeBraceAt? {opened : Nat}
    (h : closeBraceAt? opened text = some (content, rest)) {front : Text}
    (hfront : front <+: content) : 0 < depthFrom (opened + 1) front := by
  induction text generalizing opened content front with
  | nil => exact absurd h (by simp [closeBraceAt?])
  | cons c text ih =>
    cases front with
    | nil => exact Nat.succ_pos opened
    | cons d front =>
      rcases closeBraceAt?_cons h with ⟨rfl, rfl⟩ | ⟨inner, next, rfl, hinner, hnext⟩
      · exact absurd (List.prefix_nil.mp hfront) (List.cons_ne_nil _ _)
      · obtain ⟨rfl, hlater⟩ := List.cons_prefix_cons.mp hfront
        rw [depthFrom_cons, hnext]
        exact ih hinner hlater

/-- As long as the expression is open, the search for its closing brace goes on. -/
theorem closeBraceAt?_of_depthAfter {opened next : Nat}
    (h : depthAfter (opened + 1) c = next + 1) (text : Text) :
    closeBraceAt? opened (c :: text) =
      (closeBraceAt? next text).map fun sides => (c :: sides.1, sides.2) := by
  rw [closeBraceAt?.eq_def]
  rw [depthAfter] at h
  simp only
  split at h
  · rename_i hopen
    rw [if_pos hopen, ← Nat.succ.inj h]
  · rename_i hopen
    split at h
    · rename_i hclose
      rw [if_neg hopen, if_pos hclose]
      cases opened with
      | zero => exact absurd h (by omega)
      | succ opened => rw [show opened = next by omega]
    · rename_i hclose
      rw [if_neg hopen, if_neg hclose, Nat.succ.inj h]

/-- Where an expression is closed does not depend on what is behind it. -/
theorem closeBraceAt?_append {opened : Nat}
    (h : closeBraceAt? opened text = some (content, rest)) (other : Text) :
    closeBraceAt? opened (content ++ '}' :: other) = some (content, other) := by
  induction text generalizing opened content with
  | nil => exact absurd h (by simp [closeBraceAt?])
  | cons c text ih =>
    rcases closeBraceAt?_cons h with ⟨rfl, rfl⟩ | ⟨inner, next, rfl, hinner, hnext⟩
    · rfl
    · rw [List.cons_append, closeBraceAt?_of_depthAfter hnext, ih hinner]
      rfl

theorem closeBrace?_of_closeBrace? (h : closeBrace? text = some (content, rest)) (other : Text) :
    closeBrace? (content ++ '}' :: other) = some (content, other) :=
  closeBraceAt?_append h other

theorem isBalanced_of_closeBrace? (h : closeBrace? text = some (content, rest)) :
    IsBalanced ('{' :: content ++ ['}']) := fun depth => by
  have hcontent := depthFrom_of_closeBraceAt? h depth
  rw [Nat.zero_add, Nat.add_comm] at hcontent
  rw [depthFrom_append, depthFrom_cons depth, depthAfter_open, hcontent]
  rfl

theorem pos_depthFrom_of_closeBrace? (h : closeBrace? text = some (content, rest)) {front : Text}
    (hfront : front <+: content) : 0 < depthFrom 1 front :=
  pos_depthFrom_of_closeBraceAt? h hfront

/-! ### Texts that leave an expression open -/

/-- Behind `depth` open braces, no part of the text closes all of them. -/
def StaysOpen (depth : Nat) (text : Text) : Prop :=
  ∀ front, front <+: text → 0 < depthFrom depth front

/-- The text is the content of an expression: the next closing brace closes it. -/
structure IsEnclosed (content : Text) : Prop where
  staysOpen : StaysOpen 1 content
  depth : depthFrom 1 content = 1

theorem depthFrom_of_notMem (hopen : '{' ∉ text) (hclose : '}' ∉ text) (depth : Nat) :
    depthFrom depth text = depth := by
  induction text with
  | nil => rfl
  | cons c text ih =>
    rw [List.mem_cons, not_or] at hopen hclose
    rw [depthFrom_cons, depthAfter_of_ne (Ne.symm hopen.1) (Ne.symm hclose.1), ih hopen.2 hclose.2]

theorem staysOpen_nil : StaysOpen depth [] ↔ 0 < depth := by
  refine ⟨fun h => h [] (List.prefix_refl []), fun h front hfront => ?_⟩
  rw [List.prefix_nil.mp hfront]
  exact h

theorem staysOpen_cons :
    StaysOpen depth (c :: text) ↔ 0 < depth ∧ StaysOpen (depthAfter depth c) text := by
  constructor
  · refine fun h => ⟨h [] List.nil_prefix, fun front hfront => ?_⟩
    exact h (c :: front) (List.cons_prefix_cons.mpr ⟨rfl, hfront⟩)
  · rintro ⟨hdepth, h⟩ front hfront
    cases front with
    | nil => exact hdepth
    | cons d front =>
      obtain ⟨rfl, hlater⟩ := List.cons_prefix_cons.mp hfront
      exact h front hlater

theorem eq_close_of_depthAfter_eq_zero {opened : Nat} (h : depthAfter (opened + 1) c = 0) :
    c = '}' ∧ opened = 0 := by
  rw [depthAfter] at h
  split at h
  · exact absurd h (Nat.succ_ne_zero _)
  · split at h
    · rename_i hclose
      exact ⟨hclose, h⟩
    · exact absurd h (Nat.succ_ne_zero _)

theorem closeBraceAt?_eq_none_iff {opened : Nat} :
    closeBraceAt? opened text = none ↔ StaysOpen (opened + 1) text := by
  induction text generalizing opened with
  | nil => exact iff_of_true rfl (staysOpen_nil.mpr (Nat.succ_pos opened))
  | cons c text ih =>
    rw [staysOpen_cons]
    cases hnext : depthAfter (opened + 1) c with
    | zero =>
      obtain ⟨rfl, rfl⟩ := eq_close_of_depthAfter_eq_zero hnext
      refine iff_of_false (by simp [closeBraceAt?]) fun h => ?_
      exact absurd (h.2 [] List.nil_prefix) (Nat.lt_irrefl 0)
    | succ next =>
      rw [closeBraceAt?_of_depthAfter hnext, Option.map_eq_none_iff, ih]
      exact (and_iff_right (Nat.succ_pos opened)).symm

/-- A text leaves an expression open if and only if no closing brace is found. -/
theorem closeBrace?_eq_none_iff : closeBrace? text = none ↔ StaysOpen 1 text :=
  closeBraceAt?_eq_none_iff

theorem closeBraceAt?_of_staysOpen {opened : Nat} (hopen : StaysOpen (opened + 1) content)
    (hdepth : depthFrom (opened + 1) content = 1) (rest : Text) :
    closeBraceAt? opened (content ++ '}' :: rest) = some (content, rest) := by
  induction content generalizing opened with
  | nil =>
    obtain rfl : opened = 0 := Nat.succ.inj hdepth
    rfl
  | cons c content ih =>
    have hlater := (staysOpen_cons.mp hopen).2
    rw [depthFrom_cons] at hdepth
    cases hnext : depthAfter (opened + 1) c with
    | zero =>
      rw [hnext] at hlater
      exact absurd (hlater [] List.nil_prefix) (Nat.lt_irrefl 0)
    | succ next =>
      rw [hnext] at hlater hdepth
      rw [List.cons_append, closeBraceAt?_of_depthAfter hnext, ih hlater hdepth]
      rfl

theorem IsEnclosed.closeBrace?_append (h : IsEnclosed content) (rest : Text) :
    closeBrace? (content ++ '}' :: rest) = some (content, rest) :=
  closeBraceAt?_of_staysOpen h.staysOpen h.depth rest

theorem isEnclosed_of_closeBrace? (h : closeBrace? text = some (content, rest)) :
    IsEnclosed content where
  staysOpen _ hfront := pos_depthFrom_of_closeBrace? h hfront
  depth := depthFrom_of_closeBraceAt? h 0

namespace StaysOpen

theorem of_isPrefix {front : Text} (h : StaysOpen depth text) (hfront : front <+: text) :
    StaysOpen depth front :=
  fun start hstart => h start (hstart.trans hfront)

theorem mono (h : StaysOpen depth text) (hdepth : depth ≤ deeper) : StaysOpen deeper text :=
  fun front hfront => Nat.lt_of_lt_of_le (h front hfront) (depthFrom_mono hdepth front)

/-- Up to the closing brace more braces around it only add to the depth. -/
theorem depthFrom_add (h : StaysOpen depth text) (around : Nat) :
    depthFrom (depth + around) text = depthFrom depth text + around := by
  induction text generalizing depth with
  | nil => rfl
  | cons c text ih =>
    obtain ⟨hpos, hlater⟩ := staysOpen_cons.mp h
    obtain ⟨opened, rfl⟩ := Nat.exists_eq_add_one_of_ne_zero (Nat.ne_of_gt hpos)
    rw [depthFrom_cons, depthAfter_succ_add, ih hlater, depthFrom_cons]

theorem append_iff {front : Text} :
    StaysOpen depth (front ++ text) ↔
      StaysOpen depth front ∧ StaysOpen (depthFrom depth front) text := by
  induction front generalizing depth with
  | nil =>
    rw [List.nil_append, staysOpen_nil]
    exact ⟨fun h => ⟨h [] List.nil_prefix, h⟩, And.right⟩
  | cons c front ih => rw [List.cons_append, staysOpen_cons, staysOpen_cons, ih, and_assoc,
      depthFrom_cons]

theorem of_notMem (hopen : '{' ∉ text) (hclose : '}' ∉ text) (hdepth : 0 < depth) :
    StaysOpen depth text := by
  intro front hfront
  rw [depthFrom_of_notMem (fun h => hopen (hfront.subset h)) fun h => hclose (hfront.subset h)]
  exact hdepth

end StaysOpen

namespace IsEnclosed

variable {front back : Text}

theorem of_notMem (hopen : '{' ∉ text) (hclose : '}' ∉ text) : IsEnclosed text :=
  ⟨.of_notMem hopen hclose Nat.one_pos, depthFrom_of_notMem hopen hclose 1⟩

/-- With its braces a content leaves every depth as it was. -/
theorem isBalanced (h : IsEnclosed text) : IsBalanced ('{' :: text ++ ['}']) :=
  isBalanced_of_closeBrace? (h.closeBrace?_append [])

/-- With its braces a content does not close what is around it. -/
theorem staysOpen_braces (h : IsEnclosed text) (hdepth : 0 < depth) :
    StaysOpen depth ('{' :: text ++ ['}']) := by
  have hinside := h.staysOpen.mono (Nat.le_add_left 1 depth)
  rw [List.cons_append, staysOpen_cons, StaysOpen.append_iff, staysOpen_cons]
  have hbehind := h.staysOpen.depthFrom_add depth
  rw [h.depth, Nat.add_comm] at hbehind
  rw [depthAfter_open, hbehind, depthAfter_close, staysOpen_nil]
  exact ⟨hdepth, hinside, Nat.succ_pos depth, hdepth⟩

/-- Characters other than braces in front do not matter. -/
theorem append_iff (hopen : '{' ∉ front) (hclose : '}' ∉ front) :
    IsEnclosed (front ++ text) ↔ IsEnclosed text := by
  have hdepth := depthFrom_of_notMem hopen hclose 1
  constructor
  · rintro ⟨hstays, hwhole⟩
    rw [StaysOpen.append_iff, hdepth] at hstays
    rw [depthFrom_append, hdepth] at hwhole
    exact ⟨hstays.2, hwhole⟩
  · rintro ⟨hstays, hwhole⟩
    have hfront : StaysOpen 1 front := .of_notMem hopen hclose Nat.one_pos
    refine ⟨StaysOpen.append_iff.mpr ⟨hfront, hdepth.symm ▸ hstays⟩, ?_⟩
    rw [depthFrom_append, hdepth, hwhole]

/-- Two contents in a row are one. -/
theorem append (h : IsEnclosed text) (hback : IsEnclosed back) : IsEnclosed (text ++ back) where
  staysOpen := StaysOpen.append_iff.mpr ⟨h.staysOpen, h.depth.symm ▸ hback.staysOpen⟩
  depth := by rw [depthFrom_append, h.depth, hback.depth]

/-- A content leaves no expression open that begins in it. -/
theorem not_staysOpen {inside : Text} (h : IsEnclosed (front ++ '{' :: inside)) :
    ¬StaysOpen 1 inside := by
  intro hinside
  have hpos := h.staysOpen front (List.prefix_append front _)
  have hdepth := h.depth
  rw [depthFrom_append, depthFrom_cons, depthAfter_open, Nat.add_comm,
    hinside.depthFrom_add] at hdepth
  have := hinside inside (List.prefix_refl inside)
  omega

end IsEnclosed

/-! ### The braces of a text -/

/-- The braces of a text. -/
def braces (text : Text) : Text :=
  text.filter fun c => c = '{' ∨ c = '}'

theorem braces_append (text other : Text) : braces (text ++ other) = braces text ++ braces other :=
  List.filter_append text other

/-- The depth behind a text is that behind its braces. -/
theorem depthFrom_braces (depth : Nat) (text : Text) :
    depthFrom depth (braces text) = depthFrom depth text := by
  induction text generalizing depth with
  | nil => rfl
  | cons c text ih =>
    by_cases hc : c = '{' ∨ c = '}'
    · rw [braces, List.filter_cons_of_pos (by simpa using hc), depthFrom_cons, depthFrom_cons]
      exact ih _
    · rw [braces, List.filter_cons_of_neg (by simpa using hc), depthFrom_cons,
        depthAfter_of_ne (fun h => hc (.inl h)) fun h => hc (.inr h)]
      exact ih depth

/-- Whether an expression is left open is told from the braces alone. -/
theorem staysOpen_braces_iff : StaysOpen depth (braces text) ↔ StaysOpen depth text := by
  induction text generalizing depth with
  | nil => rfl
  | cons c text ih =>
    rw [staysOpen_cons]
    by_cases hc : c = '{' ∨ c = '}'
    · rw [braces, List.filter_cons_of_pos (by simpa using hc), staysOpen_cons]
      exact and_congr_right fun _ => ih
    · rw [braces, List.filter_cons_of_neg (by simpa using hc),
        depthAfter_of_ne (fun h => hc (.inl h)) fun h => hc (.inr h)]
      exact ih.trans ⟨fun h => ⟨h [] List.nil_prefix, h⟩, And.right⟩

theorem StaysOpen.of_braces {other : Text} (h : StaysOpen depth text)
    (hbraces : braces other = braces text) : StaysOpen depth other := by
  rwa [← staysOpen_braces_iff, hbraces, staysOpen_braces_iff]

/-- A text with the braces of a content is one. -/
theorem IsEnclosed.of_braces {other : Text} (h : IsEnclosed text)
    (hbraces : braces other = braces text) : IsEnclosed other where
  staysOpen := h.staysOpen.of_braces hbraces
  depth := by rw [← depthFrom_braces, hbraces, depthFrom_braces, h.depth]

end Signpost.Text
