import Mathlib.Data.List.Basic
import Signpost.Proofs.Text.Trimming
import Signpost.Text.Case

/-!
# Texts in lower case

A text in lower case has no other lower case. A character that lowering leads to is fixed by it: no
run of the table moves characters to where another run, or the run itself, moves some away from.
Every character that is not a letter stands where it stood before, so lowering makes no separator
and no white space.

## Main definitions

* `Character.CaseRun.misses`: one run does not lead to characters that another one moves.
* `Character.LowersTo`: what a character may become in lower case.

## Main results

* `Character.all_lowerRuns`: the check of the table, run against run.
* `Character.lower_of_lowersTo`: what a character becomes is fixed by lowering.
* `Character.eq_of_lowersTo`: nothing but itself becomes a blank or a separator.
* `Text.toLower_toLower`, `Text.trim_toLower`, `Text.notMem_toLower`: the same of texts.
-/

namespace Signpost

namespace Character

/-- What holds of the first characters by number holds of ASCII. -/
theorem forall_ascii {p : Char → Prop} (h : ∀ n < 128, p (Char.ofNat n)) :
    ∀ c : Char, c.toNat < 128 → p c :=
  fun c hc => Char.ofNat_toNat c ▸ h c.toNat hc

/-! ### Runs of the table -/

namespace CaseRun

variable {run other : CaseRun} {n m : Nat}

/-- Where a run moves its first character. -/
def imageFirst (run : CaseRun) : Nat :=
  (run.first + run.shift).toNat

/-- Where a run moves its last character. -/
def imageLast (run : CaseRun) : Nat :=
  (run.last + run.shift).toNat

/-- A run does not lead to characters that another run moves: their intervals are disjoint, or the
characters between those that the other run moves are hit. -/
def misses (run other : CaseRun) : Bool :=
  Nat.blt run.imageLast other.first || Nat.blt other.last run.imageFirst ||
    (Nat.beq other.step 2 && (Nat.beq run.step 2 || Nat.beq run.first run.last) &&
      Nat.beq ((run.imageFirst + other.first) % 2) 1)

/-- A run leads to characters behind the capital letters of ASCII, none of which is blank or has a
form of several characters. -/
def isClear (run : CaseRun) : Bool :=
  (0 ≤ run.first + run.shift && 0x61 ≤ run.imageFirst) &&
    ((run.imageLast < 0x130 || 0x130 < run.imageFirst) &&
      blankTable.all fun range => run.imageLast < range.1 || range.2 < run.imageFirst)

theorem map?_eq_some_iff :
    run.map? n = some m ↔
      (run.first ≤ n ∧ n ≤ run.last ∧ (n - run.first) % run.step = 0) ∧
        (n + run.shift).toNat = m := by
  rw [map?]
  split
  · rename_i h
    rw [Option.some_inj, and_iff_right h]
  · rename_i h
    exact iff_of_false (Option.some_ne_none m ∘ Eq.symm) fun hm => h hm.1

theorem map?_eq_none_of_misses (h : run.misses other = true)
    (hshift : 0 ≤ run.first + run.shift) (hn : run.map? n = some m) : other.map? m = none := by
  obtain ⟨⟨hfirst, hlast, hstep⟩, rfl⟩ := map?_eq_some_iff.mp hn
  rw [map?, if_neg]
  rintro ⟨hfirst', hlast', hstep'⟩
  simp only [misses, imageFirst, imageLast, Bool.or_eq_true, Bool.and_eq_true, Nat.blt_eq,
    Nat.beq_eq] at h
  rcases h with (h | h) | ⟨⟨htwo, h⟩, hodd⟩
  · omega
  · omega
  · rw [htwo] at hstep'
    rcases h with h | h
    · rw [h] at hstep
      omega
    · omega

end CaseRun

/-- No run of the table leads to characters that a run moves. -/
theorem all_lowerRuns :
    (lowerRuns.all fun run => run.isClear && lowerRuns.all run.misses) = true := by
  decide +kernel

/-! ### Characters in lower case -/

/-- What a character may become in lower case. -/
def LowersTo (c d : Char) : Prop :=
  d ∈ lower c ∨ c = 'Σ' ∧ d = 'ς'

theorem lower_eq_of_not_ascii {c : Char} (h : ¬c.toNat < 128) :
    lower c =
      match lowerExpansions.lookup c.toNat with
      | some form => form.map Char.ofNat
      | none =>
        match lowerRuns.findSome? (·.map? c.toNat) with
        | some n => [Char.ofNat n]
        | none => [c] := by
  rw [lower, if_neg h]
  rfl

theorem lookup_lowerExpansions (n : Nat) :
    lowerExpansions.lookup n = if n = 0x130 then some [0x69, 0x307] else none := by
  rw [lowerExpansions, List.lookup_cons, List.lookup_nil]
  by_cases h : n = 0x130
  · subst h
    rfl
  · rw [beq_eq_false_iff_ne.mpr h, if_neg h]

/-- What a run leads to is fixed by lowering, and neither a blank nor a sign of ASCII. -/
theorem lower_ofNat_of_map? {run : CaseRun} (hrun : run ∈ lowerRuns) {n m : Nat}
    (h : run.map? n = some m) :
    lower (Char.ofNat m) = [Char.ofNat m] ∧ isBlank (Char.ofNat m) = false ∧
      (Char.ofNat m = Char.ofNat 0 ∨ 0x61 ≤ (Char.ofNat m).toNat) := by
  obtain ⟨hclear, hmisses⟩ := (Bool.and_eq_true _ _).mp (List.all_eq_true.mp all_lowerRuns run hrun)
  simp only [CaseRun.isClear, Bool.and_eq_true, Bool.or_eq_true, decide_eq_true_eq,
    List.all_eq_true] at hclear
  obtain ⟨⟨hshift, hletter⟩, hexpansion, hblank⟩ := hclear
  obtain ⟨⟨hfirst, hlast, -⟩, hm⟩ := CaseRun.map?_eq_some_iff.mp h
  have hbounds : run.imageFirst ≤ m ∧ m ≤ run.imageLast := by
    rw [CaseRun.imageFirst, CaseRun.imageLast]
    omega
  by_cases hvalid : m.isValidChar
  · have htoNat : (Char.ofNat m).toNat = m := by
      rw [Char.ofNat, dif_pos hvalid]
      rfl
    refine ⟨?_, ?_, .inr (htoNat.symm ▸ Nat.le_trans hletter hbounds.1)⟩
    · by_cases hascii : m < 128
      · rw [lower, if_pos (htoNat.symm ▸ hascii), asciiLower, if_neg]
        rintro ⟨-, hcapital⟩
        have hle : (Char.ofNat m).toNat ≤ 'Z'.toNat := hcapital
        rw [htoNat] at hle
        exact absurd hle (Nat.not_le.mpr (Nat.lt_of_lt_of_le (by decide)
          (Nat.le_trans hletter hbounds.1)))
      · have hlookup : lowerExpansions.lookup m = none := by
          rw [lookup_lowerExpansions, if_neg (by omega)]
        have hfind : lowerRuns.findSome? (·.map? m) = none := by
          rw [List.findSome?_eq_none_iff]
          intro other hother
          exact CaseRun.map?_eq_none_of_misses (List.all_eq_true.mp hmisses other hother) hshift h
        rw [lower_eq_of_not_ascii (htoNat.symm ▸ hascii), htoNat, hlookup, hfind]
    · rw [isBlank, RangeTable.has, List.any_eq_false, htoNat]
      intro range hrange
      have hout := hblank range hrange
      simp only [Bool.and_eq_true, decide_eq_true_eq]
      omega
  · have hzero : Char.ofNat m = Char.ofNat 0 := by
      rw [Char.ofNat, dif_neg hvalid]
      rfl
    rw [hzero]
    exact ⟨by decide, by decide, .inl rfl⟩

theorem lower_asciiLower : ∀ c : Char, c.toNat < 128 →
    lower (asciiLower c) = [asciiLower c] ∧
      (isBlank (asciiLower c) = true ∨ (asciiLower c).toNat < 0x61 → asciiLower c = c) :=
  forall_ascii (by decide)

/-- The three ways in which a character beyond ASCII has a lower case. -/
theorem mem_lower_cases {c d : Char} (hascii : ¬c.toNat < 128) (h : d ∈ lower c) :
    (d = Char.ofNat 0x69 ∨ d = Char.ofNat 0x307) ∨
      (∃ run ∈ lowerRuns, ∃ m, run.map? c.toNat = some m ∧ d = Char.ofNat m) ∨
        lower c = [c] ∧ d = c := by
  have hlower := lower_eq_of_not_ascii hascii
  rw [lookup_lowerExpansions] at hlower
  by_cases hexpansion : c.toNat = 0x130
  · rw [hlower, if_pos hexpansion] at h
    exact .inl (by simpa using h)
  · rw [if_neg hexpansion] at hlower
    match hfind : lowerRuns.findSome? (·.map? c.toNat) with
    | none =>
      rw [hfind] at hlower
      rw [hlower] at h
      exact .inr (.inr ⟨hlower, List.mem_singleton.mp h⟩)
    | some m =>
      rw [hlower, hfind] at h
      obtain ⟨run, hrun, hmap⟩ := List.exists_of_findSome?_eq_some hfind
      exact .inr (.inl ⟨run, hrun, m, hmap, List.mem_singleton.mp h⟩)

/-- What a character becomes in lower case is fixed by lowering. A blank or a sign of ASCII stands
only where it stood before. -/
theorem lower_of_mem_lower {c d : Char} (h : d ∈ lower c) :
    lower d = [d] ∧ (isBlank d = true ∨ 0 < d.toNat ∧ d.toNat < 0x61 → d = c) := by
  by_cases hascii : c.toNat < 128
  · rw [lower, if_pos hascii, List.mem_singleton] at h
    obtain ⟨hfixed, hsame⟩ := lower_asciiLower c hascii
    exact h ▸ ⟨hfixed, fun hd => hsame (hd.imp_right And.right)⟩
  · rcases mem_lower_cases hascii h with (rfl | rfl) | ⟨run, hrun, m, hmap, rfl⟩ | ⟨hfixed, rfl⟩
    · exact ⟨by decide, fun hd => absurd hd (by decide)⟩
    · exact ⟨by decide +kernel, fun hd => absurd hd (by decide)⟩
    · obtain ⟨hfixed, hblank, hsign⟩ := lower_ofNat_of_map? hrun hmap
      refine ⟨hfixed, ?_⟩
      rintro (hd | ⟨hpos, hlt⟩)
      · exact absurd hd (by simp [hblank])
      · rcases hsign with hzero | hle
        · exact absurd hpos (by rw [hzero]; decide)
        · omega
    · exact ⟨hfixed, fun _ => rfl⟩

/-- What a character becomes in lower case is fixed by lowering. -/
theorem lower_of_lowersTo {c d : Char} (h : LowersTo c d) : lower d = [d] := by
  rcases h with h | ⟨-, rfl⟩
  · exact (lower_of_mem_lower h).1
  · decide +kernel

/-- Nothing but itself becomes a blank or a sign of ASCII. -/
theorem eq_of_lowersTo {c d : Char} (h : LowersTo c d)
    (hd : isBlank d = true ∨ 0 < d.toNat ∧ d.toNat < 0x61) : d = c := by
  rcases h with h | ⟨-, rfl⟩
  · exact (lower_of_mem_lower h).2 hd
  · exact absurd hd (by decide)

theorem isBlank_of_lowersTo {c d : Char} (h : LowersTo c d) (hc : isBlank c = false) :
    isBlank d = false := by
  by_contra hd
  rw [Bool.not_eq_false] at hd
  rw [eq_of_lowersTo h (.inl hd), hc] at hd
  exact Bool.false_ne_true hd

theorem lower_ne_nil (c : Char) : lower c ≠ [] := by
  by_cases hascii : c.toNat < 128
  · rw [lower, if_pos hascii]
    exact List.cons_ne_nil _ _
  · rw [lower_eq_of_not_ascii hascii, lookup_lowerExpansions]
    by_cases hexpansion : c.toNat = 0x130
    · rw [if_pos hexpansion]
      exact List.cons_ne_nil _ _
    · rw [if_neg hexpansion]
      cases lowerRuns.findSome? (·.map? c.toNat) <;> exact List.cons_ne_nil _ _

end Character

/-! ### Texts in lower case -/

namespace Text

open Character (LowersTo)

variable {text : Text}

theorem exists_lowerAfter_cons (before : Text) (c : Char) (rest : Text) :
    ∃ form : Text, form ≠ [] ∧ (∀ d ∈ form, LowersTo c d) ∧
      lowerAfter before (c :: rest) = form ++ lowerAfter (c :: before) rest := by
  rw [lowerAfter]
  split
  · rename_i hsigma
    refine ⟨_, List.cons_ne_nil _ _, fun d hd => ?_, rfl⟩
    obtain rfl := List.mem_singleton.mp hd
    subst hsigma
    split
    · exact .inr ⟨rfl, rfl⟩
    · exact .inl (by decide +kernel)
  · exact ⟨_, Character.lower_ne_nil c, fun d hd => .inl hd, rfl⟩

theorem exists_of_mem_lowerAfter {before : Text} {d : Char} (h : d ∈ lowerAfter before text) :
    ∃ c ∈ text, LowersTo c d := by
  induction text generalizing before with
  | nil => exact absurd h List.not_mem_nil
  | cons c rest ih =>
    obtain ⟨form, -, hform, heq⟩ := exists_lowerAfter_cons before c rest
    rw [heq, List.mem_append] at h
    rcases h with h | h
    · exact ⟨c, List.mem_cons_self, hform d h⟩
    · obtain ⟨e, he, hd⟩ := ih h
      exact ⟨e, List.mem_cons_of_mem c he, hd⟩

theorem exists_of_head?_lowerAfter {before : Text} {d : Char}
    (h : (lowerAfter before text).head? = some d) : ∃ c, text.head? = some c ∧ LowersTo c d := by
  cases text with
  | nil => simp [lowerAfter] at h
  | cons c rest =>
    obtain ⟨form, hne, hform, heq⟩ := exists_lowerAfter_cons before c rest
    rw [heq, List.head?_append_of_ne_nil _ hne] at h
    exact ⟨c, rfl, hform d (List.mem_of_head? h)⟩

theorem exists_of_getLast?_lowerAfter {before : Text} {d : Char}
    (h : (lowerAfter before text).getLast? = some d) :
    ∃ c, text.getLast? = some c ∧ LowersTo c d := by
  induction text generalizing before with
  | nil => simp [lowerAfter] at h
  | cons c rest ih =>
    obtain ⟨form, -, hform, heq⟩ := exists_lowerAfter_cons before c rest
    rw [heq] at h
    cases rest with
    | nil =>
      rw [lowerAfter, List.append_nil] at h
      exact ⟨c, rfl, hform d (List.mem_of_getLast? h)⟩
    | cons e rest =>
      obtain ⟨next, hnext, -, hlater⟩ := exists_lowerAfter_cons (c :: before) e rest
      have hne : lowerAfter (c :: before) (e :: rest) ≠ [] := by simp [hlater, hnext]
      rw [List.getLast?_append_of_ne_nil _ hne] at h
      exact ih h

theorem lowerAfter_eq_self {before : Text} (h : ∀ c ∈ text, Character.lower c = [c]) :
    lowerAfter before text = text := by
  induction text generalizing before with
  | nil => rfl
  | cons c rest ih =>
    obtain ⟨hc, hrest⟩ := List.forall_mem_cons.mp h
    have hsigma : c ≠ 'Σ' := by
      rintro rfl
      exact absurd hc (by decide +kernel)
    rw [lowerAfter, if_neg hsigma, hc, ih hrest, List.singleton_append]

/-- A text in lower case has no other lower case. -/
theorem toLower_toLower (text : Text) : text.toLower.toLower = text.toLower :=
  lowerAfter_eq_self fun _ hd =>
    have ⟨_, _, hlowers⟩ := exists_of_mem_lowerAfter hd
    Character.lower_of_lowersTo hlowers

/-- A text without white space at its ends has none there in lower case. -/
theorem trim_toLower (h : text.trim = text) : text.toLower.trim = text.toLower := by
  obtain ⟨hfirst, hlast⟩ := trim_eq_self_iff.mp h
  refine trim_eq_self_iff.mpr ⟨fun d hd => ?_, fun d hd => ?_⟩
  · obtain ⟨c, hc, hlowers⟩ := exists_of_head?_lowerAfter hd
    exact Character.isBlank_of_lowersTo hlowers (hfirst c hc)
  · obtain ⟨c, hc, hlowers⟩ := exists_of_getLast?_lowerAfter hd
    exact Character.isBlank_of_lowersTo hlowers (hlast c hc)

/-- Lowering makes no sign of ASCII. -/
theorem notMem_toLower {d : Char} (hd : 0 < d.toNat ∧ d.toNat < 0x61) (h : d ∉ text) :
    d ∉ text.toLower := fun hmem =>
  have ⟨_, hc, hlowers⟩ := exists_of_mem_lowerAfter hmem
  h (Character.eq_of_lowersTo hlowers (.inr hd) ▸ hc)

end Text

end Signpost
