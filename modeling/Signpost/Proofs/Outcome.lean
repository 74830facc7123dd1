import Mathlib.Data.List.Forall2

/-!
# Steps that may fail

A sequence of two steps succeeds exactly if the first one does and the second one does with its
result. The lemmas take a computation with a known result apart, step by step.
-/

namespace Except

variable {ε α β : Type}

@[simp] theorem ok_bind (a : α) (f : α → Except ε β) : ((.ok a : Except ε α) >>= f) = f a :=
  rfl

@[simp] theorem error_bind (e : ε) (f : α → Except ε β) :
    ((.error e : Except ε α) >>= f) = .error e :=
  rfl

@[simp] theorem bind_eq_ok_iff {x : Except ε α} {f : α → Except ε β} {b : β} :
    x >>= f = .ok b ↔ ∃ a, x = .ok a ∧ f a = .ok b := by
  cases x with
  | error e => simp [bind, Except.bind]
  | ok a => simp [bind, Except.bind]

@[simp] theorem pure_eq_ok_iff {a b : α} : (pure a : Except ε α) = .ok b ↔ a = b :=
  ⟨fun h => Except.ok.inj h, fun h => h ▸ rfl⟩

@[simp] theorem throw_ne_ok {e : ε} {a : α} : (throw e : Except ε α) ≠ .ok a :=
  nofun

/-- What holds of the errors of either step holds of those of both in a row. -/
theorem forall_error_bind {p : ε → Prop} {x : Except ε α} {f : α → Except ε β}
    (hx : ∀ e, x = .error e → p e) (hf : ∀ a, x = .ok a → ∀ e, f a = .error e → p e) :
    ∀ e, x >>= f = .error e → p e := by
  cases hresult : x with
  | error e =>
    rintro _ ⟨rfl⟩
    exact hx e hresult
  | ok a => exact hf a hresult

theorem toOption_eq_some_iff {x : Except ε α} {a : α} : x.toOption = some a ↔ x = .ok a := by
  cases x with
  | error e => simp [Except.toOption]
  | ok b => simp [Except.toOption]

/-- What a step makes true or leaves false holds after a run of steps if it held before or one of
them makes it true. -/
theorem iff_or_exists_of_foldlM {f : β → α → Except ε β} {p : α → Prop} {q : β → Prop}
    (hstep : ∀ b a next, f b a = .ok next → (q next ↔ q b ∨ p a)) {as : List α} {b result : β}
    (h : as.foldlM f b = .ok result) : q result ↔ q b ∨ ∃ a ∈ as, p a := by
  induction as generalizing b with
  | nil =>
    obtain rfl := pure_eq_ok_iff.mp h
    simp
  | cons a as ih =>
    obtain ⟨next, hnext, hrest⟩ := bind_eq_ok_iff.mp h
    rw [ih hrest, hstep b a next hnext, List.exists_mem_cons_iff, or_assoc]

/-- What every step keeps, a run of steps keeps. -/
theorem foldlM_induction {f : β → α → Except ε β} {q : β → Prop} {as : List α} {b result : β}
    (hstep : ∀ b, ∀ a ∈ as, ∀ next, f b a = .ok next → q b → q next)
    (h : as.foldlM f b = .ok result) (hb : q b) : q result := by
  induction as generalizing b with
  | nil =>
    obtain rfl := pure_eq_ok_iff.mp h
    exact hb
  | cons a as ih =>
    rw [List.foldlM_cons] at h
    obtain ⟨next, hnext, hrest⟩ := bind_eq_ok_iff.mp h
    exact ih (fun b c hc => hstep b c (List.mem_cons_of_mem a hc)) hrest
      (hstep b a List.mem_cons_self next hnext hb)

/-- Steps that never fail lead to a result. -/
theorem exists_foldlM_eq_ok {f : β → α → Except ε β} {as : List α}
    (hstep : ∀ a ∈ as, ∀ b, ∃ next, f b a = .ok next) (b : β) :
    ∃ result, as.foldlM f b = .ok result := by
  induction as generalizing b with
  | nil => exact ⟨b, rfl⟩
  | cons a as ih =>
    obtain ⟨next, hnext⟩ := hstep a List.mem_cons_self b
    obtain ⟨result, hresult⟩ := ih (fun c hc => hstep c (List.mem_cons_of_mem a hc)) next
    exact ⟨result, by rw [List.foldlM_cons, hnext, ok_bind, hresult]⟩

/-- Steps of which some always fail end at the first one of these. -/
theorem foldlM_eq_error_of_find? {f : β → α → Except ε β} {stuck : α → Bool} {e : α → ε}
    (hstuck : ∀ a, stuck a = true → ∀ b, f b a = .error (e a))
    (hfree : ∀ a, stuck a = false → ∀ b, ∃ next, f b a = .ok next) {as : List α} {a : α}
    (h : as.find? stuck = some a) (b : β) : as.foldlM f b = .error (e a) := by
  obtain ⟨ha, before, after, rfl, hbefore⟩ := List.find?_eq_some_iff_append.mp h
  obtain ⟨next, hnext⟩ := exists_foldlM_eq_ok
    (fun c hc => hfree c (by simpa using hbefore c hc)) b
  rw [List.foldlM_append, hnext, ok_bind, List.foldlM_cons, hstuck a ha, error_bind]

/-- A sequence of like steps succeeds exactly if each step does. -/
theorem mapM_eq_ok_iff {f : α → Except ε β} {as : List α} {bs : List β} :
    as.mapM f = .ok bs ↔ List.Forall₂ (fun a b => f a = .ok b) as bs := by
  induction as generalizing bs with
  | nil =>
    rw [List.mapM_nil, pure_eq_ok_iff, List.forall₂_nil_left_iff, eq_comm]
  | cons a as ih =>
    simp only [List.mapM_cons, bind_eq_ok_iff, pure_eq_ok_iff, ih, List.forall₂_cons_left_iff]
    constructor
    · rintro ⟨b, hb, rest, hrest, rfl⟩
      exact ⟨b, rest, hb, hrest, rfl⟩
    · rintro ⟨b, rest, hb, hrest, rfl⟩
      exact ⟨b, hb, rest, hrest, rfl⟩

end Except
