import Signpost.Proofs.Linker.Run
import Signpost.Proofs.Mapping.Source

/-!
# Answers that do not depend on the past

A linker over a source that remembers answers is compared with linkers that remember nothing. As
long as the handlers and the values of placeholders stay the same and handlers of one type are one
handler, whatever is remembered under the key of a question is the answer to every question of the
run with that key. Hence each request of the run comes to what it comes to on a new linker, and both
memo tables count their look-ups.

## Main definitions

* `Linker.inquiries`, `Linker.declaredTexts`: the questions of a run, and the texts they are
  answered with.
* `Linker.IsSteady`: a run during which nothing changes that answers depend on.
* `Linker.Remembers`: the memories of a linker in the course of a run.

## Main results

* `Linker.Remembers.handle`, `Linker.Remembers.after`: what a request and a run make of the
  memories.
* `Linker.cached_answers_eq`: a run of a remembering linker, and the counters of its memo tables.
-/

namespace Signpost.Linker

/-! ### Steady runs -/

/-- The questions that a run of requests puts to the source of mappings. -/
def inquiries (history : List (Surroundings × Request)) : List Inquiry :=
  history.filterMap fun step => step.2.inquiry? step.1

/-- The texts of the mappings that a run of requests has read. -/
def declaredTexts (placeholders : PlaceholderSource) (history : List (Surroundings × Request)) :
    List Text :=
  history.filterMap fun step => (step.2.inquiry? step.1).bind fun inquiry =>
    (MappingSource.answer step.1 inquiry (.resolved placeholders)).1

/-- Throughout a run the declared handlers and the values of placeholders are the same, and handlers
of one type that are asked about are one handler. -/
structure IsSteady (placeholders : PlaceholderSource) (history : List (Surroundings × Request)) :
    Prop where
  handlers : ∀ a ∈ history, ∀ b ∈ history, a.1.handlers = b.1.handlers
  values : ∀ a ∈ history, ∀ b ∈ history, placeholders.value? a.1 = placeholders.value? b.1
  types : ∀ i ∈ inquiries history, ∀ j ∈ inquiries history,
    i.handler.type = j.handler.type → i.handler = j.handler

variable {placeholders : PlaceholderSource} {history : List (Surroundings × Request)}

/-- In a steady run the key of a question determines its answer. -/
theorem IsSteady.answer_eq (h : IsSteady placeholders history) {a b : Surroundings × Request}
    {i j : Inquiry} (ha : a ∈ history) (hb : b ∈ history) (hi : a.2.inquiry? a.1 = some i)
    (hj : b.2.inquiry? b.1 = some j) (hkey : i.key = j.key) :
    (MappingSource.answer a.1 i (.resolved placeholders)).1 =
      (MappingSource.answer b.1 j (.resolved placeholders)).1 := by
  have hhandler : i.handler = j.handler :=
    h.types i (List.mem_filterMap.mpr ⟨a, ha, hi⟩) j (List.mem_filterMap.mpr ⟨b, hb, hj⟩)
      (Inquiry.type_handler_of_key_eq hkey)
  exact MappingSource.answer_resolved_congr (h.handlers a ha b hb) (h.values a ha b hb) hkey
    hhandler

/-! ### Memories -/

/-- The answer under a key is the one that every question of the run with this key has. -/
def IsAnswer (placeholders : PlaceholderSource) (history : List (Surroundings × Request))
    (key : InquiryKey) (mapping? : Option Text) : Prop :=
  ∀ step ∈ history, ∀ inquiry, step.2.inquiry? step.1 = some inquiry → inquiry.key = key →
    mapping? = (MappingSource.answer step.1 inquiry (.resolved placeholders)).1

/-- The source remembers right answers only, and looked up the keys `keys` so far. -/
def Recalls (placeholders : PlaceholderSource) (history : List (Surroundings × Request))
    (source : MappingSource) (keys : List InquiryKey) : Prop :=
  ∃ memo, source = .caching memo (.resolved placeholders) ∧ memo.Tallies keys ∧
    memo.Holds (IsAnswer placeholders history)

/-- What a linker remembers in the course of a run, after look-ups of `keys` and `texts`. -/
structure Remembers (placeholders : PlaceholderSource) (history : List (Surroundings × Request))
    (linker : Linker) (keys : List InquiryKey) (texts : List Text) : Prop where
  sound : linker.IsSound
  mappings : linker.mappings.Tallies texts
  source : Recalls placeholders history linker.source keys

variable {linker : Linker} {keys : List InquiryKey} {texts : List Text}

/-- A question of the run is answered rightly, and its key counted. -/
theorem Recalls.answer {source : MappingSource} (h : Recalls placeholders history source keys)
    (hsteady : IsSteady placeholders history) {step : Surroundings × Request}
    (hstep : step ∈ history) {inquiry : Inquiry}
    (hinquiry : step.2.inquiry? step.1 = some inquiry) :
    (MappingSource.answer step.1 inquiry source).1 =
        (MappingSource.answer step.1 inquiry (.resolved placeholders)).1 ∧
      Recalls placeholders history (MappingSource.answer step.1 inquiry source).2
        (keys ++ [inquiry.key]) := by
  obtain ⟨memo, rfl, htallies, hholds⟩ := h
  have hright : IsAnswer placeholders history inquiry.key
      (MappingSource.answer step.1 inquiry (.resolved placeholders)).1 :=
    fun other hother j hj hkey => hsteady.answer_eq hstep hother hinquiry hj hkey.symm
  obtain ⟨hanswer, hmemo⟩ := hholds.fetch
    (fun _ => (MappingSource.answer step.1 inquiry (.resolved placeholders)).1) hright
  rw [MappingSource.answer_caching memo rfl]
  exact ⟨hanswer step hstep inquiry hinquiry rfl, _, rfl, htallies.fetch _, hmemo⟩

/-- A request of the run leaves right memories and counts its look-ups. -/
theorem Remembers.handle (h : Remembers placeholders history linker keys texts)
    (hsteady : IsSteady placeholders history) {step : Surroundings × Request}
    (hstep : step ∈ history) :
    Remembers placeholders history (linker.handle step.1 step.2).2
      (keys ++ (inquiries [step]).map Inquiry.key)
      (texts ++ declaredTexts placeholders [step]) := by
  have hsound := h.sound.handle step.1 step.2
  cases hinquiry : step.2.inquiry? step.1 with
  | none =>
    have hkeys : inquiries [step] = [] := by simp [inquiries, hinquiry]
    have htexts : declaredTexts placeholders [step] = [] := by simp [declaredTexts, hinquiry]
    rw [hkeys, htexts, List.map_nil, List.append_nil, List.append_nil]
    refine ⟨hsound, ?_, ?_⟩
    · rw [handle_snd, hinquiry]
      exact h.mappings
    · rw [handle_snd, hinquiry]
      exact h.source
  | some inquiry =>
    obtain ⟨hanswer, hsource⟩ := h.source.answer hsteady hstep hinquiry
    have hkeys : inquiries [step] = [inquiry] := by simp [inquiries, hinquiry]
    refine ⟨hsound, ?_, ?_⟩
    · rw [handle_snd, hinquiry]
      simp only [Option.bind_some, hanswer]
      cases htext : (MappingSource.answer step.1 inquiry (.resolved placeholders)).1 with
      | none =>
        have htexts : declaredTexts placeholders [step] = [] := by
          simp [declaredTexts, hinquiry, htext]
        rw [htexts, List.append_nil]
        exact h.mappings
      | some raw =>
        have htexts : declaredTexts placeholders [step] = [raw] := by
          simp [declaredTexts, hinquiry, htext]
        rw [htexts]
        exact h.mappings.fetch _
    · rw [handle_snd, hinquiry, hkeys]
      exact hsource

/-- A part of the run leaves right memories and counts its look-ups. -/
theorem Remembers.after (hsteady : IsSteady placeholders history) :
    {linker : Linker} → {keys : List InquiryKey} → {texts : List Text} →
    Remembers placeholders history linker keys texts →
    (rest : List (Surroundings × Request)) → (∀ step ∈ rest, step ∈ history) →
    Remembers placeholders history (linker.after rest)
      (keys ++ (inquiries rest).map Inquiry.key) (texts ++ declaredTexts placeholders rest)
  | _, keys, texts, h, [], _ => by
    simpa [inquiries, declaredTexts, Linker.after] using h
  | linker, keys, texts, h, step :: rest, hrest => by
    have hnext := (h.handle hsteady (hrest step List.mem_cons_self)).after hsteady rest
      fun other hother => hrest other (List.mem_cons_of_mem step hother)
    have hkeys : inquiries (step :: rest) = inquiries [step] ++ inquiries rest :=
      List.filterMap_append (l := [step])
    have htexts : declaredTexts placeholders (step :: rest) =
        declaredTexts placeholders [step] ++ declaredTexts placeholders rest :=
      List.filterMap_append (l := [step])
    rw [hkeys, htexts, List.map_append, ← List.append_assoc, ← List.append_assoc]
    exact hnext

/-! ### Answers -/

/-- A new linker whose source remembers nothing. -/
def plain (base : BaseUri) (formatters : Formatters) (placeholders : PlaceholderSource) : Linker :=
  { base, formatters, source := .resolved placeholders }

/-- A new linker whose source will remember its answers. -/
def cached (base : BaseUri) (formatters : Formatters) (placeholders : PlaceholderSource) : Linker :=
  { base, formatters, source := .cached placeholders }

theorem remembers_cached (base : BaseUri) (formatters : Formatters)
    (placeholders : PlaceholderSource) (history : List (Surroundings × Request)) :
    Remembers placeholders history (cached base formatters placeholders) [] [] where
  sound := IsNew.isSound ⟨rfl, rfl⟩
  mappings := .empty
  source := ⟨{}, rfl, .empty, .empty⟩

/-- In a steady run a request comes to what it comes to on a new linker that remembers nothing. -/
theorem Remembers.bare_handle (h : Remembers placeholders history linker keys texts)
    (hsteady : IsSteady placeholders history) {step : Surroundings × Request}
    (hstep : step ∈ history) :
    bare (linker.handle step.1 step.2).1 =
      bare ((plain linker.base linker.formatters placeholders).handle step.1 step.2).1 := by
  have hnew : (plain linker.base linker.formatters placeholders).IsNew := ⟨rfl, rfl⟩
  rw [h.sound.bare_handle, hnew.isSound.bare_handle]
  cases hinquiry : step.2.inquiry? step.1 with
  | none => rfl
  | some inquiry =>
    rw [Option.bind_some, Option.bind_some, (h.source.answer hsteady hstep hinquiry).1]
    rfl

theorem Remembers.answers (hsteady : IsSteady placeholders history) :
    {linker : Linker} → {keys : List InquiryKey} → {texts : List Text} →
    Remembers placeholders history linker keys texts →
    (rest : List (Surroundings × Request)) → (∀ step ∈ rest, step ∈ history) →
    (linker.answers rest).map bare = rest.map fun step =>
      bare ((plain linker.base linker.formatters placeholders).handle step.1 step.2).1
  | _, _, _, _, [], _ => rfl
  | linker, keys, texts, h, step :: rest, hrest => by
    have hstep := hrest step List.mem_cons_self
    have hnext := (h.handle hsteady hstep).answers hsteady rest
      fun other hother => hrest other (List.mem_cons_of_mem step hother)
    rw [handle_base, handle_formatters] at hnext
    rw [Linker.answers, List.map_cons, List.map_cons, hnext, h.bare_handle hsteady hstep]

/-- **The answers of a remembering linker do not depend on the past.** During a steady run every
request comes to the URI and the variables, or to the error, that it comes to on a new linker that
remembers nothing. Afterwards the table of mappings and the table of answers hold one entry for each
key looked up, each worked out once, and have counted all look-ups. -/
theorem cached_answers_eq (base : BaseUri) (formatters : Formatters)
    (placeholders : PlaceholderSource) (history : List (Surroundings × Request))
    (hsteady : IsSteady placeholders history) :
    ((cached base formatters placeholders).answers history).map bare =
        history.map (fun step =>
          bare ((plain base formatters placeholders).handle step.1 step.2).1) ∧
      ((cached base formatters placeholders).after history).mappings.Counts
        (declaredTexts placeholders history) ∧
      ∃ memo, ((cached base formatters placeholders).after history).source.memo? = some memo ∧
        memo.Counts ((inquiries history).map Inquiry.key) := by
  have hstart := remembers_cached base formatters placeholders history
  have hend := hstart.after hsteady history fun _ hstep => hstep
  obtain ⟨memo, hmemo, htallies, -⟩ := hend.source
  exact ⟨hstart.answers hsteady history fun _ hstep => hstep, hend.mappings.counts, memo,
    by rw [hmemo]; rfl, htallies.counts⟩

/-- A handler that is linked to twice is looked up twice and remembered once; a request without a
call looks nothing up. -/
theorem cached_answers_eq_repeated :
    let people : Handler := { type := "People".toList, mapping := some "/people".toList }
    let whole : Surroundings × Request := ({ handlers := ⟨[people]⟩ }, .whole ⟨people, [], none⟩)
    let last : Surroundings × Request := ({ handlers := ⟨[people]⟩ }, .last ⟨people, [], none⟩)
    IsSteady (.environment none) [whole, last, whole] ∧
      ∃ memo,
        ((cached .root {} (.environment none)).after [whole, last, whole]).source.memo? =
            some memo ∧
          memo.size = 1 ∧ memo.hits + memo.misses = 2 := by
  intro people whole last
  have hsteady : IsSteady (.environment none) [whole, last, whole] := by
    refine ⟨by simp [whole, last], by simp [whole, last], ?_⟩
    simp [inquiries, whole, last, Request.inquiry?, Request.called?]
  obtain ⟨-, -, memo, hmemo, -, hsize, htotal⟩ :=
    cached_answers_eq .root {} (.environment none) [whole, last, whole] hsteady
  refine ⟨hsteady, memo, hmemo, ?_, ?_⟩
  · rw [hsize]
    rfl
  · rw [htotal]
    rfl

end Signpost.Linker
