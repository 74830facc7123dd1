import Signpost.Linker
import Signpost.Proofs.Memo
import Signpost.Proofs.Outcome

/-!
# Runs of a linker

A linker is asked for one link after the other. Every request puts at most one question to the
source of mappings, reads the answer through the memo table of mappings and, if it succeeds for a
call, looks up the offer of the called method. This file says what one request does to each part of
the linker, and that a table of mappings filled by requests never holds anything but the mapping a
text reads as.

## Main definitions

* `Linker.Request`, `Linker.handle`: a request and what becomes of it.
* `Linker.answers`, `Linker.after`: the answers to a run of requests, and the linker behind it.
* `Linker.Request.inquiry?`, `Linker.Request.called?`: the question and the method behind a request.
* `Linker.IsNew`, `Linker.IsSound`: a linker without memories, and one without wrong ones.

## Main results

* `Linker.handle_snd`: what a request does to the linker.
* `Linker.IsSound.after`: no run leads to wrong memories.
* `Linker.linkLast_eq_ok_iff`: when the last call of a recording can be linked to.
* `Linker.IsSound.bare_handle`: the URI and the variables of an answer.
-/

namespace Signpost.Linker

/-! ### Requests -/

/-- What a linker is asked for. -/
inductive Request where
  /-- The link to the last call of a recording. -/
  | last (recording : Recording)
  /-- The link to the target of a recording as a whole. -/
  | whole (recording : Recording)

namespace Request

/-- The call a request is about, with its method; none if there is no such call or it cannot be
linked to. -/
def called? (surroundings : Surroundings) : Request → Option (Call × Method)
  | whole _ => none
  | last recording =>
    recording.last.bind fun call => (calledMethod surroundings call).toOption.map (call, ·)

/-- The question that a request puts to the source of mappings, unless it fails before. -/
def inquiry? (surroundings : Surroundings) (request : Request) : Option Inquiry :=
  match request with
  | whole recording => some (.ofType recording.target)
  | last _ => (request.called? surroundings).map fun called => .ofCall called.1.target called.2

/-- What a request comes to when its mapping is declared by the text `raw?`. -/
def outcome (base : BaseUri) (formatters : Formatters) (surroundings : Surroundings)
    (raw? : Option Text) : Request → Except LinkError (Text × List Template.Variable)
  | whole recording =>
    match raw? with
    | none => .error (.noTypeMapping recording.target.name)
    | some raw =>
      .ok ((Target.ofType base formatters (Mapping.parse raw) recording.parameters).href, [])
  | last recording => do
    let call ← recording.lastCall
    let method ← calledMethod surroundings call
    match raw? with
    | none => throw (.noMapping call.target.name method.name)
    | some raw =>
      let target ←
        Target.ofCall base formatters (Mapping.parse raw) recording.parameters call method
      let _ ← target.toLink
      return (target.href, target.vars)

end Request

/-- The answer to a request, and the linker afterwards. -/
def handle (linker : Linker) (surroundings : Surroundings) :
    Request → Except LinkError LinkDraft × Linker
  | .last recording => linker.linkLast surroundings recording
  | .whole recording => linker.linkTarget surroundings recording

/-- The answers to requests that are made one after the other. -/
def answers (linker : Linker) : List (Surroundings × Request) → List (Except LinkError LinkDraft)
  | [] => []
  | (surroundings, request) :: rest =>
    (linker.handle surroundings request).1 ::
      (linker.handle surroundings request).2.answers rest

/-- The linker after requests that are made one after the other. -/
def after (linker : Linker) : List (Surroundings × Request) → Linker
  | [] => linker
  | (surroundings, request) :: rest => (linker.handle surroundings request).2.after rest

/-- The linker was asked for nothing yet. -/
def IsNew (linker : Linker) : Prop :=
  linker.mappings = {} ∧ linker.offers = {}

/-- Every mapping that the linker remembers is the one its text reads as. -/
def IsSound (linker : Linker) : Prop :=
  linker.mappings.Holds fun raw mapping => mapping = Mapping.parse raw

/-- The part of an answer that is told from the arguments: the URI and the optional variables. -/
def bare (answer : Except LinkError LinkDraft) : Except LinkError (Text × List Template.Variable) :=
  answer.map fun draft => (draft.uri, draft.vars)

/-! ### One request, part by part -/

variable {linker : Linker} {surroundings : Surroundings}

/-- The memo table of mappings after the mapping that `raw?` declares was read, if it declares
one. -/
def recalled (mappings : Memo Text Mapping) : Option Text → Memo Text Mapping
  | none => mappings
  | some raw => (mappings.fetch raw fun _ => Mapping.parse raw).2

theorem mapping?_eq (linker : Linker) (surroundings : Surroundings) (inquiry : Inquiry) :
    linker.mapping? surroundings inquiry =
      (((linker.source.answer surroundings inquiry).1.map fun raw =>
          (linker.mappings.fetch raw fun _ => Mapping.parse raw).1),
        { linker with
          source := (linker.source.answer surroundings inquiry).2
          mappings :=
            recalled linker.mappings (linker.source.answer surroundings inquiry).1 }) := by
  rw [mapping?]
  cases h : linker.source.answer surroundings inquiry with
  | mk raw? source =>
    cases raw? with
    | none => rfl
    | some raw => rfl

theorem lastCall_eq_ok_iff {recording : Recording} {call : Call} :
    recording.lastCall = .ok call ↔ recording.last = some call := by
  rw [Recording.lastCall]
  cases recording.last with
  | none => simp
  | some other => simp

theorem called?_last {recording : Recording} {call : Call} {method : Method} :
    (Request.last recording).called? surroundings = some (call, method) ↔
      recording.last = some call ∧ calledMethod surroundings call = .ok method := by
  simp only [Request.called?, Option.bind_eq_some_iff, Option.map_eq_some_iff,
    Except.toOption_eq_some_iff, Prod.mk.injEq]
  constructor
  · rintro ⟨_, hlast, _, hmethod, rfl, rfl⟩
    exact ⟨hlast, hmethod⟩
  · rintro ⟨hlast, hmethod⟩
    exact ⟨call, hlast, method, hmethod, rfl, rfl⟩

/-- A call that has a method gives as many arguments as the method takes. -/
theorem length_arguments_of_calledMethod {call : Call} {method : Method}
    (h : calledMethod surroundings call = .ok method) :
    call.arguments.length = method.parameters.length := by
  rw [calledMethod] at h
  obtain ⟨declared, -, h⟩ := Except.bind_eq_ok_iff.mp h
  by_cases hlength : call.arguments.length = declared.parameters.length
  · simp only [hlength, ne_eq, not_true_eq_false, if_false] at h
    obtain rfl := Except.pure_eq_ok_iff.mp h
    exact hlength
  · rw [if_pos hlength] at h
    obtain ⟨_, hthrow, -⟩ := Except.bind_eq_ok_iff.mp h
    exact absurd hthrow Except.throw_ne_ok

theorem called?_last_of_error {recording : Recording} {call : Call} {error : LinkError}
    (hlast : recording.last = some call) (h : calledMethod surroundings call = .error error) :
    (Request.last recording).called? surroundings = none := by
  rw [Request.called?, hlast, Option.bind_some, h]
  rfl

/-- The memo table of offers after a look-up for a called method. -/
def recollect (offers : Memo (Text × Text) Offer) (call : Call) (method : Method) :
    Memo (Text × Text) Offer :=
  (offers.fetch (call.target.type, method.name) fun _ => Offer.ofMethod method).2

/-- The memo tables have no part in what a call is linked to. -/
theorem target_with (linker : Linker) (source : MappingSource) (mappings : Memo Text Mapping) :
    ({ linker with source, mappings } : Linker).target = linker.target :=
  rfl

theorem target_eq_ok_iff {mapping : Mapping} {parameters : List Argument} {call : Call}
    {method : Method} {target : Target} {link : Link} :
    linker.target mapping parameters call method = .ok (target, link) ↔
      Target.ofCall linker.base linker.formatters mapping parameters call method = .ok target ∧
        target.toLink = .ok link := by
  simp only [Linker.target, Except.bind_eq_ok_iff, Except.pure_eq_ok_iff, Prod.mk.injEq]
  constructor
  · rintro ⟨_, hcall, _, hlink, rfl, rfl⟩
    exact ⟨hcall, hlink⟩
  · rintro ⟨hcall, hlink⟩
    exact ⟨target, hcall, link, hlink, rfl, rfl⟩

/-- How a call is linked to once its method is known: its mapping is asked for and read, then the
target is made, and the offer is looked up only if that succeeds. -/
theorem linkCall_eq (linker : Linker) {call : Call} {method : Method}
    (h : calledMethod surroundings call = .ok method) (parameters : List Argument) :
    linker.linkCall surroundings parameters call =
      let (mapping?, asked) := linker.mapping? surroundings (.ofCall call.target method)
      match mapping? with
      | none => (.error (.noMapping call.target.name method.name), asked)
      | some mapping =>
        match linker.target mapping parameters call method with
        | .error error => (.error error, asked)
        | .ok (target, link) =>
          (.ok ⟨target.href, target.vars, (linker.offer call.target method).1.affordances link⟩,
            { asked with offers := recollect linker.offers call method }) := by
  simp only [linkCall, h, mapping?_eq]
  cases (linker.source.answer surroundings (.ofCall call.target method)).1 with
  | none => rfl
  | some raw =>
    simp only [Option.map_some, target_with]
    cases linker.target (linker.mappings.fetch raw fun _ => Mapping.parse raw).1 parameters call
      method with
    | error error => rfl
    | ok made => rfl

/-- The last call of a recording is linked to exactly if its method is known and mapped and its
arguments make a target whose href is a template. -/
theorem linkLast_eq_ok_iff {recording : Recording} {draft : LinkDraft} :
    (linker.linkLast surroundings recording).1 = .ok draft ↔
      ∃ call method mapping target link,
        recording.last = some call ∧ calledMethod surroundings call = .ok method ∧
        (linker.mapping? surroundings (.ofCall call.target method)).1 = some mapping ∧
        Target.ofCall linker.base linker.formatters mapping recording.parameters call method =
          .ok target ∧
        target.toLink = .ok link ∧
        draft = ⟨target.href, target.vars,
          (linker.offer call.target method).1.affordances link⟩ := by
  cases hlast : recording.last with
  | none => simp [linkLast, Recording.lastCall, hlast]
  | some call =>
    simp only [linkLast, Recording.lastCall, hlast]
    cases hmethod : calledMethod surroundings call with
    | error error => simp [linkCall, hmethod]
    | ok method =>
      simp only [linkCall_eq linker hmethod]
      cases hmapping : linker.mapping? surroundings (.ofCall call.target method) with
      | mk mapping? asked =>
        cases mapping? with
        | none => simp [hmethod, hmapping]
        | some mapping =>
          simp only
          constructor
          · intro hdraft
            split at hdraft
            · exact absurd hdraft (by simp)
            · rename_i target link htarget
              obtain ⟨hcall, hlink⟩ := target_eq_ok_iff.mp htarget
              exact ⟨call, method, mapping, target, link, rfl, hmethod, by rw [hmapping], hcall,
                hlink, (Except.ok.inj hdraft).symm⟩
          · rintro ⟨call', method', mapping', target, link, hcall', hmethod', hmapping', hcall,
              hlink, rfl⟩
            obtain rfl := Option.some_inj.mp hcall'
            obtain rfl := Except.ok.inj (hmethod.symm.trans hmethod')
            rw [hmapping] at hmapping'
            obtain rfl := Option.some_inj.mp hmapping'
            rw [target_eq_ok_iff.mpr ⟨hcall, hlink⟩]

/-- What a request does to the linker: it asks its question, reads the mapping it is answered with
and, if it succeeds for a call, looks up an offer. -/
theorem handle_snd (linker : Linker) (surroundings : Surroundings) (request : Request) :
    (linker.handle surroundings request).2 =
      { linker with
        source := (request.inquiry? surroundings).elim linker.source fun inquiry =>
          (linker.source.answer surroundings inquiry).2
        mappings := recalled linker.mappings ((request.inquiry? surroundings).bind fun inquiry =>
          (linker.source.answer surroundings inquiry).1)
        offers :=
          match (linker.handle surroundings request).1, request.called? surroundings with
          | .ok _, some (call, method) => recollect linker.offers call method
          | _, _ => linker.offers } := by
  cases request with
  | whole recording =>
    simp only [handle, linkTarget, linkHandler, mapping?_eq, Request.inquiry?, Request.called?,
      Option.elim_some, Option.bind_some]
    cases (linker.source.answer surroundings (.ofType recording.target)).1 with
    | none => rfl
    | some raw => rfl
  | last recording =>
    cases hlast : recording.last with
    | none =>
      simp only [handle, linkLast, Recording.lastCall, Request.inquiry?, Request.called?, hlast]
      rfl
    | some call =>
      simp only [handle, linkLast, Recording.lastCall, Request.inquiry?, hlast]
      cases hmethod : calledMethod surroundings call with
      | error error =>
        rw [called?_last_of_error hlast hmethod]
        simp only [linkCall, hmethod]
        rfl
      | ok method =>
        rw [called?_last.mpr ⟨hlast, hmethod⟩]
        simp only [linkCall_eq linker hmethod, mapping?_eq, Option.map_some, Option.elim_some,
          Option.bind_some]
        cases (linker.source.answer surroundings (.ofCall call.target method)).1 with
        | none => rfl
        | some raw =>
          simp only [Option.map_some]
          cases linker.target (linker.mappings.fetch raw fun _ => Mapping.parse raw).1
            recording.parameters call method with
          | error error => rfl
          | ok made => rfl

theorem handle_base (linker : Linker) (surroundings : Surroundings) (request : Request) :
    (linker.handle surroundings request).2.base = linker.base := by
  rw [handle_snd]

theorem handle_formatters (linker : Linker) (surroundings : Surroundings) (request : Request) :
    (linker.handle surroundings request).2.formatters = linker.formatters := by
  rw [handle_snd]

theorem after_base {linker : Linker} :
    (history : List (Surroundings × Request)) → (linker.after history).base = linker.base
  | [] => rfl
  | (surroundings, request) :: rest =>
    (after_base rest).trans (handle_base linker surroundings request)

theorem after_formatters {linker : Linker} :
    (history : List (Surroundings × Request)) →
    (linker.after history).formatters = linker.formatters
  | [] => rfl
  | (surroundings, request) :: rest =>
    (after_formatters rest).trans (handle_formatters linker surroundings request)

/-! ### Linkers without wrong memories -/

theorem IsNew.isSound (h : linker.IsNew) : linker.IsSound := by
  rw [IsSound, h.1]
  exact Memo.Holds.empty

namespace IsSound

theorem fetch (h : linker.IsSound) (raw : Text) :
    (linker.mappings.fetch raw fun _ => Mapping.parse raw).1 = Mapping.parse raw :=
  (Memo.Holds.fetch h (fun _ => Mapping.parse raw) rfl).1

/-- A request leads to no wrong memories. -/
theorem handle (h : linker.IsSound) (surroundings : Surroundings) (request : Request) :
    (linker.handle surroundings request).2.IsSound := by
  rw [IsSound, handle_snd]
  cases (request.inquiry? surroundings).bind fun inquiry =>
      (linker.source.answer surroundings inquiry).1 with
  | none => exact h
  | some raw => exact (Memo.Holds.fetch h (fun _ => Mapping.parse raw) rfl).2

/-- **No run leads to wrong memories.** -/
theorem after {linker : Linker} (h : linker.IsSound) :
    (history : List (Surroundings × Request)) → (linker.after history).IsSound
  | [] => h
  | (surroundings, request) :: rest => (h.handle surroundings request).after rest

/-- Without wrong memories a call is linked to by the mapping that the source declares. -/
theorem linkLast_eq_ok_iff (h : linker.IsSound) {recording : Recording} {draft : LinkDraft} :
    (linker.linkLast surroundings recording).1 = .ok draft ↔
      ∃ call method raw target link,
        recording.last = some call ∧ calledMethod surroundings call = .ok method ∧
        (linker.source.answer surroundings (.ofCall call.target method)).1 = some raw ∧
        Target.ofCall linker.base linker.formatters (Mapping.parse raw) recording.parameters call
          method = .ok target ∧
        target.toLink = .ok link ∧
        draft = ⟨target.href, target.vars,
          (linker.offer call.target method).1.affordances link⟩ := by
  rw [Linker.linkLast_eq_ok_iff]
  simp only [mapping?_eq, Option.map_eq_some_iff, h.fetch]
  constructor
  · rintro ⟨call, method, _, target, link, hlast, hmethod, ⟨raw, hraw, rfl⟩, hcall, hlink, rfl⟩
    exact ⟨call, method, raw, target, link, hlast, hmethod, hraw, hcall, hlink, rfl⟩
  · rintro ⟨call, method, raw, target, link, hlast, hmethod, hraw, hcall, hlink, rfl⟩
    exact ⟨call, method, _, target, link, hlast, hmethod, ⟨raw, hraw, rfl⟩, hcall, hlink, rfl⟩

/-- The URI and the variables of an answer are told from the mapping that the source declares. -/
theorem bare_handle (h : linker.IsSound) (surroundings : Surroundings) (request : Request) :
    bare (linker.handle surroundings request).1 =
      request.outcome linker.base linker.formatters surroundings
        ((request.inquiry? surroundings).bind fun inquiry =>
          (linker.source.answer surroundings inquiry).1) := by
  cases request with
  | whole recording =>
    simp only [Linker.handle, linkTarget, linkHandler, mapping?_eq, h.fetch, Request.inquiry?,
      Option.bind_some]
    cases (linker.source.answer surroundings (.ofType recording.target)).1 with
    | none => rfl
    | some raw => rfl
  | last recording =>
    simp only [Linker.handle, linkLast, Request.outcome]
    cases hlast : recording.lastCall with
    | error error => rfl
    | ok call =>
      rw [Except.ok_bind]
      cases hmethod : calledMethod surroundings call with
      | error error =>
        simp only [linkCall, hmethod]
        rfl
      | ok method =>
        have hcalled := called?_last.mpr ⟨lastCall_eq_ok_iff.mp hlast, hmethod⟩
        simp only [linkCall_eq linker hmethod, mapping?_eq, h.fetch, Request.inquiry?, hcalled,
          Option.map_some, Option.bind_some, Except.ok_bind]
        cases (linker.source.answer surroundings (.ofCall call.target method)).1 with
        | none => rfl
        | some raw =>
          simp only [Option.map_some, Linker.target]
          cases Target.ofCall linker.base linker.formatters (Mapping.parse raw)
            recording.parameters call method with
          | error error => rfl
          | ok target =>
            simp only [Except.ok_bind]
            cases target.toLink with
            | error error => rfl
            | ok link => rfl

end IsSound

end Signpost.Linker
