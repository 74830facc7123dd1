import Signpost.Mapping.Source
import Signpost.Proofs.Memo

/-!
# Remembered answers about mappings

The key of a question tells its kind, the type of the handler and, for a method, its name and the
fragment declared for it. The declarations of the handlers are all that an answer depends on
besides, so that questions under one key about one handler have one answer. A stack that remembers
answers looks each question up in a memo table whose entries come from the stack below.

## Main definitions

* `Inquiry.handler`: the handler a question is about.
* `MappingSource.resolved`: declarations with their placeholders replaced.

## Main results

* `MappingSource.answer_resolved_congr`: the key and the handler determine the answer.
* `MappingSource.answer_caching`: a remembering stack answers by one look-up.
-/

namespace Signpost

/-- The handler a question is about. -/
def Inquiry.handler : Inquiry → Handler
  | ofType handler | ofMethod handler _ | ofCall handler _ => handler

theorem Inquiry.type_handler_of_key_eq {i j : Inquiry} (h : i.key = j.key) :
    i.handler.type = j.handler.type := by
  cases i <;> cases j <;> simp_all [Inquiry.key, Inquiry.handler]

namespace MappingSource

/-- The stack that replaces placeholders in declarations and remembers nothing. -/
def resolved (placeholders : PlaceholderSource) : MappingSource :=
  resolving placeholders declared

theorem declaredAnswer?_congr {i j : Inquiry} (handlers : HandlerTable) (hkey : i.key = j.key)
    (hhandler : i.handler = j.handler) :
    declaredAnswer? handlers i = declaredAnswer? handlers j := by
  cases i <;> cases j <;> simp_all [Inquiry.key, Inquiry.handler, declaredAnswer?]

theorem answer_resolved (surroundings : Surroundings) (placeholders : PlaceholderSource)
    (inquiry : Inquiry) :
    answer surroundings inquiry (resolved placeholders) =
      ((declaredAnswer? surroundings.handlers inquiry).map
          (Placeholder.resolve (placeholders.value? surroundings)),
        resolved placeholders) :=
  rfl

/-- Questions under one key about one handler have one answer, as long as neither the handlers nor
the values of placeholders change. -/
theorem answer_resolved_congr {a b : Surroundings} {placeholders : PlaceholderSource}
    {i j : Inquiry} (hhandlers : a.handlers = b.handlers)
    (hvalue : placeholders.value? a = placeholders.value? b) (hkey : i.key = j.key)
    (hhandler : i.handler = j.handler) :
    (answer a i (resolved placeholders)).1 = (answer b j (resolved placeholders)).1 := by
  rw [answer_resolved, answer_resolved, hhandlers, hvalue,
    declaredAnswer?_congr b.handlers hkey hhandler]

/-- A remembering stack answers by one look-up, with the answer of the stack below if there is none
at hand. -/
theorem answer_caching {surroundings : Surroundings} {inquiry : Inquiry} {inner : MappingSource}
    (memo : Memo InquiryKey (Option Text))
    (hinner : (answer surroundings inquiry inner).2 = inner) :
    answer surroundings inquiry (caching memo inner) =
      let found := memo.fetch inquiry.key fun _ => (answer surroundings inquiry inner).1
      (found.1, caching found.2 inner) := by
  rw [answer]
  cases h : memo.find? inquiry.key with
  | none =>
    rw [Memo.fetch_of_find?_eq_none h]
    simp only [hinner]
  | some mapping? => rw [Memo.fetch_of_find?_eq_some h]

end MappingSource

end Signpost
