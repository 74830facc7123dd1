import Mathlib
import Signpost.Proofs.Binding.Call
import Signpost.Proofs.Linker.Run

/-!
# The query of a link to a call

A client reads the query of a link by cutting it at ampersands and at equality signs and decoding
what is between them. It then finds the query arguments of the call, in the order in which their
parameters are declared: nothing is lost, changed or added, whatever characters names and values
have.

## Main results

* `Linker.readQuery?_linkLast`: what the query of a link reads as.
-/

namespace Signpost.Linker

variable {linker : Linker} {surroundings : Surroundings} {recording : Recording}
  {draft : LinkDraft} {call : Call} {method : Method} {raw : Text}

/-- What is known of a link that a linker without wrong memories made of a call: its arguments can
be bound, and its href and its variables are told argument by argument. -/
theorem IsSound.exists_target (hsound : linker.IsSound)
    (h : (linker.linkLast surroundings recording).1 = .ok draft)
    (hcall : recording.last = some call) (hmethod : calledMethod surroundings call = .ok method)
    (hraw : (MappingSource.answer surroundings (.ofCall call.target method) linker.source).1 =
      some raw) :
    Target.ofCall linker.base linker.formatters (Mapping.parse raw) recording.parameters call
        method = .ok ⟨draft.uri, draft.vars⟩ ∧
      ∃ link, Target.toLink ⟨draft.uri, draft.vars⟩ = .ok link := by
  obtain ⟨call', method', raw', target, link, hcall', hmethod', hraw', htarget, hlink, rfl⟩ :=
    hsound.linkLast_eq_ok_iff.mp h
  obtain rfl := Option.some_inj.mp (hcall.symm.trans hcall')
  obtain rfl := Except.ok.inj (hmethod.symm.trans hmethod')
  obtain rfl := Option.some_inj.mp (hraw.symm.trans hraw')
  exact ⟨htarget, link, hlink⟩

/-- **The query of a link carries exactly the query arguments.** Take any linker over a base that
was read, with any memories it has gathered, and any call that it links to by a mapping without a
question mark. The query of the link reads as what the query arguments of the call carry, in the
order of their parameters, and the link has no question mark if they carry nothing. -/
theorem readQuery?_linkLast (hnew : linker.IsNew) (hbase : linker.base.IsRead)
    {history : List (Surroundings × Request)}
    (h : ((linker.after history).linkLast surroundings recording).1 = .ok draft)
    (hcall : recording.last = some call) (hmethod : calledMethod surroundings call = .ok method)
    (hraw : (MappingSource.answer surroundings (.ofCall call.target method)
      (linker.after history).source).1 = some raw)
    (hquery : '?' ∉ raw) :
    let carried :=
      (method.parameters.zip call.arguments).flatMap (Given.carried linker.formatters)
    readQuery? draft.uri = some carried ∧ (carried = [] → '?' ∉ draft.uri) := by
  intro carried
  obtain ⟨htarget, -⟩ := (hnew.isSound.after history).exists_target h hcall hmethod hraw
  rw [after_base, after_formatters] at htarget
  obtain ⟨hbindable, hhref, -⟩ := Target.ofCall_eq_ok_iff.mp htarget
  change draft.uri = _ at hhref
  have hdisplay : '?' ∉ linker.base.display := hbase.notMem_display (.inl rfl)
  have hpath := Given.notMem_pathOf (.inl rfl) hquery linker.formatters recording.parameters
    (method.parameters.zip call.arguments)
  have hreading := Given.map_reading_flatMap_pairs hbindable
  refine ⟨?_, fun hnil => ?_⟩
  · rw [hhref, Target.hrefOf, QueryPair.readQuery?_resolve_attach hdisplay hpath
      fun pair => Given.wellFormed_of_mem_flatMap_pairs, hreading]
  · have hpairs : (method.parameters.zip call.arguments).flatMap
        (Given.pairs linker.formatters) = [] :=
      List.map_eq_nil_iff.mp (hreading.trans hnil)
    rw [hhref, Target.hrefOf, hpairs]
    exact QueryPair.notMem_resolve_attach_nil hdisplay hpath

/-! ### A search -/

/-- A method with a query parameter that takes a collection and an optional one. -/
def searchMethod : Method :=
  { name := "search".toList
    mapping := some "/people".toList
    parameters := [{ role := .query, bound := some "name".toList },
      { role := .query, bound := some "page".toList, demanded := false }] }

/-- The handler of searches. -/
def searchHandler : Handler :=
  { type := "Search".toList, methods := [searchMethod] }

/-- A search for two names of which one holds the separators of a query. -/
def searchCall : Call :=
  ⟨searchHandler, searchHandler, "search".toList,
    [.collection [⟨"string".toList, "a&b=c".toList⟩, ⟨"string".toList, "{d}".toList⟩], .absent]⟩

theorem readQuery?_linkLast_search :
    let surroundings : Surroundings := { handlers := ⟨[searchHandler]⟩ }
    let recording : Recording := ⟨searchHandler, [], some searchCall⟩
    ∃ draft, (({} : Linker).linkLast surroundings recording).1 = .ok draft ∧
      readQuery? draft.uri =
        some [("name".toList, .text "a&b=c".toList), ("name".toList, .text "{d}".toList)] := by
  intro surroundings recording
  have hdraft : (({} : Linker).linkLast surroundings recording).1 = .ok
      ⟨"/people?name=a%26b%3Dc&name=%7Bd%7D".toList, [⟨"page".toList, .queryContinued, false⟩],
        Affordance.ofMethod searchMethod
          { href := "/people?name=a%26b%3Dc&name=%7Bd%7D".toList
            vars := [⟨"page".toList, .queryContinued, false⟩] }⟩ := by
    cbv
  have hnew : ({} : Linker).IsNew := ⟨rfl, rfl⟩
  have hmethod : calledMethod surroundings searchCall = .ok searchMethod := by cbv
  have hraw : (MappingSource.answer surroundings (.ofCall searchHandler searchMethod)
      (({} : Linker).after []).source).1 = some "/people".toList := by
    cbv
  have hstart : ((({} : Linker).after []).linkLast surroundings recording).1 = _ := hdraft
  exact ⟨_, hdraft,
    (readQuery?_linkLast hnew (.inl rfl) hstart rfl hmethod hraw (by decide)).1⟩

end Signpost.Linker
