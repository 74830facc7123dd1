import Signpost.Proofs.Linker.Query
import Signpost.Proofs.Uri.Authority

/-!
# The server that a link to a call leads to

A link against a base that names a server leads to that server, whatever the mapping and the
arguments are. A link against a base that names none begins with a slash and leads to the server it
was found on, unless it begins with two: an argument that is empty, in front of a slash of the
mapping, lets the next argument name a server. This cannot happen where the mapping begins with a
slash and an ordinary character.

## Main results

* `Linker.authority_linkLast`: how a link to a call begins.
-/

namespace Signpost

/-- Pairs behind a path do not make it name a server. -/
theorem QueryPair.isNetworkPath_attach_iff {path : Text} {pairs : List QueryPair} :
    Uri.IsNetworkPath (attach path pairs) ↔ Uri.IsNetworkPath path := by
  rw [attach]
  by_cases hpairs : pairs = []
  · rw [if_pos hpairs]
  · rw [if_neg hpairs]
    refine Uri.isNetworkPath_append_iff ?_
    by_cases hquery : '?' ∈ path
    · rw [if_pos hquery, List.head?_cons]
      simp
    · rw [if_neg hquery, List.head?_cons]
      simp

namespace Linker

variable {linker : Linker} {surroundings : Surroundings} {recording : Recording}
  {draft : LinkDraft} {call : Call} {method : Method} {raw : Text}

/-- **The server that a link to a call leads to.** Take any linker over a base that was read, with
any memories it has gathered, and any call that it links to. If the base names a server, the link
is that server with a path, a query or a fragment behind it. If the base names none, the link begins
with a slash; it names a server itself exactly if the context path does, or if there is none and the
path that the arguments make of the mapping does. A mapping that begins with a slash and an ordinary
character makes no such path. -/
theorem authority_linkLast (hnew : linker.IsNew) (hbase : linker.base.IsRead)
    {history : List (Surroundings × Request)}
    (h : ((linker.after history).linkLast surroundings recording).1 = .ok draft)
    (hcall : recording.last = some call) (hmethod : calledMethod surroundings call = .ok method)
    (hraw : (MappingSource.answer surroundings (.ofCall call.target method)
      (linker.after history).source).1 = some raw) :
    let path := Given.pathOf linker.formatters (Mapping.parse raw) recording.parameters
      (method.parameters.zip call.arguments)
    (∀ scheme authority, linker.base.origin = some (scheme, authority) →
      ∃ rest, draft.uri = scheme ++ "://".toList ++ authority ++ rest ∧
        BaseUri.startsComponent rest = true) ∧
      (linker.base.origin = none → draft.uri.head? = some '/' ∧
        (Uri.IsNetworkPath draft.uri ↔ Uri.IsNetworkPath linker.base.contextPath ∨
          linker.base.contextPath = [] ∧ Uri.IsNetworkPath path)) ∧
      (Mapping.IsAnchored raw → ¬Uri.IsNetworkPath path) := by
  intro path
  obtain ⟨htarget, -⟩ := (hnew.isSound.after history).exists_target h hcall hmethod hraw
  rw [after_base, after_formatters] at htarget
  obtain ⟨-, hhref, -⟩ := Target.ofCall_eq_ok_iff.mp htarget
  change draft.uri = _ at hhref
  rw [hhref, Target.hrefOf]
  refine ⟨fun scheme authority horigin => ?_, fun horigin => ⟨?_, ?_⟩, fun hanchored => ?_⟩
  · exact hbase.exists_resolve_eq horigin _
  · exact BaseUri.head?_resolve horigin _
  · rw [hbase.isNetworkPath_resolve_iff horigin, QueryPair.isNetworkPath_attach_iff]
  · exact hanchored.not_prefix_expand _

/-! ### A pair of segments -/

/-- A method whose mapping consists of two variables. -/
def pairMethod : Method :=
  { name := "show".toList
    mapping := some "/{a}/{b}".toList
    parameters := [{ role := .path, bound := some "a".toList },
      { role := .path, bound := some "b".toList }] }

/-- The handler of the method. -/
def pairHandler : Handler :=
  { type := "Pair".toList, methods := [pairMethod] }

/-- A call of the method. -/
def pairCall (a b : Text) : Call :=
  ⟨pairHandler, pairHandler, "show".toList,
    [.scalar ⟨"string".toList, a⟩, .scalar ⟨"string".toList, b⟩]⟩

/-- A linker over a base that names a server. -/
def serverLinker : Linker :=
  { base := ⟨some ("https".toList, "api.example".toList), "/v1".toList⟩ }

theorem authority_linkLast_pair :
    let surroundings : Surroundings := { handlers := ⟨[pairHandler]⟩ }
    let recording : Recording := ⟨pairHandler, [], some (pairCall [] "other.example".toList)⟩
    ∃ draft, (serverLinker.linkLast surroundings recording).1 = .ok draft ∧
      ∃ rest, draft.uri = "https".toList ++ "://".toList ++ "api.example".toList ++ rest ∧
        BaseUri.startsComponent rest = true := by
  intro surroundings recording
  have hdraft : (serverLinker.linkLast surroundings recording).1 = .ok
      ⟨"https://api.example/v1//other.example".toList, [], Affordance.ofMethod pairMethod
        { href := "https://api.example/v1//other.example".toList }⟩ := by
    cbv
  have hnew : serverLinker.IsNew := ⟨rfl, rfl⟩
  have hbase : serverLinker.base.IsRead := .inr ⟨"https://api.example/v1/".toList, rfl⟩
  have hmethod : calledMethod surroundings (pairCall [] "other.example".toList) =
      .ok pairMethod := by
    cbv
  have hraw : (MappingSource.answer surroundings (.ofCall pairHandler pairMethod)
      (serverLinker.after []).source).1 = some "/{a}/{b}".toList := by
    cbv
  have hstart : ((serverLinker.after []).linkLast surroundings recording).1 = _ := hdraft
  exact ⟨_, hdraft, (authority_linkLast hnew hbase hstart rfl hmethod hraw).1 _ _ rfl⟩

theorem isNetworkPath_linkLast_pair :
    let surroundings : Surroundings := { handlers := ⟨[pairHandler]⟩ }
    let recording : Recording := ⟨pairHandler, [], some (pairCall [] "other.example".toList)⟩
    ∃ draft, (({} : Linker).linkLast surroundings recording).1 = .ok draft ∧
      BaseUri.isAbsolute ({} : Linker).base = false ∧ Uri.IsNetworkPath draft.uri := by
  intro surroundings recording
  have hdraft : (({} : Linker).linkLast surroundings recording).1 = .ok
      ⟨"//other.example".toList, [], Affordance.ofMethod pairMethod
        { href := "//other.example".toList }⟩ := by
    cbv
  exact ⟨_, hdraft, rfl, by decide⟩

end Linker

end Signpost
