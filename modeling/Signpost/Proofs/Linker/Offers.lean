import Mathlib
import Signpost.Proofs.Linker.Run

/-!
# Whose offer a link advertises

A linker remembers the offer of a method under the type of the target and the name of the method.
Two methods of one name that are called on one target share the key, although they may be declared
by different handlers, as those of a parent and a child are. The first one that was linked to then
lends its offer to the other. A link advertises what its own method offers exactly if no method with
another offer came first.

## Main definitions

* `Linker.offered`: the methods whose links were made in a run, under their keys.
* `Linker.family`: a child that hides a method of its parent, as an example.

## Main results

* `Linker.find?_offers_after`: the offers that a run leaves behind.
* `Linker.affordances_eq_iff`: when a link advertises what its method offers.
-/

namespace Signpost

/-! ### Offers and the operations they make -/

theorem Method.answers_ne_nil (method : Method) : method.answers ≠ [] := by
  rw [answers]
  split
  · exact List.cons_ne_nil _ _
  · assumption

/-- The operations on a link tell the offer they were made from. -/
theorem Offer.affordances_inj {a b : Offer} {link : Link} (hverbs : b.verbs ≠ [])
    (h : a.affordances link = b.affordances link) : a = b := by
  have hverbs' : a.verbs = b.verbs := by
    have := congrArg (List.map Affordance.verb) h
    simpa [affordances, Function.comp_def] using this
  obtain ⟨verb, verbs, hcons⟩ := List.exists_cons_of_ne_nil hverbs
  rw [affordances, affordances, hverbs', hcons, List.map_cons, List.map_cons] at h
  have hhead := (List.cons.inj h).1
  simp only [Affordance.mk.injEq] at hhead
  obtain ⟨hname, -, -, hinput, houtput, hquery, hconsumes⟩ := hhead
  cases a
  cases b
  simp_all

namespace Linker

/-! ### Offers after a run -/

/-- The method whose link a request made, under the key of its offer. -/
def offeredBy (linker : Linker) (surroundings : Surroundings) (request : Request) :
    List ((Text × Text) × Method) :=
  match (linker.handle surroundings request).1, request.called? surroundings with
  | .ok _, some (call, method) => [((call.target.type, method.name), method)]
  | _, _ => []

/-- The methods whose links a run made, under the keys of their offers and in the order of the
requests. -/
def offered (linker : Linker) : List (Surroundings × Request) → List ((Text × Text) × Method)
  | [] => []
  | (surroundings, request) :: rest =>
    linker.offeredBy surroundings request ++
      (linker.handle surroundings request).2.offered rest

variable {linker : Linker} {surroundings : Surroundings}

theorem find?_offers_handle (linker : Linker) (surroundings : Surroundings) (request : Request)
    (key : Text × Text) :
    (linker.handle surroundings request).2.offers.find? key =
      (linker.offers.find? key).or
        (((linker.offeredBy surroundings request).lookup key).map Offer.ofMethod) := by
  rw [handle_snd, offeredBy]
  cases (linker.handle surroundings request).1 with
  | error error => simp
  | ok draft =>
    cases request.called? surroundings with
    | none => simp
    | some called =>
      obtain ⟨call, method⟩ := called
      simp only [recollect, Memo.find?_fetch]
      by_cases hkey : key = (call.target.type, method.name)
      · rw [if_pos hkey, hkey]
        cases linker.offers.find? (call.target.type, method.name) with
        | none => simp
        | some offer => simp
      · rw [if_neg hkey]
        have hbeq : (key == (call.target.type, method.name)) = false := by simpa using hkey
        simp [List.lookup_cons, hbeq]

/-- Behind a run the offer under a key is the one remembered before, else that of the first method
linked to under the key. -/
theorem find?_offers_after (linker : Linker) (key : Text × Text) :
    (history : List (Surroundings × Request)) →
    (linker.after history).offers.find? key =
      (linker.offers.find? key).or (((linker.offered history).lookup key).map Offer.ofMethod)
  | [] => by simp [after, offered]
  | (surroundings, request) :: rest => by
    rw [after, find?_offers_after _ key rest, find?_offers_handle, offered, List.lookup_append,
      Option.map_or, Option.or_assoc]

/-- **A link advertises what its method offers exactly if no other offer came first.** After any run
of a new linker, the operations of a link to a call are those of the called method if and only if
the first method that was linked to under the same type of target and the same name offers the
same. -/
theorem affordances_eq_iff (hnew : linker.IsNew) {history : List (Surroundings × Request)}
    {recording : Recording} {draft : LinkDraft}
    (h : ((linker.after history).linkLast surroundings recording).1 = .ok draft) :
    ∃ call method link,
      recording.last = some call ∧ calledMethod surroundings call = .ok method ∧
      Target.toLink ⟨draft.uri, draft.vars⟩ = .ok link ∧
      (draft.affordances = Affordance.ofMethod method link ↔
        ∀ first, (linker.offered history).lookup (call.target.type, method.name) = some first →
          Offer.ofMethod first = Offer.ofMethod method) := by
  have hsound := hnew.isSound.after history
  obtain ⟨call, method, raw, target, link, hlast, hmethod, -, -, hlink, rfl⟩ :=
    hsound.linkLast_eq_ok_iff.mp h
  refine ⟨call, method, link, hlast, hmethod, hlink, ?_⟩
  have hfind := find?_offers_after linker (call.target.type, method.name) history
  have hempty : linker.offers.find? (call.target.type, method.name) = none := by
    rw [hnew.2]
    rfl
  rw [hempty, Option.none_or] at hfind
  simp only [offer, Memo.fetch_fst, hfind, Affordance.ofMethod]
  cases (linker.offered history).lookup (call.target.type, method.name) with
  | none => simp
  | some first =>
    simp only [Option.map_some, Option.getD_some, Option.some_inj, forall_eq']
    constructor
    · exact Offer.affordances_inj (Method.answers_ne_nil method)
    · intro heq
      rw [heq]

/-! ### A child and its parent -/

/-- A method that its verb and its mapping tell from others of its name. -/
def showBy (verb : Verb) (mapping : Text) : Method :=
  { name := "show".toList, mapping := some mapping, verbs := [verb] }

/-- A handler that is inherited from. -/
def parentHandler : Handler :=
  { type := "Parent".toList, methods := [showBy .get "/parent".toList] }

/-- A handler with a method under the name of one that it inherits. -/
def childHandler : Handler :=
  { type := "Child".toList
    parent := some "Parent".toList
    methods := [showBy .post "/child".toList] }

/-- The two handlers as what answers are drawn from. -/
def family : Surroundings :=
  { handlers := ⟨[childHandler, parentHandler]⟩ }

/-- The method under the shared name that `declaring` declares, called on a child. -/
def showOf (declaring : Handler) : Recording :=
  ⟨childHandler, [], some ⟨childHandler, declaring, "show".toList, []⟩⟩

/-- The method of the child that was linked to first is advertised as it is when it is linked to
again. -/
theorem affordances_eq_of_linked_first :
    ∃ draft link,
      ((({} : Linker).after [(family, .last (showOf childHandler))]).linkLast family
          (showOf childHandler)).1 = .ok draft ∧
        Target.toLink ⟨draft.uri, draft.vars⟩ = .ok link ∧
        draft.affordances = Affordance.ofMethod (showBy .post "/child".toList) link := by
  have hdraft : ((({} : Linker).after [(family, .last (showOf childHandler))]).linkLast family
      (showOf childHandler)).1 = .ok ⟨"/child".toList, [],
        Affordance.ofMethod (showBy .post "/child".toList) { href := "/child".toList }⟩ := by
    cbv
  have hnew : ({} : Linker).IsNew := ⟨rfl, rfl⟩
  obtain ⟨call, method, link, hlast, hmethod, hlink, hiff⟩ := affordances_eq_iff hnew hdraft
  obtain rfl : _ = call := Option.some_inj.mp hlast
  obtain rfl : showBy .post "/child".toList = method := by
    have hshow : calledMethod family ⟨childHandler, childHandler, "show".toList, []⟩ =
        .ok (showBy .post "/child".toList) := by cbv
    exact Except.ok.inj (hshow.symm.trans hmethod)
  refine ⟨_, link, hdraft, hlink, hiff.mpr fun first hfirst => ?_⟩
  have hoffered : ((({} : Linker).offered [(family, .last (showOf childHandler))]).lookup
      ("Child".toList, "show".toList)) = some (showBy .post "/child".toList) := by cbv
  rw [← Option.some_inj.mp (hoffered.symm.trans hfirst)]

/-- The method that the child inherits is advertised with the verb of the one that hides it, once
that one was linked to. -/
theorem affordances_ne_of_linked_before :
    ∃ draft method link,
      ((({} : Linker).after [(family, .last (showOf childHandler))]).linkLast family
          (showOf parentHandler)).1 = .ok draft ∧
        calledMethod family ⟨childHandler, parentHandler, "show".toList, []⟩ = .ok method ∧
        Target.toLink ⟨draft.uri, draft.vars⟩ = .ok link ∧
        draft.affordances ≠ Affordance.ofMethod method link := by
  refine ⟨⟨"/parent".toList, [], Affordance.ofMethod (showBy .post "/child".toList)
    { href := "/parent".toList }⟩, showBy .get "/parent".toList, { href := "/parent".toList },
    by cbv, by cbv, by cbv, by decide⟩

end Linker

end Signpost
