import Signpost.Proofs.Binding.Precedence
import Signpost.Proofs.Linker.Query
import Signpost.Proofs.Mapping.Fragments

/-!
# Which arguments the path of a link shows

Class-level arguments are bound to the variables of the mapping of a method one by one, whichever
fragment declares a variable. As long as there are no more of them than variables of the handler,
they stay there, and each variable shows the last text of the call under its name, else that of its
class-level argument, else itself or, for a catch-all, nothing. A further class-level argument
reaches a variable that the method alone declares, and stands in the link unless the call has a text
for it.

## Main definitions

* `Linker.fillings`: what is bound to the variables when a method is linked to.
* `Linker.typeVariables`: the variables of a handler.
* `Linker.replacement`: what a variable is replaced by.

## Main results

* `Linker.get?_fillings_eq_iff`: when class-level arguments have no part in a variable.
* `Linker.uri_linkLast_eq_fill`: the link to a method with plain fragments.
-/

namespace Signpost

namespace Linker

/-! ### How far class-level arguments reach -/

variable {linker : Linker} {surroundings : Surroundings} {call : Call} {method : Method}
  {raw : Text}

/-- What is bound to the variables of a mapping when a method is linked to, given class-level
arguments. -/
def fillings (linker : Linker) (raw : Text) (call : Call) (method : Method)
    (classLevel : List Argument) : PathBinding :=
  Slot.bindings linker.formatters (Mapping.parse raw) classLevel
    (method.parameters.zip call.arguments)

/-- The last text among the arguments of the call fills a variable, else the class-level argument at
its position does. -/
theorem get?_fillings {v : Mapping.Variable} (hv : v ∈ (Mapping.parse raw).vars)
    (classLevel : List Argument) :
    (linker.fillings raw call method classLevel).get? v.key =
      (((Given.lastTextAt? linker.formatters (Mapping.parse raw) v.key
          (method.parameters.zip call.arguments)).or
        (PathBinding.positionText? linker.formatters (Mapping.parse raw).vars classLevel v)).map
          .text).or ((linker.fillings raw call method []).get? v.key) :=
  Slot.get?_bindings_eq_or hv classLevel _

theorem get?_fillings_of_length_le {v : Mapping.Variable} (hv : v ∈ (Mapping.parse raw).vars)
    {classLevel : List Argument} (h : classLevel.length ≤ (Mapping.parse raw).vars.idxOf v) :
    (linker.fillings raw call method classLevel).get? v.key =
      (linker.fillings raw call method []).get? v.key := by
  rw [get?_fillings hv, get?_fillings hv [], PathBinding.positionText?_of_length_le h,
    PathBinding.positionText?_of_length_le (Nat.zero_le _)]
  cases Given.lastTextAt? linker.formatters (Mapping.parse raw) v.key
      (method.parameters.zip call.arguments) with
  | some text => rfl
  | none => rfl

/-- **Class-level arguments reach every variable of a mapping.** Take any linker without wrong
memories and any call. The link to it is the mapping of its method with the fillings of its
variables. A variable, whichever fragment declares it, is filled by the last text among the
arguments of the call, else by the class-level argument at its position, so that no more
class-level arguments than stand before it have no part in it. The variables of the handler stand
before each one that the method alone declares. To be filled the same whatever the class-level
arguments are, a variable has to have a text among the arguments of the call. -/
theorem get?_fillings_eq_iff (h : linker.IsSound)
    (hmethod : calledMethod surroundings call = .ok method)
    (hraw : (MappingSource.answer surroundings (.ofCall call.target method) linker.source).1 =
      some raw) :
    (∀ (target : Handler) (classLevel : List Argument) (draft : LinkDraft),
      (linker.linkLast surroundings ⟨target, classLevel, some call⟩).1 = .ok draft →
        draft.uri = linker.base.resolve (QueryPair.attach
          ((Mapping.parse raw).expand (linker.fillings raw call method classLevel).get?)
          ((method.parameters.zip call.arguments).flatMap (Given.pairs linker.formatters)))) ∧
      ∀ v ∈ (Mapping.parse raw).vars,
        let text? := Given.lastTextAt? linker.formatters (Mapping.parse raw) v.key
          (method.parameters.zip call.arguments)
        let filling (classLevel : List Argument) :=
          (linker.fillings raw call method classLevel).get? v.key
        (∀ classLevel, filling classLevel =
          ((text?.or (PathBinding.positionText? linker.formatters (Mapping.parse raw).vars
            classLevel v)).map .text).or (filling [])) ∧
          (∀ classLevel, classLevel.length ≤ (Mapping.parse raw).vars.idxOf v →
            filling classLevel = filling []) ∧
          (∀ base fragment, Mapping.IsPlain [base, fragment] → fragment ≠ [] →
            Mapping.ofFragments (some base) (some fragment) = some raw →
            v ∉ (Mapping.parse base).vars →
              (Mapping.parse base).vars.length ≤ (Mapping.parse raw).vars.idxOf v) ∧
          ((∀ classLevel, filling classLevel = filling []) ↔ text?.isSome = true) := by
  constructor
  · intro target classLevel draft hdraft
    obtain ⟨htarget, -⟩ := h.exists_target hdraft rfl hmethod hraw
    exact (Target.ofCall_eq_ok_iff.mp htarget).2.1
  · intro v hv text? filling
    refine ⟨get?_fillings hv, fun classLevel => get?_fillings_of_length_le hv,
      fun base fragment hplain hne hcombined => Mapping.length_vars_le_idxOf hplain hne hcombined,
      fun hsame => ?_, fun hsome classLevel => ?_⟩
    · rw [Option.isSome_iff_ne_none]
      intro hnone
      obtain ⟨classLevel, hne⟩ := Slot.exists_get?_bindings_ne hv hnone
      exact hne (hsame classLevel)
    · obtain ⟨text, htext⟩ := Option.isSome_iff_exists.mp hsome
      have hbound (classLevel : List Argument) : filling classLevel = some (.text text) := by
        refine (get?_fillings hv classLevel).trans ?_
        rw [show Given.lastTextAt? _ _ _ _ = some text from htext]
        rfl
      rw [hbound, hbound]

/-- A method that adds a variable to the mapping of its handler. -/
def personMethod : Method :=
  { name := "show".toList
    mapping := some "/{id}".toList
    parameters := [{ role := .path, bound := some "id".toList }] }

/-- The handler of the method; its own mapping has no variables. -/
def personHandler : Handler :=
  { type := "Person".toList, mapping := some "/people".toList, methods := [personMethod] }

/-- A call of the method. -/
def personCall (id : Argument) : Call :=
  ⟨personHandler, personHandler, "show".toList, [id]⟩

/-- A value for the variable. -/
def personValue (text : String) : Argument :=
  .scalar ⟨"string".toList, text.toList⟩

/-- The mapping of the method. -/
def personMapping : Text :=
  "/people/{id}".toList

/-- Class-level arguments have no part in the variable of a method that was given a value for it,
and they have one if it was not. -/
theorem get?_fillings_eq_iff_person :
    (∀ classLevel,
      (({} : Linker).fillings personMapping (personCall (personValue "7")) personMethod
          classLevel).get? "id".toList =
        (({} : Linker).fillings personMapping (personCall (personValue "7")) personMethod
          []).get? "id".toList) ∧
      ¬∀ classLevel,
        (({} : Linker).fillings personMapping (personCall .absent) personMethod
            classLevel).get? "id".toList =
          (({} : Linker).fillings personMapping (personCall .absent) personMethod
            []).get? "id".toList := by
  have hsound : ({} : Linker).IsSound := IsNew.isSound ⟨rfl, rfl⟩
  have hmethod (id : Argument) :
      calledMethod { handlers := ⟨[personHandler]⟩ } (personCall id) = .ok personMethod := by
    cbv
  have hraw (id : Argument) : (MappingSource.answer { handlers := ⟨[personHandler]⟩ }
      (.ofCall (personCall id).target personMethod) ({} : Linker).source).1 =
      some personMapping := by
    cbv
  have hvars : (Mapping.parse personMapping).vars = [⟨"id".toList, false⟩] := by cbv
  have hv : ⟨"id".toList, false⟩ ∈ (Mapping.parse personMapping).vars := by
    rw [hvars]
    exact List.mem_cons_self
  obtain ⟨-, -, -, hgiven⟩ :=
    (get?_fillings_eq_iff hsound (hmethod (personValue "7")) (hraw _)).2 _ hv
  obtain ⟨-, -, -, habsent⟩ := (get?_fillings_eq_iff hsound (hmethod .absent) (hraw _)).2 _ hv
  refine ⟨hgiven.mpr ?_, fun hsame => ?_⟩
  · cbv
  · have hnone : (Given.lastTextAt? {} (Mapping.parse personMapping) "id".toList
        (personMethod.parameters.zip (personCall .absent).arguments)).isSome = false := by
      cbv
    exact absurd (hnone.symm.trans (habsent.mp hsame)) (by decide)

/-- A class-level argument for which the handler has no variable stands in the link. -/
theorem uri_linkLast_person_surplus :
    let link (classLevel : List Argument) := (({} : Linker).linkLast
      { handlers := ⟨[personHandler]⟩ } ⟨personHandler, classLevel, some (personCall .absent)⟩).1
    (Mapping.parse "/people".toList).vars = [] ∧
      (link []).map (·.uri) = .ok "/people/{id}".toList ∧
      (link [personValue "x"]).map (·.uri) = .ok "/people/x".toList := by
  refine ⟨?_, ?_, ?_⟩
  · cbv
  · cbv
  · cbv

/-! ### Plain mappings -/

/-- The variables that the mapping of a handler as a whole declares. -/
def typeVariables (handlers : HandlerTable) (handler : Handler) : List Mapping.Variable :=
  (handlers.typeMapping? handler).elim [] fun base => (Mapping.parse base).vars

/-- What a variable is replaced by: the last text among the arguments of the call under its name,
else the text of its class-level argument, else nothing for a catch-all and itself otherwise. -/
def replacement (formatters : Formatters) (vars : List Mapping.Variable)
    (classLevel : List Argument) (givens : List Given) (v : Mapping.Variable) : Text :=
  ((Given.lastTextFor? formatters v givens).or
    (PathBinding.positionText? formatters vars classLevel v)).getD
      (if v.catchAll then [] else v.display)

theorem yields_replacement {v : Mapping.Variable} (hv : v ∈ (Mapping.parse raw).vars)
    (formatters : Formatters) (classLevel : List Argument) {givens : List Given}
    (hgivens : ∀ given ∈ givens, given.IsUnstored) :
    Mapping.Yields (Slot.bindings formatters (Mapping.parse raw) classLevel givens).get?
      (replacement formatters (Mapping.parse raw).vars classLevel givens) v := by
  rw [Mapping.Yields, Slot.get?_bindings_of_unstored hv classLevel hgivens, replacement,
    Mapping.Variable.absent]
  cases (Given.lastTextFor? formatters v givens).or
      (PathBinding.positionText? formatters (Mapping.parse raw).vars classLevel v) with
  | some text => exact .inl rfl
  | none =>
    cases hcatch : v.catchAll with
    | true => exact .inl rfl
    | false => exact .inr ⟨rfl, rfl, rfl⟩

/-- **The precedence of arguments.** Take any linker without wrong memories that reads
declarations, and any call that it links to. If the fragments of handler and method are plain and
there are no more class-level arguments than variables of the handler, the path of the link is the
mapping with each variable replaced by the last text among the arguments of the call under its name,
else by the text of its class-level argument, else, if it is a catch-all, by nothing. Everything
else stays, except for the slash in front of a catch-all. -/
theorem uri_linkLast_eq_fill {recording : Recording} {draft : LinkDraft} {fragment : Text}
    (h : linker.IsSound) (hsource : linker.source = .declared)
    (hdraft : (linker.linkLast surroundings recording).1 = .ok draft)
    (hcall : recording.last = some call) (hmethod : calledMethod surroundings call = .ok method)
    (hfragment : method.mapping = some fragment) (hne : fragment ≠ [])
    (hplain : Mapping.IsPlain
      ((surroundings.handlers.typeMapping? call.target).toList ++ [fragment]))
    (hnames : ∀ parameter ∈ method.parameters, ∀ name, parameter.pathName? = some name →
      Mapping.catchAllName? name = none)
    (hlength : recording.parameters.length ≤
      (typeVariables surroundings.handlers call.target).length) :
    ∃ raw, Mapping.ofFragments (surroundings.handlers.typeMapping? call.target) method.mapping =
        some raw ∧
      draft.uri = linker.base.resolve (QueryPair.attach
        (Mapping.fill (replacement linker.formatters
            (typeVariables surroundings.handlers call.target) recording.parameters
            (method.parameters.zip call.arguments)) (Mapping.chunks raw))
        ((method.parameters.zip call.arguments).flatMap (Given.pairs linker.formatters))) := by
  obtain ⟨raw, hraw, hplain', hdeclared⟩ := Mapping.exists_ofFragments hplain hne
  refine ⟨raw, hfragment ▸ hraw, ?_⟩
  have hanswer : (MappingSource.answer surroundings (.ofCall call.target method)
      linker.source).1 = some raw := by
    rw [hsource, ← hraw, ← hfragment]
    rfl
  have hgivens : ∀ given ∈ method.parameters.zip call.arguments, Given.IsUnstored given :=
    fun given hgiven => hnames given.1 (List.of_mem_zip hgiven).1
  have hpath : Given.pathOf linker.formatters (Mapping.parse raw) recording.parameters
      (method.parameters.zip call.arguments) =
      Mapping.fill (replacement linker.formatters (Mapping.parse raw).vars recording.parameters
        (method.parameters.zip call.arguments)) (Mapping.chunks raw) :=
    Mapping.expand_parse_eq_fill hplain' fun v hv => yields_replacement hv _ _ hgivens
  have hreplacement : replacement linker.formatters (Mapping.parse raw).vars recording.parameters
      (method.parameters.zip call.arguments) =
      replacement linker.formatters (typeVariables surroundings.handlers call.target)
        recording.parameters (method.parameters.zip call.arguments) := by
    funext v
    rw [replacement,
      PathBinding.positionText?_of_prefix (Mapping.vars_prefix_vars hdeclared) hlength]
    rfl
  obtain ⟨htarget, -⟩ := h.exists_target hdraft hcall hmethod hanswer
  obtain ⟨-, huri, -⟩ := Target.ofCall_eq_ok_iff.mp htarget
  rw [← hreplacement, ← hpath]
  exact huri

/-- A method that repeats a variable of its handler and adds a catch-all. -/
def filesMethod : Method :=
  { name := "files".toList
    mapping := some "/{id}/files/{*path}".toList
    parameters := [{ role := .path, bound := some "path".toList },
      { role := .path, bound := some "id".toList }] }

/-- The handler of the method. -/
def filesHandler : Handler :=
  { type := "Group".toList, mapping := some "/groups/{id}/".toList, methods := [filesMethod] }

/-- A call of the method without its second argument. -/
def filesCall : Call :=
  ⟨filesHandler, filesHandler, "files".toList, [personValue "a b//c", .absent]⟩

/-- What the call is linked to. -/
def filesDraft : LinkDraft :=
  { uri := "/groups/7/7/files/a%20b/c".toList
    affordances := Affordance.ofMethod filesMethod { href := "/groups/7/7/files/a%20b/c".toList } }

/-- A linker that reads declarations. -/
def declaredLinker : Linker :=
  { source := .declared }

theorem isPlain_files :
    Mapping.IsPlain ["/groups/{id}/".toList, "/{id}/files/{*path}".toList] := by
  have hbase : Mapping.chunks "/groups/{id}/".toList =
      "/groups/".toList.map (fun c => Mapping.Chunk.literal [c]) ++
        [.token "id".toList, .literal ['/']] := by
    cbv
  have hfragment : Mapping.chunks "/{id}/files/{*path}".toList =
      .literal ['/'] :: .token "id".toList ::
        "/files/".toList.map (fun c => Mapping.Chunk.literal [c]) ++ [.token "*path".toList] := by
    cbv
  have hdeclared : ["/groups/{id}/".toList, "/{id}/files/{*path}".toList].flatMap
      Mapping.declared = [⟨"id".toList, false⟩, ⟨"id".toList, false⟩, ⟨"path".toList, true⟩] := by
    cbv
  constructor
  · rw [List.forall_mem_cons, List.forall_mem_singleton, hbase, hfragment]
    decide
  · rw [hdeclared]
    decide

/-- The class-level argument takes the place of the variable that the call leaves out, in both
fragments; the argument of the call takes that of the catch-all. -/
theorem uri_linkLast_eq_fill_files :
    (declaredLinker.linkLast { handlers := ⟨[filesHandler]⟩ }
        ⟨filesHandler, [personValue "7"], some filesCall⟩).1 = .ok filesDraft ∧
      filesDraft.uri = "/groups/7/7/files/a%20b/c".toList := by
  have hdraft : (declaredLinker.linkLast { handlers := ⟨[filesHandler]⟩ }
      ⟨filesHandler, [personValue "7"], some filesCall⟩).1 = .ok filesDraft := by
    cbv
  have hmethod : calledMethod { handlers := ⟨[filesHandler]⟩ } filesCall = .ok filesMethod := by
    cbv
  have hmapping : HandlerTable.typeMapping? ⟨[filesHandler]⟩ filesCall.target =
      some "/groups/{id}/".toList := by
    cbv
  obtain ⟨raw, hraw, huri⟩ := uri_linkLast_eq_fill (IsNew.isSound ⟨rfl, rfl⟩) rfl hdraft rfl hmethod
    rfl (List.cons_ne_nil _ _) (hmapping ▸ isPlain_files) (by decide) (by cbv)
  have hraw' : Mapping.ofFragments (some "/groups/{id}/".toList) filesMethod.mapping =
      some "/groups/{id}/{id}/files/{*path}".toList := by
    cbv
  rw [hmapping, hraw'] at hraw
  obtain rfl := Option.some_inj.mp hraw
  exact ⟨hdraft, huri.trans (by cbv)⟩

end Linker

end Signpost
