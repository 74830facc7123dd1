import Signpost.Proofs.Linker.Precedence
import Signpost.Proofs.Mapping.Tracing

/-!
# What becomes of the path arguments of a call

The argument of a parameter of the path is bound under the key of the variable the parameter is named
like, and stands in the link wherever the stored mapping has a token of this variable. A parameter
that is named like no variable is bound under its own name, where nothing looks for it, so that its
argument has no influence on the link.

## Main results

* `Given.lastTextAt?_append`: the last text for a key.
* `Given.pathOf_replace`: an argument without influence on the path.
* `Linker.uri_linkLast_pathArgument`: where the argument of a parameter of the path stands.
-/

namespace Signpost

namespace Given

variable {formatters : Formatters} {raw : Text} {v : Mapping.Variable} {given : Given}
  {before after : List Given} {classLevel : List Argument} {key name text : Text}
  {parameter : Parameter}

/-! ### Arguments for a variable -/

theorem textAt?_of_pathName? (hv : v ∈ (Mapping.parse raw).vars)
    (hname : given.1.pathName? = some v.name) :
    given.textAt? formatters (Mapping.parse raw) v.key =
      PathBinding.text? formatters v given.2 := by
  have hvariable : PathBinding.variableFor (Mapping.parse raw) v.name = v := by
    rw [PathBinding.variableFor, Mapping.find?_name hv, Option.getD_some]
  rw [textAt?, hname, Option.bind_some, hvariable, if_pos rfl]

/-- An argument under another name than those of a variable is not for it. -/
theorem textAt?_eq_none (hv : v ∈ (Mapping.parse raw).vars)
    (hname : given.1.pathName? ≠ some v.name) (hkey : given.1.pathName? ≠ some v.key) :
    given.textAt? formatters (Mapping.parse raw) v.key = none := by
  rw [textAt?, Option.bind_eq_none_iff]
  intro other hother
  refine if_neg fun hsame => ?_
  rw [PathBinding.variableFor] at hsame
  cases hfind : (Mapping.parse raw).find? other with
  | some w =>
    rw [hfind, Option.getD_some] at hsame
    obtain rfl := Mapping.eq_of_key_eq hv (List.mem_of_find?_eq_some hfind) hsame
    have hfound : v.name = other := by simpa using List.find?_some hfind
    exact hname (hfound ▸ hother)
  | none =>
    rw [hfind, Option.getD_none] at hsame
    exact hkey (hsame ▸ hother)

/-- The last text for a key is that of an argument behind which no other one is for the key. -/
theorem lastTextAt?_append {mapping : Mapping} (h : given.textAt? formatters mapping key = some text)
    (hafter : ∀ other ∈ after, textAt? formatters mapping key other = none) :
    lastTextAt? formatters mapping key (before ++ given :: after) = some text := by
  rw [lastTextAt?, List.filterMap_append, List.filterMap_cons, h,
    List.filterMap_eq_nil_iff.mpr hafter]
  exact List.getLast?_concat

/-! ### Arguments for no variable -/

/-- A parameter that is named like no variable is bound under its own name. -/
theorem pathKey?_of_not_isNameOf (hname : parameter.pathName? = some name)
    (h : ¬Mapping.IsNameOf (Mapping.parse raw).vars name) :
    Slot.pathKey? (Mapping.parse raw) parameter = some name := by
  have hnone : (Mapping.parse raw).find? name = none := by
    rw [Mapping.find?, List.find?_eq_none]
    exact fun v hv hsame => h ⟨v, hv, .inl (by simpa using Eq.symm (of_decide_eq_true hsame))⟩
  rw [Parameter.pathName?] at hname
  split at hname
  · rename_i hrole
    rw [Slot.pathKey?, if_pos hrole, hname, Option.map_some, PathBinding.variableFor, hnone]
    rfl
  · exact absurd hname (by simp)

/-- Another argument changes nothing but what is bound under its key. -/
theorem get?_bindings_replace {mapping : Mapping} (h : Slot.pathKey? mapping parameter ≠ some key)
    (argument other : Argument) :
    (Slot.bindings formatters mapping classLevel (before ++ (parameter, other) :: after)).get? key =
      (Slot.bindings formatters mapping classLevel
        (before ++ (parameter, argument) :: after)).get? key := by
  simp only [Slot.bindings, PathBinding.get?_complete, List.foldl_append, List.foldl_cons,
    get?_foldl_bindPath, Slot.get?_bindPath_of_ne (parameter, _) h]

/-- The argument of a parameter that is named like no variable has no influence on the path. -/
theorem pathOf_replace (hname : parameter.pathName? = some name)
    (h : ¬Mapping.IsNameOf (Mapping.parse raw).vars name) (argument other : Argument) :
    pathOf formatters (Mapping.parse raw) classLevel (before ++ (parameter, other) :: after) =
      pathOf formatters (Mapping.parse raw) classLevel
        (before ++ (parameter, argument) :: after) := by
  refine List.flatMap_congr fun chunk hchunk => ?_
  cases chunk with
  | literal text => rfl
  | token content =>
    have hkey := Mapping.tokenKey_ne h (Mapping.mem_tokens_iff.mpr hchunk)
    have hpath : Slot.pathKey? (Mapping.parse raw) parameter ≠
        some ((Mapping.parse raw).tokenKey content) := by
      rw [pathKey?_of_not_isNameOf hname h]
      exact fun hsame => hkey (Option.some_inj.mp hsame).symm
    have hsame : (Slot.bindings formatters (Mapping.parse raw) classLevel
        (before ++ (parameter, other) :: after)).get? ((Mapping.parse raw).tokenKey content) =
        (Slot.bindings formatters (Mapping.parse raw) classLevel
          (before ++ (parameter, argument) :: after)).get? ((Mapping.parse raw).tokenKey content) :=
      get?_bindings_replace hpath argument other
    rw [Slot.bindings, Slot.bindings] at hsame
    rw [Mapping.substitute_token, Mapping.substitute_token, hsame]

end Given

namespace Target

variable {base : BaseUri} {formatters : Formatters} {raw : Text} {classLevel : List Argument}
  {call : Call} {method : Method} {target : Target} {before after : List Given}
  {parameter : Parameter} {argument : Argument} {name : Text}

/-- Position by position, replacing an argument replaces it alone. -/
theorem zip_set_arguments {parameters : List Parameter} {arguments : List Argument}
    (hgivens : parameters.zip arguments = before ++ (parameter, argument) :: after)
    (other : Argument) :
    parameters.zip (arguments.set before.length other) =
      before ++ (parameter, other) :: after := by
  obtain ⟨front, rest, front', rest', hlength, rfl, rfl, rfl, hrest⟩ :=
    List.zip_eq_append_iff.mp hgivens
  obtain ⟨rest, rest', rfl, rfl, rfl⟩ := List.zip_eq_cons_iff.mp hrest.symm
  have hplace : (front.zip front').length = front'.length := by simp [hlength]
  rw [hplace, List.set_append_right _ _ (Nat.le_refl _), Nat.sub_self, List.set_cons_zero,
    List.zip_append hlength, List.zip_cons_cons]

/-- The argument of a parameter that is named like no variable has no influence on a target. -/
theorem ofCall_set_arguments
    (h : ofCall base formatters (Mapping.parse raw) classLevel call method = .ok target)
    (hgivens : method.parameters.zip call.arguments = before ++ (parameter, argument) :: after)
    (hname : parameter.pathName? = some name)
    (hforeign : ¬Mapping.IsNameOf (Mapping.parse raw).vars name) (other : Argument) :
    ofCall base formatters (Mapping.parse raw) classLevel
      { call with arguments := call.arguments.set before.length other } method = .ok target := by
  obtain ⟨hbindable, hhref, hvars⟩ := ofCall_eq_ok_iff.mp h
  have hrole : parameter.role = .path := by
    by_contra hrole
    rw [Parameter.pathName?, if_neg hrole] at hname
    exact absurd hname (by simp)
  have hquery : parameter.queryName? = none := if_neg (by rw [hrole]; decide)
  have hnopairs (argument : Argument) : Given.pairs formatters (parameter, argument) = [] := by
    rw [Given.pairs, hquery]
  have hnoname (argument : Argument) : Given.omitted formatters (parameter, argument) = [] := by
    rw [Given.omitted, hquery]
  rw [ofCall_eq_ok_iff, zip_set_arguments hgivens]
  rw [hgivens] at hbindable hhref hvars
  refine ⟨?_, ?_, ?_⟩
  · intro given hgiven
    rcases List.mem_append.mp hgiven with hbefore | hlater
    · exact hbindable given (List.mem_append_left _ hbefore)
    · rcases List.mem_cons.mp hlater with rfl | hafter
      · have hkept := hbindable (parameter, argument) (by simp)
        exact ⟨hkept.path, fun h => absurd (hrole.symm.trans h) (by decide)⟩
      · exact hbindable given (by simp [hafter])
  · rw [hhref, hrefOf, hrefOf, Given.pathOf_replace hname hforeign argument other]
    simp [hnopairs]
  · rw [hvars]
    simp [hnoname]

end Target

namespace Linker

variable {linker : Linker} {surroundings : Surroundings} {recording : Recording}
  {draft : LinkDraft} {call : Call} {method : Method} {raw : Text} {before after : List Given}
  {parameter : Parameter} {argument : Argument} {name : Text}

/-- A link is the same whatever the argument of a parameter is that is named like no variable. -/
theorem linkLast_set_arguments (hsound : linker.IsSound)
    (h : (linker.linkLast surroundings recording).1 = .ok draft)
    (hcall : recording.last = some call) (hmethod : calledMethod surroundings call = .ok method)
    (hraw : (MappingSource.answer surroundings (.ofCall call.target method) linker.source).1 =
      some raw)
    (hgivens : method.parameters.zip call.arguments = before ++ (parameter, argument) :: after)
    (hname : parameter.pathName? = some name)
    (hforeign : ¬Mapping.IsNameOf (Mapping.parse raw).vars name) (other : Argument) :
    (linker.linkLast surroundings { recording with
      last := some { call with arguments := call.arguments.set before.length other } }).1 =
        .ok draft := by
  obtain ⟨call', method', raw', target, link, hcall', hmethod', hraw', htarget, hlink, rfl⟩ :=
    hsound.linkLast_eq_ok_iff.mp h
  obtain rfl := Option.some_inj.mp (hcall.symm.trans hcall')
  obtain rfl := Except.ok.inj (hmethod.symm.trans hmethod')
  obtain rfl := Option.some_inj.mp (hraw.symm.trans hraw')
  have hcalled : calledMethod surroundings
      { call with arguments := call.arguments.set before.length other } = .ok method := by
    rw [← hmethod, calledMethod, calledMethod, List.length_set]
    rfl
  exact hsound.linkLast_eq_ok_iff.mpr ⟨_, method, raw, target, link, rfl, hcalled, hraw,
    Target.ofCall_set_arguments htarget hgivens hname hforeign other, hlink, rfl⟩

/-- What is put in the place of a token of the variable that a parameter is named like. -/
theorem substitute_fillings {v : Mapping.Variable} {scalar : Scalar} {classLevel : List Argument}
    {content : Text} (hv : v ∈ (Mapping.parse raw).vars)
    (hgivens : method.parameters.zip call.arguments =
      before ++ (parameter, .scalar scalar) :: after)
    (hname : parameter.pathName? = some v.name)
    (hafter : ∀ other ∈ after, other.1.pathName? ≠ some v.name ∧ other.1.pathName? ≠ some v.key)
    (hcontent : (Mapping.parse raw).variableOfToken? (Mapping.tokenName content) = some v) :
    (Mapping.parse raw).substitute (linker.fillings raw call method classLevel).get?
        (.token content) =
      PathBinding.encode v (linker.formatters.format scalar) := by
  have htext : Given.textAt? linker.formatters (Mapping.parse raw) v.key
      (parameter, .scalar scalar) =
        some (PathBinding.encode v (linker.formatters.format scalar)) :=
    Given.textAt?_of_pathName? hv hname
  have hlast : Given.lastTextAt? linker.formatters (Mapping.parse raw) v.key
      (method.parameters.zip call.arguments) =
        some (PathBinding.encode v (linker.formatters.format scalar)) :=
    hgivens ▸ Given.lastTextAt?_append htext fun other hother =>
      Given.textAt?_eq_none hv (hafter other hother).1 (hafter other hother).2
  have hkey : (Mapping.parse raw).tokenKey content = v.key := by
    rw [Mapping.tokenKey, hcontent]
    rfl
  rw [Mapping.substitute_token, hkey, get?_fillings hv, hlast]
  rfl

/-- No question mark comes up in a part of a path whose mapping has none. -/
theorem query_notMem_flatMap_substitute {chunks : List Mapping.Chunk}
    (h : '?' ∉ chunks.flatMap Mapping.Chunk.render) (classLevel : List Argument) :
    '?' ∉ chunks.flatMap ((Mapping.parse raw).substitute
      (linker.fillings raw call method classLevel).get?) := by
  have hforeign : PathBinding.IsForeign '?' := ⟨by decide, by decide, by decide⟩
  have hvalues := ((Given.avoids_foldl_bindPath hforeign linker.formatters (Mapping.parse raw)
    (PathBinding.avoids_ofParameters hforeign linker.formatters (Mapping.parse raw) classLevel)
    (method.parameters.zip call.arguments)).complete (Mapping.parse raw))
  intro hmem
  obtain ⟨chunk, hchunk, hc⟩ := List.mem_flatMap.mp hmem
  refine Mapping.notMem_substitute (by decide) (by decide) hvalues (fun hrender => ?_) hc
  exact h (List.mem_flatMap.mpr ⟨chunk, hchunk, hrender⟩)

/-- **Where the argument of a parameter of the path stands.** Take any linker over a base that was
read, with any memories it has gathered, any call that it links to, and any parameter of the path. If
the parameter is named like a variable of the mapping that keeps its token, its argument is a scalar
and no later parameter of the path has this name, or the one under which the variable is stored,
then the stored mapping has a token of the variable, and at each of them the path of the link shows
the encoded text of the argument, whatever stands in front of it and behind it. If the name has
nothing to do with the variables, then the link is the same whatever the argument is. -/
theorem uri_linkLast_pathArgument (hnew : linker.IsNew) (hbase : linker.base.IsRead)
    {history : List (Surroundings × Request)}
    (h : ((linker.after history).linkLast surroundings recording).1 = .ok draft)
    (hcall : recording.last = some call) (hmethod : calledMethod surroundings call = .ok method)
    (hraw : (MappingSource.answer surroundings (.ofCall call.target method)
      (linker.after history).source).1 = some raw)
    (hgivens : method.parameters.zip call.arguments = before ++ (parameter, argument) :: after)
    (hname : parameter.pathName? = some name) :
    let mapping := Mapping.parse raw
    let shown := mapping.substitute (linker.fillings raw call method recording.parameters).get?
    let pairs := (method.parameters.zip call.arguments).flatMap (Given.pairs linker.formatters)
    (∀ v scalar, Mapping.IsTraceable raw v → v.name = name → argument = .scalar scalar →
      (∀ other ∈ after, other.1.pathName? ≠ some v.name ∧ other.1.pathName? ≠ some v.key) →
      (∃ content ∈ Mapping.tokens mapping.text,
        mapping.variableOfToken? (Mapping.tokenName content) = some v) ∧
      ∀ front content back,
        Mapping.chunks mapping.text = front ++ .token content :: back →
        mapping.variableOfToken? (Mapping.tokenName content) = some v →
        let text := PathBinding.encode v (linker.formatters.format scalar)
        draft.uri = linker.base.resolve (QueryPair.attach
            (front.flatMap shown ++ text ++ back.flatMap shown) pairs) ∧
          ('?' ∉ front.flatMap Mapping.Chunk.render →
            pathPart draft.uri = linker.base.resolve
              (front.flatMap shown ++ text ++ pathPart (back.flatMap shown)))) ∧
      (¬Mapping.IsNameOf mapping.vars name → ∀ other,
        ((linker.after history).linkLast surroundings { recording with
          last := some { call with arguments := call.arguments.set before.length other } }).1 =
            .ok draft) := by
  intro mapping shown pairs
  have hsound := hnew.isSound.after history
  obtain ⟨htarget, -⟩ := hsound.exists_target h hcall hmethod hraw
  rw [after_base, after_formatters] at htarget
  have huri : draft.uri = linker.base.resolve (QueryPair.attach
      ((Mapping.chunks mapping.text).flatMap shown) pairs) :=
    (Target.ofCall_eq_ok_iff.mp htarget).2.1
  refine ⟨?_, linkLast_set_arguments hsound h hcall hmethod hraw hgivens hname⟩
  rintro v scalar htrace rfl rfl hafter
  refine ⟨htrace.exists_token, fun front content back hchunks hcontent => ?_⟩
  intro text
  have htoken : shown (.token content) = text :=
    substitute_fillings htrace.mem hgivens hname hafter hcontent
  have hpath : (Mapping.chunks mapping.text).flatMap shown =
      front.flatMap shown ++ text ++ back.flatMap shown := by
    rw [hchunks, List.flatMap_append, List.flatMap_cons, htoken, List.append_assoc]
  rw [hpath] at huri
  refine ⟨huri, fun hfront => ?_⟩
  have hforeign : PathBinding.IsForeign '?' := ⟨by decide, by decide, by decide⟩
  have hshown : '?' ∉ front.flatMap shown ++ text := fun hmem =>
    (List.mem_append.mp hmem).elim (query_notMem_flatMap_substitute hfront recording.parameters)
      (hforeign.notMem_encode v _)
  rw [huri, QueryPair.pathPart_resolve (hbase.notMem_display (.inl rfl)),
    QueryPair.pathPart_append hshown]

/-! ### An archive -/

/-- A parameter of the path. -/
def pathParameter (name : String) : Parameter :=
  { role := .path, bound := some name.toList }

/-- A mapping with an ordinary variable and a catch-all. -/
def archiveMapping : Text :=
  "/{id}/files/{*path}".toList

/-- A method with two parameters for the variables of its mapping and one that is for none. -/
def archiveMethod : Method :=
  { name := "show".toList
    mapping := some archiveMapping
    parameters := [pathParameter "id", pathParameter "path", pathParameter "note"] }

/-- The handler of the method. -/
def archiveHandler : Handler :=
  { type := "Archive".toList, methods := [archiveMethod] }

/-- A call of the method. -/
def archiveCall (note : Argument) : Call :=
  ⟨archiveHandler, archiveHandler, "show".toList,
    [personValue "7", personValue "a/b c", note]⟩

/-- What the call is linked to. -/
def archiveDraft : LinkDraft :=
  { uri := "/7/files/a/b%20c".toList
    affordances := Affordance.ofMethod archiveMethod { href := "/7/files/a/b%20c".toList } }

/-- The catch-all of the mapping. -/
def archivePath : Mapping.Variable :=
  ⟨"path".toList, true⟩

theorem vars_archiveMapping :
    (Mapping.parse archiveMapping).vars = [⟨"id".toList, false⟩, archivePath] := by
  cbv

theorem isTraceable_archivePath : Mapping.IsTraceable archiveMapping archivePath := by
  have htokens : Mapping.tokens archiveMapping = ["id".toList, "*path".toList] := by cbv
  refine ⟨?_, ⟨"*path".toList, ?_, by decide, ?_⟩, fun _ => ?_⟩
  · rw [vars_archiveMapping]
    decide
  · rw [htokens]
    decide
  · rw [Mapping.catchAlls, vars_archiveMapping]
    unfold Mapping.IsOwnName
    decide
  · rw [vars_archiveMapping]
    decide

/-- The file stands at the end of the link, and the note has no influence on it. -/
theorem uri_linkLast_pathArgument_archive :
    (({} : Linker).linkLast { handlers := ⟨[archiveHandler]⟩ }
        ⟨archiveHandler, [], some (archiveCall (personValue "x"))⟩).1 = .ok archiveDraft ∧
      pathPart archiveDraft.uri =
        "/7/files".toList ++ PathBinding.encode archivePath "a/b c".toList ∧
      ∀ note, (({} : Linker).linkLast { handlers := ⟨[archiveHandler]⟩ }
        ⟨archiveHandler, [], some (archiveCall note)⟩).1 = .ok archiveDraft := by
  let call := archiveCall (personValue "x")
  have hdraft : (({} : Linker).linkLast { handlers := ⟨[archiveHandler]⟩ }
      ⟨archiveHandler, [], some call⟩).1 = .ok archiveDraft := by
    cbv
  have hnew : ({} : Linker).IsNew := ⟨rfl, rfl⟩
  have hstart : ((({} : Linker).after []).linkLast { handlers := ⟨[archiveHandler]⟩ }
      ⟨archiveHandler, [], some call⟩).1 = .ok archiveDraft := hdraft
  have hmethod : calledMethod { handlers := ⟨[archiveHandler]⟩ } call = .ok archiveMethod := by
    cbv
  have hraw : (MappingSource.answer { handlers := ⟨[archiveHandler]⟩ }
      (.ofCall call.target archiveMethod) (({} : Linker).after []).source).1 =
        some archiveMapping := by
    cbv
  have hfile : archiveMethod.parameters.zip call.arguments =
      [(pathParameter "id", personValue "7")] ++
        (pathParameter "path", personValue "a/b c") :: [(pathParameter "note", personValue "x")] :=
    rfl
  have hnote : archiveMethod.parameters.zip call.arguments =
      [(pathParameter "id", personValue "7"), (pathParameter "path", personValue "a/b c")] ++
        (pathParameter "note", personValue "x") :: [] :=
    rfl
  have hchunks : Mapping.chunks (Mapping.parse archiveMapping).text =
      (.literal ['/'] :: .token "id".toList ::
        "/files".toList.map (fun c => Mapping.Chunk.literal [c])) ++
        .token archivePath.key :: [] := by
    cbv
  obtain ⟨hshown, -⟩ := uri_linkLast_pathArgument hnew (.inl rfl) hstart rfl hmethod hraw hfile rfl
  obtain ⟨-, hsame⟩ := uri_linkLast_pathArgument hnew (.inl rfl) hstart rfl hmethod hraw hnote rfl
  refine ⟨hdraft, ?_, fun note => hsame ?_ note⟩
  · obtain ⟨-, hplace⟩ := hshown archivePath _ isTraceable_archivePath rfl rfl (by decide)
    obtain ⟨-, hpath⟩ := hplace _ _ _ hchunks (by cbv)
    refine (hpath (by decide)).trans ?_
    cbv
  · rw [vars_archiveMapping]
    unfold Mapping.IsNameOf
    decide

/-- The link to a method with a parameter of the path for each of the arguments. -/
def pathLink (mapping : String) (arguments : List (String × String)) : Except LinkError Text :=
  let method : Method :=
    { name := "show".toList
      mapping := some mapping.toList
      parameters := arguments.map fun pair => pathParameter pair.1 }
  let handler : Handler := { type := "Path".toList, methods := [method] }
  let call : Call := ⟨handler, handler, method.name, arguments.map fun pair => personValue pair.2⟩
  (({} : Linker).linkLast { handlers := ⟨[handler]⟩ } ⟨handler, [], some call⟩).1.map (·.uri)

/-- The names of the variables of a mapping. -/
def pathNames (mapping : String) : List Text :=
  (Mapping.parse mapping.toList).vars.map (·.name)

/-- A mapping in which a catch-all is written out in the names of two other variables, in one of them
in stored form. -/
def nestedMapping : String :=
  "/\x7ba/{*w}b\x7d/{*w}/\x7ba{__composite-w__}b\x7d"

/-- Arguments that do not stand in the link: one for no variable, one for a catch-all that a later
one replaces under the stored name, one for a catch-all whose stored name is the name of another one,
and one for a variable in whose name a catch-all is written out. -/
theorem pathLink_without_argument :
    ("id".toList ∉ pathNames "/people" ∧
      pathLink "/people" [("id", "7")] = .ok "/people".toList) ∧
      ("path".toList ∈ pathNames "/files/{*path}" ∧
        pathLink "/files/{*path}" [("path", "a"), ("__composite-path__", "b")] =
          .ok "/filesb".toList) ∧
      ("x".toList ∈ pathNames "/{*__composite-x__}/{*x}" ∧
        pathLink "/{*__composite-x__}/{*x}" [("x", "1"), ("__composite-x__", "2")] =
          .ok "/2/2".toList) ∧
      ("a/{*w}b".toList ∈ pathNames nestedMapping ∧
        pathLink nestedMapping [("a/{*w}b", "1"), ("w", "2"), ("a{__composite-w__}b", "3")] =
          .ok "/3/2/3".toList) := by
  have hpeople : pathNames "/people" = [] := by cbv
  have hfiles : pathNames "/files/{*path}" = ["path".toList] := by cbv
  have hstored : pathNames "/{*__composite-x__}/{*x}" =
      ["__composite-x__".toList, "x".toList] := by
    cbv
  have hnested : pathNames nestedMapping =
      ["a/{*w}b".toList, "w".toList, "a{__composite-w__}b".toList] := by
    cbv
  refine ⟨⟨?_, ?_⟩, ⟨?_, ?_⟩, ⟨?_, ?_⟩, ?_, ?_⟩
  · simp [hpeople]
  · cbv
  · simp [hfiles]
  · cbv
  · simp [hstored]
  · cbv
  · simp [hnested]
  · cbv

end Linker

end Signpost
