import Signpost.Proofs.Link.Segments
import Signpost.Proofs.Linker.Query
import Signpost.Proofs.Template.Fragment

/-!
# Queries behind a fragment

Pairs are put behind an href as it stands, after a question mark or, if it has one, an ampersand.
Nothing asks for a number sign. Neither a base nor a pair holds one, so that a pair of a link to a
call belongs to the query exactly if the path has no number sign, and the path has one if the
mapping has it outside its variables. A pair that an expansion puts out belongs to the query exactly
if no fragment is begun in front of its variable. Segments of a path are different: they are put in
front of the query and the fragment.

## Main definitions

* `QueryPair.add`: one pair behind an href.
* `QueryPair.IsPut`: where an href has a pair.

## Main results

* `QueryPair.attach_eq_foldl`: pairs are attached one by one.
* `Linker.precedes_fragment_linkLast`, `Template.precedes_fragment_expand`,
  `LinkDraft.precedes_fragment_appendSegments`: where pairs and segments stand.
* `Linker.precedes_fragment_iff`: when what is added to an href stands in front of the fragment.
-/

namespace Signpost

namespace QueryPair

variable {href path : Text} {pair : QueryPair} {pairs : List QueryPair}

/-! ### One pair at a time -/

/-- A pair behind an href, which may have a query already. -/
def add (href : Text) (pair : QueryPair) : Text :=
  href ++ (if '?' ∈ href then '&' else '?') :: pair.render

theorem question_mem_add (href : Text) (pair : QueryPair) : '?' ∈ add href pair := by
  rw [add]
  by_cases hquestion : '?' ∈ href
  · exact List.mem_append_left _ hquestion
  · simp [hquestion]

theorem attach_cons (path : Text) (pair : QueryPair) (pairs : List QueryPair) :
    attach path (pair :: pairs) = attach (add path pair) pairs := by
  rw [attach, if_neg (List.cons_ne_nil pair pairs), List.map_cons, Text.join_cons]
  cases pairs with
  | nil => simp [attach, add]
  | cons next rest =>
    -- The first pair has brought a question mark if the path had none, hence an ampersand follows.
    rw [attach, if_neg (List.cons_ne_nil next rest), if_pos (question_mem_add path pair),
      List.map_cons, Text.join_cons]
    simp [add]

/-- Pairs are attached one by one. -/
theorem attach_eq_foldl (path : Text) (pairs : List QueryPair) :
    attach path pairs = pairs.foldl add path := by
  induction pairs generalizing path with
  | nil => rw [attach, if_pos rfl, List.foldl_nil]
  | cons pair pairs ih => rw [attach_cons, ih, List.foldl_cons]

theorem attach_append_cons (path : Text) (earlier later : List QueryPair) (pair : QueryPair) :
    attach path (earlier ++ pair :: later) = attach (add (attach path earlier) pair) later := by
  simp only [attach_eq_foldl, List.foldl_append, List.foldl_cons]

theorem prefix_attach (path : Text) (pairs : List QueryPair) : path <+: attach path pairs := by
  rw [attach]
  split
  · exact List.prefix_rfl
  · exact List.prefix_append ..

theorem append_add {front : Text} (hfront : '?' ∉ front) (href : Text) (pair : QueryPair) :
    add (front ++ href) pair = front ++ add href pair := by
  simp [add, hfront]

/-! ### Number signs -/

theorem number_mem_add (h : pair.WellFormed) : '#' ∈ add href pair ↔ '#' ∈ href := by
  have hpair : '#' ∉ pair.render := notMem_render (by decide) (by decide) h
  rw [add]
  by_cases hquestion : '?' ∈ href
  · simp [hquestion, hpair]
  · simp [hquestion, hpair]

/-- A pair brings no number sign. -/
theorem number_mem_attach (h : ∀ pair ∈ pairs, pair.WellFormed) :
    '#' ∈ attach path pairs ↔ '#' ∈ path := by
  rw [attach_eq_foldl]
  induction pairs generalizing path with
  | nil => rfl
  | cons pair pairs ih =>
    obtain ⟨hpair, hpairs⟩ := List.forall_mem_cons.mp h
    rw [List.foldl_cons, ih hpairs, number_mem_add hpair]

/-- The href has the pair behind `front`, and in front of the fragment exactly if `clear` holds. -/
structure IsPut (pair : QueryPair) (front href : Text) (clear : Prop) : Prop where
  added : add front pair <+: href
  query : add front pair <+: withoutFragment href ↔ clear

/-- A pair is put in front of the fragment exactly if what it is put behind has no number sign. -/
theorem isPut_of_prefix (hpair : pair.WellFormed) {front : Text} (h : add front pair <+: href) :
    pair.IsPut front href ('#' ∉ front) where
  added := h
  query := by rw [prefix_withoutFragment_iff h, number_mem_add hpair]

end QueryPair

/-- What stands outside the variables of a mapping stays in the path that is made of it. -/
theorem Mapping.mem_expand_of_literal {mapping : Mapping} {text : Text} {c : Char}
    (h : .literal text ∈ chunks mapping.text) (hc : c ∈ text)
    (value? : Text → Option Substitution) : c ∈ mapping.expand value? :=
  List.mem_flatMap.mpr ⟨.literal text, h, hc⟩

/-- **A pair that an expansion puts out** stands behind what the parts in front of its variable
expand to, and in front of the fragment exactly if none of these parts begins it. -/
theorem Template.precedes_fragment_expand {template : Template} {lookup : Text → Option Text}
    {href : Text} (h : template.expand lookup = .ok href) {before after : List Part} {v : Variable}
    {value : Text} (hsteps : template.steps = before ++ .expression [v] :: after)
    (hquery : v.kind.isQuery = true) (hvalue : lookup v.name = some value) :
    ∃ front, before.foldlM (expandPart lookup) [] = .ok front ∧
      (QueryPair.value v.name value).IsPut front href (¬BeginsFragment lookup before) := by
  obtain ⟨front, hfront, hbegins, hnumber⟩ := exists_front_expand h hsteps hvalue
  have hadd : front ++ addition front v value = QueryPair.add front (.value v.name value) := by
    rw [addition]
    cases hkind : v.kind with
    | query => rfl
    | queryContinued => rfl
    | path => simp [hkind, VariableKind.isQuery] at hquery
    | segment => simp [hkind, VariableKind.isQuery] at hquery
    | fragment => simp [hkind, VariableKind.isQuery] at hquery
  rw [hadd] at hbegins
  have hwellFormed : (QueryPair.value v.name value).WellFormed := trivial
  refine ⟨front, hfront, ?_⟩
  rw [← hnumber]
  exact QueryPair.isPut_of_prefix hwellFormed hbegins

/-- Segments that are appended to an href stand at the end of its path, in front of the fragment. -/
theorem LinkDraft.precedes_fragment_appendSegments (uri segments : Text) :
    Text.dropEndWhile (· = '/') (uri.takeWhile (!endsPath ·)) ++ Template.segmentPath segments <+:
      withoutFragment (appendSegments uri segments) := by
  refine (prefix_withoutFragment_iff (extendedPath_isPrefix uri segments)).mpr fun hmem => ?_
  exact absurd (endsPath_of_mem_extendedPath hmem) (by decide)

namespace Linker

variable {linker : Linker} {surroundings : Surroundings} {recording : Recording}
  {draft : LinkDraft} {call : Call} {method : Method} {raw : Text}

/-- **A pair of a link to a call** stands behind the path and the pairs in front of it, and in front
of the fragment exactly if the path has no number sign. -/
theorem precedes_fragment_linkLast (hnew : linker.IsNew) (hbase : linker.base.IsRead)
    {history : List (Surroundings × Request)}
    (h : ((linker.after history).linkLast surroundings recording).1 = .ok draft)
    (hcall : recording.last = some call) (hmethod : calledMethod surroundings call = .ok method)
    (hraw : (MappingSource.answer surroundings (.ofCall call.target method)
      (linker.after history).source).1 = some raw)
    {earlier later : List QueryPair} {pair : QueryPair}
    (hpairs : (method.parameters.zip call.arguments).flatMap (Given.pairs linker.formatters) =
      earlier ++ pair :: later) :
    let path := Given.pathOf linker.formatters (Mapping.parse raw) recording.parameters
      (method.parameters.zip call.arguments)
    pair.IsPut (linker.base.resolve (QueryPair.attach path earlier)) draft.uri ('#' ∉ path) := by
  intro path
  obtain ⟨htarget, -⟩ := (hnew.isSound.after history).exists_target h hcall hmethod hraw
  rw [after_base, after_formatters] at htarget
  obtain ⟨-, hhref, -⟩ := Target.ofCall_eq_ok_iff.mp htarget
  change draft.uri = _ at hhref
  -- What is asked of the whole href can be asked of the path: its lead comes from the base, which
  -- was read from a text and holds neither mark.
  have hlead {c : Char} (hc : Uri.EndsPath c) : c ∉ linker.base.lead path.head? :=
    BaseUri.notMem_lead (by rcases hc with rfl | rfl <;> decide) (hbase.notMem_display hc) _
  have hwellFormed : ∀ other ∈ earlier ++ pair :: later, other.WellFormed := fun other hother =>
    Given.wellFormed_of_mem_flatMap_pairs (hpairs ▸ hother)
  rw [List.forall_mem_append, List.forall_mem_cons] at hwellFormed
  obtain ⟨hearlier, hpair, -⟩ := hwellFormed
  have hbegins : QueryPair.add (linker.base.lead path.head? ++ QueryPair.attach path earlier)
      pair <+: draft.uri := by
    rw [hhref, Target.hrefOf, hpairs, QueryPair.resolve_attach, QueryPair.attach_append_cons,
      QueryPair.append_add (hlead (.inl rfl)), List.prefix_append_right_inj]
    exact QueryPair.prefix_attach ..
  have hnumber : '#' ∈ linker.base.lead path.head? ++ QueryPair.attach path earlier ↔
      '#' ∈ path := by
    rw [List.mem_append, or_iff_right (hlead (.inr rfl)), QueryPair.number_mem_attach hearlier]
  rw [QueryPair.resolve_attach, ← hnumber]
  exact QueryPair.isPut_of_prefix hpair hbegins

/-- **When what is added stands in front of the fragment.** Take any linker over a base that was
read, with any memories it has gathered, and any call that it links to. A pair of the link stands
behind the path and the pairs in front of it; it stands in front of the fragment exactly if the path
has no number sign. The path has none if the mapping has none, and it has one if the mapping has one
outside its variables. Take also any template, its own or with variables appended, that expands to
an href. The pair of a bound query variable stands behind what the parts in front of the variable
expand to; it stands in front of the fragment exactly if none of them is a literal with a number
sign or a bound fragment variable. Segments appended to an href always stand in front of it. -/
theorem precedes_fragment_iff (linker : Linker) (template : Template)
    (lookup : Text → Option Text) (uri segments : Text) :
    (∀ (history : List (Surroundings × Request)) (surroundings : Surroundings)
      (recording : Recording) (draft : LinkDraft) (call : Call) (method : Method) (raw : Text),
      linker.IsNew → linker.base.IsRead →
      ((linker.after history).linkLast surroundings recording).1 = .ok draft →
      recording.last = some call → calledMethod surroundings call = .ok method →
      (MappingSource.answer surroundings (.ofCall call.target method)
        (linker.after history).source).1 = some raw →
      let givens := method.parameters.zip call.arguments
      let path :=
        Given.pathOf linker.formatters (Mapping.parse raw) recording.parameters givens
      (∀ earlier pair later,
        givens.flatMap (Given.pairs linker.formatters) = earlier ++ pair :: later →
        pair.IsPut (linker.base.resolve (QueryPair.attach path earlier)) draft.uri ('#' ∉ path)) ∧
        ('#' ∉ raw → '#' ∉ path) ∧
        ∀ text, .literal text ∈ Mapping.chunks (Mapping.parse raw).text → '#' ∈ text →
          '#' ∈ path) ∧
      (∀ (href : Text) (before after : List Template.Part) (v : Template.Variable) (value : Text),
        template.expand lookup = .ok href →
        template.steps = before ++ .expression [v] :: after → v.kind.isQuery = true →
        lookup v.name = some value →
        ∃ front, before.foldlM (Template.expandPart lookup) [] = .ok front ∧
          (QueryPair.value v.name value).IsPut front href
            (¬Template.BeginsFragment lookup before)) ∧
      Text.dropEndWhile (· = '/') (uri.takeWhile (!LinkDraft.endsPath ·)) ++
          Template.segmentPath segments <+:
        withoutFragment (LinkDraft.appendSegments uri segments) := by
  refine ⟨?_, fun href before after v value h hsteps hquery hvalue =>
    Template.precedes_fragment_expand h hsteps hquery hvalue,
    LinkDraft.precedes_fragment_appendSegments uri segments⟩
  intro history surroundings recording draft call method raw hnew hbase h hcall hmethod hraw
    givens path
  refine ⟨fun earlier pair later hpairs =>
    precedes_fragment_linkLast hnew hbase h hcall hmethod hraw hpairs, fun hnumber => ?_,
    fun text htext hnumber => ?_⟩
  · exact Given.notMem_pathOf (.inr rfl) hnumber linker.formatters recording.parameters givens
  · exact Mapping.mem_expand_of_literal htext hnumber _

/-! ### Pages of a list -/

/-- A method with one query parameter. -/
def pageMethod (mapping : Text) : Method :=
  { name := "list".toList
    mapping := some mapping
    parameters := [{ role := .query, bound := some "page".toList }] }

/-- The handler of the method. -/
def pageHandler (mapping : Text) : Handler :=
  { type := "List".toList, methods := [pageMethod mapping] }

/-- A call of the method for the second page. -/
def pageCall (mapping : Text) : Call :=
  ⟨pageHandler mapping, pageHandler mapping, "list".toList, [.scalar ⟨"i32".toList, ['2']⟩]⟩

/-- What the linker finds around it. -/
def pageSurroundings (mapping : Text) : Surroundings :=
  { handlers := ⟨[pageHandler mapping]⟩ }

/-- The recording of the call. -/
def pageRecording (mapping : Text) : Recording :=
  ⟨pageHandler mapping, [], some (pageCall mapping)⟩

/-- The pair that the call gives. -/
def pagePair : QueryPair :=
  .value "page".toList ['2']

/-- The template of a list with a place in it, and a variable for the page appended. -/
def pageTemplate : Template :=
  Template.extend
    ⟨"/people\x7b#place\x7d".toList,
      [.literal "/people".toList, .expression [⟨"place".toList, .fragment, false⟩]]⟩
    [⟨"page".toList, .query, false⟩]

/-- The second page, and the place on it if there is one. -/
def pageLookup (place : Option Text) (name : Text) : Option Text :=
  if name = "page".toList then some ['2'] else place

theorem precedes_fragment_page :
    (∃ draft front, (({} : Linker).linkLast (pageSurroundings "/people".toList)
        (pageRecording "/people".toList)).1 = .ok draft ∧
      QueryPair.add front pagePair <+: withoutFragment draft.uri) ∧
      ∃ href front, pageTemplate.expand (pageLookup none) = .ok href ∧
        QueryPair.add front pagePair <+: withoutFragment href := by
  constructor
  · have hdraft : (({} : Linker).linkLast (pageSurroundings "/people".toList)
        (pageRecording "/people".toList)).1 = .ok ⟨"/people?page=2".toList, [],
          Affordance.ofMethod (pageMethod "/people".toList)
            { href := "/people?page=2".toList }⟩ := by
      cbv
    have hnew : ({} : Linker).IsNew := ⟨rfl, rfl⟩
    have hmethod : calledMethod (pageSurroundings "/people".toList)
        (pageCall "/people".toList) = .ok (pageMethod "/people".toList) := by
      cbv
    have hraw : (MappingSource.answer (pageSurroundings "/people".toList)
        (.ofCall (pageHandler "/people".toList) (pageMethod "/people".toList))
        (({} : Linker).after []).source).1 = some "/people".toList := by
      cbv
    have hstart : ((({} : Linker).after []).linkLast (pageSurroundings "/people".toList)
        (pageRecording "/people".toList)).1 = _ := hdraft
    have hpairs : ((pageMethod "/people".toList).parameters.zip
        (pageCall "/people".toList).arguments).flatMap (Given.pairs ({} : Linker).formatters) =
          [] ++ pagePair :: [] := by
      cbv
    obtain ⟨hlinks, -⟩ := precedes_fragment_iff {} pageTemplate (pageLookup none) [] []
    obtain ⟨hput, hnone, -⟩ := hlinks [] _ _ _ (pageCall "/people".toList) _ _ hnew (.inl rfl)
      hstart rfl hmethod hraw
    exact ⟨_, _, hdraft, (hput [] pagePair [] hpairs).query.mpr (hnone (by decide))⟩
  · have hexpand : pageTemplate.expand (pageLookup none) = .ok "/people?page=2".toList := by cbv
    have hsteps : pageTemplate.steps =
        [.literal "/people".toList, .expression [⟨"place".toList, .fragment, false⟩]] ++
          .expression [⟨"page".toList, .query, false⟩] :: [] := by
      rfl
    obtain ⟨-, hexpansions, -⟩ := precedes_fragment_iff {} pageTemplate (pageLookup none) [] []
    obtain ⟨front, -, hput⟩ := hexpansions _ _ _ ⟨"page".toList, .query, false⟩ ['2'] hexpand
      hsteps rfl rfl
    refine ⟨_, front, hexpand, hput.query.mpr ?_⟩
    simp [Template.BeginsFragment, Template.Part.BeginsFragment, Template.Variable.BeginsFragment,
      pageLookup]

theorem not_precedes_fragment_page :
    (∃ draft, (({} : Linker).linkLast (pageSurroundings "/people#top".toList)
        (pageRecording "/people#top".toList)).1 = .ok draft ∧
      draft.uri = "/people#top?page=2".toList ∧
      ¬pagePair.render <:+: withoutFragment draft.uri) ∧
      ∃ href, pageTemplate.expand (pageLookup (some "top".toList)) = .ok href ∧
        href = "/people#top?page=2".toList ∧ ¬pagePair.render <:+: withoutFragment href := by
  have hdraft : (({} : Linker).linkLast (pageSurroundings "/people#top".toList)
      (pageRecording "/people#top".toList)).1 = .ok ⟨"/people#top?page=2".toList, [],
        Affordance.ofMethod (pageMethod "/people#top".toList)
          { href := "/people#top?page=2".toList }⟩ := by
    cbv
  have hexpand : pageTemplate.expand (pageLookup (some "top".toList)) =
      .ok "/people#top?page=2".toList := by
    cbv
  exact ⟨⟨_, hdraft, rfl, by decide⟩, _, hexpand, rfl, by decide⟩

end Linker

end Signpost
