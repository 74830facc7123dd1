import Signpost.Proofs.Binding.Query
import Signpost.Proofs.Template.Expansion

/-!
# Queries as templates

The pairs behind a path are parts of a template: what is bound already is literal, a pair that is
left to the client ends with an expression. Expanding puts a pair with a value in its place, and a
query variable behind the template becomes one more pair at the end, behind a question mark or an
ampersand just as attaching would have it.

## Main definitions

* `QueryPair.queryText`: the text of pairs behind a path.
* `QueryPair.parts`, `QueryPair.partsOf`: a pair, and the pairs behind a path, as parts.
* `QueryPair.fill`: a pair with a value in the place of its expression.

## Main results

* `QueryPair.defers_partsOf`: what the pairs behind a path expand to.
* `QueryPair.foldlM_queryVars`: what the query variables behind a template add.
-/

namespace Signpost.QueryPair

variable {lookup : Text → Option Text} {names : List Text} {front path : Text}
  {pairs : List QueryPair}

/-! ### The text of pairs behind a path -/

/-- The text of pairs behind a path without a query. -/
def queryText : List QueryPair → Text
  | [] => []
  | pair :: rest => '?' :: pair.render ++ rest.flatMap fun other => '&' :: other.render

theorem attach_eq_append (hpath : '?' ∉ path) (pairs : List QueryPair) :
    attach path pairs = path ++ queryText pairs := by
  cases pairs with
  | nil => rw [attach, if_pos rfl, queryText, List.append_nil]
  | cons pair rest =>
    rw [attach_of_notMem hpath (List.cons_ne_nil pair rest), List.map_cons, Text.join_cons,
      queryText, List.flatMap_map]
    rfl

theorem mem_queryText {pair : QueryPair} (hpair : pair ∈ pairs) {c : Char} (hc : c ∈ pair.render) :
    c ∈ queryText pairs := by
  cases pairs with
  | nil => exact absurd hpair List.not_mem_nil
  | cons first rest =>
    rw [queryText, List.mem_append]
    rcases List.mem_cons.mp hpair with rfl | hrest
    · exact .inl (List.mem_cons_of_mem '?' hc)
    · exact .inr (List.mem_flatMap.mpr ⟨pair, hrest, List.mem_cons_of_mem '&' hc⟩)

theorem queryText_concat (pairs : List QueryPair) (pair : QueryPair) :
    queryText (pairs ++ [pair]) =
      queryText pairs ++ (if pairs = [] then '?' else '&') :: pair.render := by
  cases pairs with
  | nil => simp [queryText]
  | cons first rest => simp [queryText]

theorem mem_append_attach_iff (hfront : '?' ∉ front) (hpath : '?' ∉ path)
    (pairs : List QueryPair) : '?' ∈ front ++ attach path pairs ↔ pairs ≠ [] := by
  rw [attach_eq_append hpath, List.mem_append, List.mem_append]
  constructor
  · rintro (hmem | hmem | hmem) rfl
    · exact hfront hmem
    · exact hpath hmem
    · exact List.not_mem_nil hmem
  · intro hne
    obtain ⟨pair, rest, rfl⟩ := List.exists_cons_of_ne_nil hne
    exact .inr (.inr List.mem_cons_self)

/-! ### Pairs as parts -/

/-- A pair as parts of a template. -/
def parts : QueryPair → List Template.Part
  | placeholder name =>
    [.literal (Percent.encode name ++ ['=']), .expression [⟨name, .path, false⟩]]
  | value name text => [.literal (value name text).render]
  | joined name values => [.literal (joined name values).render]

/-- The pair with the value that `lookup` has for its expression. -/
def fill (lookup : Text → Option Text) : QueryPair → QueryPair
  | placeholder name => value name ((lookup name).getD [])
  | value name text => value name text
  | joined name values => joined name values

/-- The pairs behind a path as parts of a template. -/
def partsOf : List QueryPair → List Template.Part
  | [] => []
  | pair :: rest =>
    .literal ['?'] :: pair.parts ++ rest.flatMap fun other => .literal ['&'] :: other.parts

/-- A pair stands for itself with a value in the place of its expression. -/
theorem defers_parts {pair : QueryPair} (hpair : pair.WellFormed)
    (hlookup : ∀ name, pair = placeholder name → name ∈ names ∧ (lookup name).isSome = true) :
    Template.Defers lookup names pair.parts pair.render (pair.fill lookup).render := by
  cases pair with
  | value name text =>
    exact .literal (notMem_render_value (by decide) (by decide) name text)
      (notMem_render_value (by decide) (by decide) name text)
  | joined name values =>
    exact .literal (notMem_render_joined (by decide) (by decide) (by decide) name values)
      (notMem_render_joined (by decide) (by decide) (by decide) name values)
  | placeholder name =>
    obtain ⟨hmem, hsome⟩ := hlookup name rfl
    obtain ⟨text, htext⟩ := Option.isSome_iff_exists.mp hsome
    have hlead {c : Char} (hreserved : Percent.IsReserved c) (hequals : c ≠ '=') :
        c ∉ Percent.encode name ++ ['='] := by
      simp [Percent.notMem_encode hreserved name, hequals]
    have hboth := (Template.Defers.literal (hlead (by decide) (by decide))
      (hlead (by decide) (by decide))).append
      (Template.Defers.pathVariable hmem hpair htext)
    simpa [parts, fill, htext, render] using hboth

/-- The pairs behind a path stand for themselves with values in the place of expressions. -/
theorem defers_partsOf (hpairs : ∀ pair ∈ pairs, pair.WellFormed)
    (hlookup : ∀ name, placeholder name ∈ pairs → name ∈ names ∧ (lookup name).isSome = true) :
    Template.Defers lookup names (partsOf pairs) (queryText pairs)
      (queryText (pairs.map (fill lookup))) := by
  cases pairs with
  | nil => exact .nil
  | cons pair rest =>
    have hfirst : Template.Defers lookup names (.literal ['?'] :: pair.parts)
        ('?' :: pair.render) ('?' :: (pair.fill lookup).render) :=
      (Template.Defers.literal (by decide) (by decide)).append
        (defers_parts (hpairs pair List.mem_cons_self) fun name h =>
          hlookup name (h ▸ List.mem_cons_self))
    have hrest : Template.Defers lookup names
        (rest.flatMap fun other => .literal ['&'] :: other.parts)
        (rest.flatMap fun other => '&' :: other.render)
        (rest.flatMap fun other => '&' :: (other.fill lookup).render) :=
      Template.Defers.flatMap fun other hother =>
        (Template.Defers.literal (by decide) (by decide)).append
          (defers_parts (hpairs other (List.mem_cons_of_mem pair hother)) fun name h =>
            hlookup name (h ▸ List.mem_cons_of_mem pair hother))
    have hboth := hfirst.append hrest
    rw [partsOf, List.map_cons, queryText, queryText, List.flatMap_map]
    exact hboth

/-! ### Query variables behind a template -/

/-- A query variable behind pairs adds one more. -/
theorem expandVar_append_attach (hfront : '?' ∉ front) (hpath : '?' ∉ path)
    {v : Template.Variable} (hkind : v.kind.isQuery = true) {text : Text}
    (hlookup : lookup v.name = some text) :
    Template.expandVar lookup (front ++ attach path pairs) v =
      .ok (front ++ attach path (pairs ++ [value v.name text])) := by
  have haddition : Template.addition (front ++ attach path pairs) v text =
      (if pairs = [] then '?' else '&') :: (value v.name text).render := by
    have hmem := mem_append_attach_iff hfront hpath pairs
    have hmark : (if '?' ∈ front ++ attach path pairs then '&' else '?') =
        if pairs = [] then '?' else '&' := by
      simp only [hmem, ne_eq, ite_not]
    rw [Template.addition]
    cases hk : v.kind with
    | query => simp only [hmark, render, List.cons_append]
    | queryContinued => simp only [hmark, render, List.cons_append]
    | path => exact absurd hkind (by rw [hk]; decide)
    | segment => exact absurd hkind (by rw [hk]; decide)
    | fragment => exact absurd hkind (by rw [hk]; decide)
  rw [Template.expandVar, hlookup]
  simp only [haddition]
  rw [attach_eq_append hpath, attach_eq_append hpath, queryText_concat]
  simp only [List.append_assoc]

/-- The query variables behind a template add their pairs in a row. -/
theorem foldlM_queryVars (hfront : '?' ∉ front) (hpath : '?' ∉ path) (values : Text → Text) :
    (vars : List Template.Variable) → (pairs : List QueryPair) →
    (∀ v ∈ vars, v.kind.isQuery = true ∧ lookup v.name = some (values v.name)) →
    vars.foldlM (Template.expandVar lookup) (front ++ attach path pairs) =
      .ok (front ++ attach path (pairs ++ vars.map fun v => value v.name (values v.name)))
  | [], pairs, _ => by
    rw [List.map_nil, List.append_nil]
    rfl
  | v :: vars, pairs, h => by
    obtain ⟨hkind, hlookup⟩ := h v List.mem_cons_self
    have hrest := foldlM_queryVars hfront hpath values vars
      (pairs ++ [value v.name (values v.name)]) fun w hw => h w (List.mem_cons_of_mem v hw)
    rw [List.foldlM_cons, expandVar_append_attach hfront hpath hkind hlookup, Except.ok_bind, hrest,
      List.map_cons, List.append_assoc, List.singleton_append]

end Signpost.QueryPair
