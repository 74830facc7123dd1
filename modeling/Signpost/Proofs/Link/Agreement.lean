import Signpost.Proofs.Binding.Precedence
import Signpost.Proofs.Link.Segments
import Signpost.Proofs.Mapping.Unresolved

/-!
# Three ways to append segments

A text enters a path as several segments when a draft is extended by it, as the value of an exploded
variable of a template, and as the value of a catch-all of a mapping. Each way is spelled
differently: the draft loses the slashes at its end, the expression brings its own slash, and the
catch-all is stored under another name and takes the slash in front of it along. Behind a path
without a slash at its end all three come to the same URI.

## Main results

* `Template.exists_expand_eq`: a path with an exploded variable behind it.
* `Mapping.expand_catchAll`: a path with a catch-all behind it.
* `LinkDraft.uri_extend_agrees`: the three ways.
-/

namespace Signpost

variable {front name text : Text}

/-! ### An exploded variable -/

/-- A path with an exploded variable behind it expands to the path and the segments of the value. -/
theorem Template.exists_expand_eq {lookup : Text → Option Text} (hopen : '{' ∉ front)
    (hclose : '}' ∉ front) (hname : isVariableName name = true)
    (hlookup : lookup name = some text) :
    ∃ template, parse (front ++ "\x7b/".toList ++ name ++ "*\x7d".toList) = .ok template ∧
      template.expand lookup = .ok (front ++ segmentPath text) := by
  have hliteral : Yields lookup [.literal front] front := .literal hopen hclose
  have hyields := hliteral.append (.explodedSegment hname hlookup)
  have hrender : ([Part.literal front] ++ [Part.expression [⟨name, .segment, true⟩]]).flatMap
      Part.render = front ++ "\x7b/".toList ++ name ++ "*\x7d".toList := by
    simp [Part.render, Variable.render, Variable.renderAfter, VariableKind.leading,
      VariableKind.operator, Variable.label]
  rw [← hrender]
  exact hyields.exists_template

/-! ### A catch-all -/

namespace Mapping

/-- The pieces of a path with a catch-all behind it. -/
def catchAllPieces (front name : Text) : List Chunk :=
  front.map (fun c => .literal [c]) ++ [.literal ['/'], .token ('*' :: name)]

theorem flatMap_render_catchAllPieces (front name : Text) :
    (catchAllPieces front name).flatMap Chunk.render =
      front ++ "/\x7b*".toList ++ name ++ ['}'] := by
  simp [catchAllPieces, List.flatMap_map, Chunk.render]

theorem fill_map_literal (value : Variable → Text) (front : Text) :
    fill value (front.map fun c => .literal [c]) = front := by
  induction front with
  | nil => rfl
  | cons c front ih =>
    have hnext : (front.map fun c => Chunk.literal [c]).head?.any Chunk.isCatchAll = false := by
      cases front <;> rfl
    rw [List.map_cons, fill, ih, hnext, if_neg (by simp)]
    rfl

variable (hopen : '{' ∉ front) (hclose : '}' ∉ front)
  (hname : (⟨name, true⟩ : Variable).IsPlain)

include hopen hclose hname

theorem isPlain_of_mem_catchAllPieces : ∀ chunk ∈ catchAllPieces front name, chunk.IsPlain := by
  rw [catchAllPieces, List.forall_mem_append, List.forall_mem_map]
  refine ⟨fun c hc => .literal c ?_ ?_, ?_⟩
  · exact fun hbrace => hopen (hbrace ▸ hc)
  · exact fun hbrace => hclose (hbrace ▸ hc)
  · rw [List.forall_mem_cons, List.forall_mem_singleton]
    exact ⟨.literal '/' (by decide) (by decide), .token ⟨name, true⟩ hname⟩

theorem chunks_catchAll :
    chunks (front ++ "/\x7b*".toList ++ name ++ ['}']) = catchAllPieces front name := by
  rw [← flatMap_render_catchAllPieces, chunks_flatMap]
  exact fun chunk hchunk => (isPlain_of_mem_catchAllPieces hopen hclose hname chunk hchunk).isFlat

theorem declared_catchAll :
    declared (front ++ "/\x7b*".toList ++ name ++ ['}']) = [⟨name, true⟩] := by
  have htoken : [Chunk.literal ['/'], .token ('*' :: name)].flatMap Chunk.declared =
      [⟨name, true⟩] :=
    congrArg ([·]) hname.tokenVariable_content
  have hfront : (front.map fun c => Chunk.literal [c]).flatMap Chunk.declared = [] := by
    rw [List.flatMap_eq_nil_iff, List.forall_mem_map]
    exact fun c _ => rfl
  rw [declared_eq_flatMap, chunks_catchAll hopen hclose hname, catchAllPieces, List.flatMap_append,
    hfront, htoken, List.nil_append]

/-- A path with a catch-all behind it has one variable. -/
theorem vars_parse_catchAll :
    (parse (front ++ "/\x7b*".toList ++ name ++ ['}'])).vars = [⟨name, true⟩] := by
  rw [parse, ← declared, declared_catchAll hopen hclose hname]
  rfl

theorem isPlain_catchAll : IsPlain [front ++ "/\x7b*".toList ++ name ++ ['}']] where
  chunk := by
    rw [List.forall_mem_singleton, chunks_catchAll hopen hclose hname]
    exact isPlain_of_mem_catchAllPieces hopen hclose hname
  alike := by
    rw [List.flatMap_singleton, declared_catchAll hopen hclose hname]
    simp

/-- A path with a catch-all behind it expands to the path and the value of the catch-all. -/
theorem expand_catchAll {value? : Text → Option Substitution}
    (hvalue : value? (⟨name, true⟩ : Variable).key = some (.text text)) :
    (parse (front ++ "/\x7b*".toList ++ name ++ ['}'])).expand value? = front ++ text := by
  have hyields : ∀ v ∈ (parse (front ++ "/\x7b*".toList ++ name ++ ['}'])).vars,
      Yields value? (fun _ => text) v := by
    rw [vars_parse_catchAll hopen hclose hname, List.forall_mem_singleton]
    exact .inl hvalue
  rw [expand_parse_eq_fill (isPlain_catchAll hopen hclose hname) hyields,
    chunks_catchAll hopen hclose hname, catchAllPieces, fill_append rfl, fill_map_literal, fill,
    if_pos ⟨rfl, rfl⟩, fill, fill, List.nil_append, List.append_nil]

end Mapping

/-! ### The three ways -/

/-- **Segments are appended alike.** Take any path without a slash at its end, any name that can
stand in a template and in a mapping, any text, and any value that is formatted as this text.
Extending the path by the text, expanding the template with an exploded variable behind the path,
and expanding the mapping with a catch-all behind it, bound to the value by name or by position,
give one URI. It is the path itself exactly if the text has nothing between its slashes. -/
theorem LinkDraft.uri_extend_agrees {lookup : Text → Option Text} {formatters : Formatters}
    {scalar : Scalar} (hfront : ∀ c ∈ front, c ∉ "{}?#".toList)
    (hslash : front.getLast? ≠ some '/') (hname : isVariableName name = true)
    (hplain : (⟨name, true⟩ : Mapping.Variable).IsPlain)
    (hlookup : lookup name = some text) (hformat : formatters.format scalar = text) :
    let uri := (({ uri := front } : LinkDraft).extend text).uri
    let mapping := Mapping.parse (front ++ "/\x7b*".toList ++ name ++ ['}'])
    (∃ template, Template.parse (front ++ "\x7b/".toList ++ name ++ "*\x7d".toList) = .ok template ∧
        template.expand lookup = .ok uri) ∧
      (PathBinding.bind formatters mapping [] name (.scalar scalar)).expand mapping = uri ∧
      (PathBinding.ofParameters formatters mapping [.scalar scalar]).expand mapping = uri ∧
      (uri = front ↔ Text.segments text = []) := by
  intro uri mapping
  have hopen : '{' ∉ front := fun h => hfront _ h (by decide)
  have hclose : '}' ∉ front := fun h => hfront _ h (by decide)
  have hpath : ∀ c ∈ front, endsPath c = false := by
    refine fun c hc => Bool.eq_false_iff.mpr fun hends => hfront c hc ?_
    rcases (by simpa [endsPath] using hends : c = '?' ∨ c = '#') with rfl | rfl
    · decide
    · decide
  have huri : uri = front ++ Template.segmentPath text :=
    appendSegments_eq_append hpath hslash text
  have hvars := Mapping.vars_parse_catchAll hopen hclose hplain
  have hmem : ⟨name, true⟩ ∈ mapping.vars := hvars ▸ List.mem_cons_self
  have htext : PathBinding.text? formatters ⟨name, true⟩ (.scalar scalar) =
      some (Template.segmentPath text) := by
    rw [PathBinding.text?, hformat]
    rfl
  -- what is bound under the key of the catch-all is all that the expansion needs
  have hexpand (values : PathBinding)
      (hbound : values.get? (⟨name, true⟩ : Mapping.Variable).key =
        some (.text (Template.segmentPath text))) : values.expand mapping = uri := by
    rw [huri]
    refine Mapping.expand_catchAll hopen hclose hplain ?_
    rw [PathBinding.get?_complete, hbound, Option.some_or]
  refine ⟨?_, hexpand _ ?_, hexpand _ ?_, ?_⟩
  · rw [huri]
    exact Template.exists_expand_eq hopen hclose hname hlookup
  · have hfor : PathBinding.variableFor mapping name = ⟨name, true⟩ := by
      rw [PathBinding.variableFor, Mapping.find?_name hmem, Option.getD_some]
    rw [PathBinding.get?_bind, hfor, if_pos rfl, htext]
  · rw [PathBinding.get?_ofParameters hmem, hvars, PathBinding.positionText?,
      List.idxOf_cons_self, List.getElem?_cons_zero, Option.bind_some, htext, Option.map_some]
  · rw [huri, List.append_right_eq_self]
    exact Template.segmentPath_eq_nil_iff

/-- Empty parts and repeated slashes are left out in each of the three ways. -/
theorem LinkDraft.uri_extend_agrees_files :
    let front := "/files".toList
    let path := "path".toList
    let text := "/a b//é?/".toList
    let uri := "/files/a%20b/%C3%A9%3F".toList
    let scalar : Scalar := ⟨"String".toList, text⟩
    let mapping := Mapping.parse (front ++ "/\x7b*".toList ++ path ++ ['}'])
    (({ uri := front } : LinkDraft).extend text).uri = uri ∧
      (∃ template, Template.parse (front ++ "\x7b/".toList ++ path ++ "*\x7d".toList) = .ok template ∧
        template.expand (fun _ => some text) = .ok uri) ∧
      (PathBinding.bind {} mapping [] path (.scalar scalar)).expand mapping = uri ∧
      (PathBinding.ofParameters {} mapping [.scalar scalar]).expand mapping = uri := by
  intro front path text uri scalar mapping
  have hfront : ∀ c ∈ front, c ∉ "{}?#".toList := by simp [front]
  have hplain : (⟨path, true⟩ : Mapping.Variable).IsPlain := by decide
  have huri : (({ uri := front } : LinkDraft).extend text).uri = uri := by decide
  let lookup : Text → Option Text := fun _ => some text
  have hlookup : lookup path = some text := rfl
  have hformat : ({} : Formatters).format scalar = text := rfl
  obtain ⟨htemplate, hname, hposition, -⟩ :=
    uri_extend_agrees hfront (by decide) (by decide) hplain hlookup hformat
  rw [huri] at htemplate hname hposition
  exact ⟨huri, htemplate, hname, hposition⟩

end Signpost
