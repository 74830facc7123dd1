import Mathlib.Data.List.DropRight
import Mathlib.Data.List.Forall2
import Signpost.Link.Draft
import Signpost.Proofs.Template.Expansion

/-!
# Segments behind a path

The path of a URI ends in front of the first question mark or number sign. Appending segments takes
the slashes off the end of the path and puts each segment there, encoded, behind a slash of its own.
An encoded segment holds neither a slash nor a mark that ends a path, so that the path ends in the
same place afterwards and has no slash to take off. Hence appending twice is appending once.

## Main definitions

* `LinkDraft.pathOf`, `LinkDraft.tailOf`: the path of a URI and what stands behind it.

## Main results

* `LinkDraft.pathOf_appendSegments`, `LinkDraft.tailOf_appendSegments`: the two sides afterwards.
* `LinkDraft.appendSegments_eq_self_iff`, `LinkDraft.appendSegments_inj`: which segments are told
  from the URI afterwards.
* `LinkDraft.appendSegments_appendSegments`: appending twice.
* `LinkDraft.extend_segments`: what extending a draft changes.
-/

namespace Signpost

/-! ### The path of segments -/

namespace Template

variable {value : Text}

theorem segmentPath_eq_nil_iff : segmentPath value = [] ↔ Text.segments value = [] := by
  constructor
  · intro h
    refine List.eq_nil_iff_forall_not_mem.mpr fun segment hsegment => ?_
    exact List.cons_ne_nil _ _ (List.flatMap_eq_nil_iff.mp h segment hsegment)
  · intro h
    rw [segmentPath, h, List.flatMap_nil]

theorem segmentPath_append (value other : Text) :
    segmentPath (value ++ '/' :: other) = segmentPath value ++ segmentPath other := by
  rw [segmentPath, Text.segments_append, List.flatMap_append]
  rfl

/-- The segments of a path of segments are the encoded ones of the text. -/
theorem segments_segmentPath (value : Text) :
    Text.segments (segmentPath value) = (Text.segments value).map Percent.encode := by
  have hjoin : segmentPath value =
      Text.join ['/'] ([] :: (Text.segments value).map Percent.encode) := by
    rw [Text.join_cons, List.flatMap_map]
    rfl
  have hslash : ∀ part ∈ [] :: (Text.segments value).map Percent.encode, '/' ∉ part := by
    rw [List.forall_mem_cons, List.forall_mem_map]
    exact ⟨List.not_mem_nil, fun segment _ => Percent.notMem_encode (by decide) segment⟩
  have hne : ∀ part ∈ (Text.segments value).map Percent.encode, decide (part ≠ []) = true := by
    rw [List.forall_mem_map]
    exact fun segment hsegment =>
      decide_eq_true (Percent.encode_ne_nil (Text.ne_nil_of_mem_segments hsegment))
  rw [Text.segments, hjoin, Text.splitOn_join (List.cons_ne_nil _ _) hslash,
    List.filter_cons_of_neg (by simp), List.filter_eq_self.mpr hne]

/-- Two texts make one path of segments exactly if they have the same segments. -/
theorem segmentPath_inj {other : Text} :
    segmentPath value = segmentPath other ↔ Text.segments value = Text.segments other := by
  constructor
  · intro h
    have hencoded := congrArg Text.segments h
    rw [segments_segmentPath, segments_segmentPath] at hencoded
    exact List.map_injective_iff.mpr Percent.encode_injective hencoded
  · intro h
    rw [segmentPath, h, segmentPath]

/-- A path of segments ends with a segment, so that no slash is taken off its end. -/
theorem dropEndWhile_append_segmentPath (hne : Text.segments value ≠ []) (front : Text) :
    Text.dropEndWhile (· = '/') (front ++ segmentPath value) = front ++ segmentPath value := by
  obtain ⟨earlier, last, hsegments⟩ :=
    (List.eq_nil_or_concat' (Text.segments value)).resolve_left hne
  have hlast : last ≠ [] :=
    Text.ne_nil_of_mem_segments (hsegments ▸ List.mem_append_right _ List.mem_cons_self)
  have hstays : ∀ c ∈ Percent.encode last, decide (c = '/') = false := fun c hc =>
    decide_eq_false fun hslash => Percent.notMem_encode (by decide) last (hslash ▸ hc)
  have hpath : front ++ segmentPath value =
      front ++ (earlier.flatMap fun segment => '/' :: Percent.encode segment) ++ ['/'] ++
        Percent.encode last := by
    rw [segmentPath, hsegments, List.flatMap_append, List.flatMap_singleton]
    simp
  rw [hpath, Text.dropEndWhile_append_of_ne_nil (Percent.encode_ne_nil hlast) hstays]

end Template

namespace LinkDraft

/-- The path of a URI: what stands in front of its query and its fragment. -/
def pathOf (uri : Text) : Text :=
  uri.takeWhile (!endsPath ·)

/-- What stands behind the path of a URI. -/
def tailOf (uri : Text) : Text :=
  uri.dropWhile (!endsPath ·)

variable {uri front segments other : Text}

/-! ### Path and tail -/

theorem pathOf_append_tailOf (uri : Text) : pathOf uri ++ tailOf uri = uri :=
  List.takeWhile_append_dropWhile

theorem endsPath_of_mem_pathOf {c : Char} (h : c ∈ pathOf uri) : endsPath c = false := by
  simpa using List.mem_takeWhile_imp h

theorem pathOf_append (h : ∀ c ∈ front, endsPath c = false) (rest : Text) :
    pathOf (front ++ rest) = front ++ pathOf rest :=
  List.takeWhile_append_of_pos fun c hc => by simp [h c hc]

theorem tailOf_append (h : ∀ c ∈ front, endsPath c = false) (rest : Text) :
    tailOf (front ++ rest) = tailOf rest :=
  List.dropWhile_append_of_pos fun c hc => by simp [h c hc]

/-- A question mark or a number sign ends the path. -/
theorem pathOf_append_end {c : Char} (h : ∀ d ∈ front, endsPath d = false) (hc : endsPath c = true)
    (rest : Text) : pathOf (front ++ c :: rest) = front := by
  rw [pathOf_append h, pathOf, List.takeWhile_cons_of_neg (by simp [hc]), List.append_nil]

theorem tailOf_append_end {c : Char} (h : ∀ d ∈ front, endsPath d = false) (hc : endsPath c = true)
    (rest : Text) : tailOf (front ++ c :: rest) = c :: rest := by
  rw [tailOf_append h, tailOf, List.dropWhile_cons_of_neg (by simp [hc])]

theorem tailOf_tailOf (uri : Text) : tailOf (tailOf uri) = tailOf uri :=
  List.dropWhile_idempotent _ _

theorem pathOf_tailOf (uri : Text) : pathOf (tailOf uri) = [] := by
  have hwhole := pathOf_append_tailOf (tailOf uri)
  rw [tailOf_tailOf] at hwhole
  exact List.append_left_eq_self.mp hwhole

/-! ### Appending segments -/

theorem appendSegments_of_eq_nil (h : Text.segments segments = []) :
    appendSegments uri segments = uri := by
  rw [appendSegments, Template.segmentPath_eq_nil_iff.mpr h]
  exact if_pos rfl

/-- The path that a URI has once segments are appended to it. -/
def extendedPath (uri segments : Text) : Text :=
  Text.dropEndWhile (· = '/') (pathOf uri) ++ Template.segmentPath segments

theorem appendSegments_of_ne_nil (h : Text.segments segments ≠ []) :
    appendSegments uri segments = extendedPath uri segments ++ tailOf uri :=
  if_neg (mt Template.segmentPath_eq_nil_iff.mp h)

theorem extendedPath_isPrefix (uri segments : Text) :
    extendedPath uri segments <+: appendSegments uri segments := by
  by_cases hnil : Text.segments segments = []
  · rw [appendSegments_of_eq_nil hnil, extendedPath, Template.segmentPath_eq_nil_iff.mpr hnil,
      List.append_nil]
    exact (Text.dropEndWhile_prefix _ _).trans (List.takeWhile_prefix _)
  · rw [appendSegments_of_ne_nil hnil]
    exact List.prefix_append ..

theorem endsPath_of_mem_extendedPath {c : Char} (h : c ∈ extendedPath uri segments) :
    endsPath c = false := by
  rcases List.mem_append.mp h with hpath | hsegments
  · exact endsPath_of_mem_pathOf (Text.mem_of_mem_dropEndWhile hpath)
  · have hmarks : c ≠ '?' ∧ c ≠ '#' :=
      ⟨fun hc => Template.notMem_segmentPath (by decide) (by decide) segments (hc ▸ hsegments),
        fun hc => Template.notMem_segmentPath (by decide) (by decide) segments (hc ▸ hsegments)⟩
    simp [endsPath, hmarks]

theorem pathOf_appendSegments (h : Text.segments segments ≠ []) (uri : Text) :
    pathOf (appendSegments uri segments) = extendedPath uri segments := by
  rw [appendSegments_of_ne_nil h, pathOf_append fun c => endsPath_of_mem_extendedPath,
    pathOf_tailOf, List.append_nil]

theorem tailOf_appendSegments (uri segments : Text) :
    tailOf (appendSegments uri segments) = tailOf uri := by
  by_cases h : Text.segments segments = []
  · rw [appendSegments_of_eq_nil h]
  · rw [appendSegments_of_ne_nil h, tailOf_append fun c => endsPath_of_mem_extendedPath,
      tailOf_tailOf]

theorem appendSegments_congr
    (h : Template.segmentPath segments = Template.segmentPath other) (uri : Text) :
    appendSegments uri segments = appendSegments uri other := by
  rw [appendSegments, appendSegments, h]

/-- A URI without a query and a fragment is extended at its end. -/
theorem appendSegments_of_path (hpath : ∀ c ∈ uri, endsPath c = false)
    (h : Text.segments segments ≠ []) :
    appendSegments uri segments =
      Text.dropEndWhile (· = '/') uri ++ Template.segmentPath segments := by
  have hwhole := pathOf_append hpath []
  have htail := tailOf_append hpath []
  rw [List.append_nil] at hwhole htail
  rw [appendSegments_of_ne_nil h, extendedPath, hwhole, htail]
  simp [pathOf, tailOf]

/-- A URI without a slash at its end is extended behind its last character. -/
theorem appendSegments_eq_append (hpath : ∀ c ∈ uri, endsPath c = false)
    (hslash : uri.getLast? ≠ some '/') (segments : Text) :
    appendSegments uri segments = uri ++ Template.segmentPath segments := by
  by_cases hnil : Text.segments segments = []
  · rw [appendSegments_of_eq_nil hnil, Template.segmentPath_eq_nil_iff.mpr hnil, List.append_nil]
  · have hlast : ∀ c ∈ uri.getLast?, decide (c = '/') = false := fun c hc =>
      decide_eq_false fun hc' => hslash (hc' ▸ hc)
    rw [appendSegments_of_path hpath hnil, Text.dropEndWhile_eq_self_of_getLast? hlast]

/-- Appending nothing is told from appending anything. -/
theorem appendSegments_eq_self_iff : appendSegments uri segments = uri ↔
    Text.segments segments = [] := by
  refine ⟨fun h => ?_, appendSegments_of_eq_nil⟩
  by_contra hne
  -- with no slash at its end, the path would be as long as without the segments
  have hpath := pathOf_appendSegments hne uri
  rw [h] at hpath
  have hends := congrArg (Text.dropEndWhile (· = '/')) hpath
  rw [extendedPath, Template.dropEndWhile_append_segmentPath hne, List.self_eq_append_right] at hends
  exact hne (Template.segmentPath_eq_nil_iff.mp hends)

/-- Two texts give one URI exactly if they have the same segments. -/
theorem appendSegments_inj : appendSegments uri segments = appendSegments uri other ↔
    Text.segments segments = Text.segments other := by
  refine ⟨fun h => ?_, fun h => appendSegments_congr (Template.segmentPath_inj.mpr h) uri⟩
  by_cases hfirst : Text.segments segments = []
  · rw [appendSegments_of_eq_nil hfirst] at h
    rw [hfirst, appendSegments_eq_self_iff.mp h.symm]
  · by_cases hsecond : Text.segments other = []
    · rw [appendSegments_of_eq_nil hsecond] at h
      exact absurd (appendSegments_eq_self_iff.mp h) hfirst
    · rw [appendSegments_of_ne_nil hfirst, appendSegments_of_ne_nil hsecond] at h
      exact Template.segmentPath_inj.mp (List.append_cancel_left (List.append_cancel_right h))

/-- **Appending twice is appending once**, with a slash between the two texts. -/
theorem appendSegments_appendSegments (uri segments other : Text) :
    appendSegments (appendSegments uri segments) other =
      appendSegments uri (segments ++ '/' :: other) := by
  have hboth := Template.segmentPath_append segments other
  by_cases hfirst : Text.segments segments = []
  · rw [Template.segmentPath_eq_nil_iff.mpr hfirst, List.nil_append] at hboth
    rw [appendSegments_of_eq_nil hfirst, appendSegments_congr hboth]
  · by_cases hsecond : Text.segments other = []
    · rw [Template.segmentPath_eq_nil_iff.mpr hsecond, List.append_nil] at hboth
      rw [appendSegments_of_eq_nil hsecond, appendSegments_congr hboth]
    · have hne : Text.segments (segments ++ '/' :: other) ≠ [] := by
        rw [Text.segments_append]
        exact List.append_ne_nil_of_left_ne_nil hfirst _
      -- the path that the first text makes ends with a segment
      have hpath : extendedPath (appendSegments uri segments) other =
          extendedPath uri (segments ++ '/' :: other) := by
        rw [extendedPath, pathOf_appendSegments hfirst, extendedPath,
          Template.dropEndWhile_append_segmentPath hfirst, List.append_assoc, ← hboth]
        rfl
      rw [appendSegments_of_ne_nil hsecond, hpath, tailOf_appendSegments,
        appendSegments_of_ne_nil hne]

/-- **What extending a draft changes.** Extending by two texts in turn is extending by both with a
slash between them. The query and the fragment of the URI, the variables and the operations stay. A
text without a non-empty part between its slashes changes nothing; any other takes the slashes off
the end of the path and puts there, in their order and each behind one slash, texts without a slash
of which each is the encoded form of a non-empty part. -/
theorem extend_segments (draft : LinkDraft) (segments other : Text) :
    (draft.extend segments).extend other = draft.extend (segments ++ '/' :: other) ∧
      tailOf (draft.extend segments).uri = tailOf draft.uri ∧
      (draft.extend segments).vars = draft.vars ∧
      (draft.extend segments).affordances = draft.affordances ∧
      (Text.segments segments = [] → draft.extend segments = draft) ∧
      (Text.segments segments ≠ [] →
        ∃ encoded : List Text,
          List.Forall₂ (fun part segment => '/' ∉ part ∧ Percent.decode? part = some segment)
            encoded (Text.segments segments) ∧
          pathOf (draft.extend segments).uri =
            Text.dropEndWhile (· = '/') (pathOf draft.uri) ++ encoded.flatMap ('/' :: ·)) := by
  refine ⟨?_, tailOf_appendSegments draft.uri segments, rfl, rfl, fun h => ?_, fun h => ?_⟩
  · rw [extend, extend, extend, appendSegments_appendSegments]
  · rw [extend, appendSegments_of_eq_nil h]
  · refine ⟨(Text.segments segments).map Percent.encode, ?_, ?_⟩
    · rw [List.forall₂_map_left_iff, List.forall₂_same]
      exact fun segment _ =>
        ⟨Percent.notMem_encode (by decide) segment, Percent.decode?_encode segment⟩
    · rw [List.flatMap_map]
      exact pathOf_appendSegments h draft.uri

/-- Slashes at the end of the path and around the segments do not count. -/
theorem extend_segments_people :
    let draft : LinkDraft := { uri := "/people//?page=1#top".toList }
    Text.segments "//".toList = [] ∧ draft.extend "//".toList = draft ∧
      Text.segments "42//home office/".toList ≠ [] ∧
      (∃ encoded : List Text,
        List.Forall₂ (fun part segment => '/' ∉ part ∧ Percent.decode? part = some segment)
          encoded (Text.segments "42//home office/".toList) ∧
        pathOf (draft.extend "42//home office/".toList).uri =
          Text.dropEndWhile (· = '/') (pathOf draft.uri) ++ encoded.flatMap ('/' :: ·)) ∧
      (draft.extend "42//home office/".toList).uri =
        "/people/42/home%20office?page=1#top".toList := by
  intro draft
  obtain ⟨-, -, -, -, hnone, -⟩ := extend_segments draft "//".toList []
  obtain ⟨-, -, -, -, -, hparts⟩ := extend_segments draft "42//home office/".toList []
  have hne : Text.segments "42//home office/".toList ≠ [] := by decide
  exact ⟨by decide, hnone (by decide), hne, hparts hne, by decide⟩

end LinkDraft

end Signpost
