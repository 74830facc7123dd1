import Mathlib
import Signpost.Http.MediaType
import Signpost.Proofs.Table
import Signpost.Proofs.Text.Case

/-!
# Media types read back

A media type that has been read is written without the white space, the capital letters, the quality
values and the quotes of its text. Type, subtype and the names of parameters come back from there as
they are. A value comes back without the white space at its ends: such white space has stood inside
quotes, and writing sets no quotes around it.

## Main definitions

* `MediaType.readValue`: what reading makes of a value.
* `MediaType.IsName`, `MediaType.IsParam`, `MediaType.IsRead`: what reading leads to.

## Main results

* `MediaType.parse?_eq_some_iff`: which texts are read, and as which media types.
* `MediaType.isRead_of_parse?`: a media type that has been read.
* `MediaType.IsRead.parse?_display`: what is read from a media type that has been written.
* `MediaType.parse?_display_of_parse?`: which media types are read back as they are.
-/

namespace Signpost.MediaType

open Text (splitOn splitOnce? trim)

variable {text : Text} {media : MediaType} {param : Text × Text} {params : Table Text}

/-! ### Reading part by part -/

/-- What reading makes of a value: white space is left out, then quotes. -/
def readValue (value : Text) : Text :=
  value.trim.trimOf '"'

/-- A parameter as it is written behind a semicolon. -/
def renderParam (param : Text × Text) : Text :=
  param.1 ++ '=' :: param.2

theorem readParam_trim (params : Table Text) (written : Text) :
    readParam params written.trim = readParam params written := by
  rw [readParam, readParam, Text.trim_trim]

theorem foldl_readParam_map_trim (params : Table Text) (parts : List Text) :
    (parts.map trim).foldl readParam params = parts.foldl readParam params := by
  rw [List.foldl_map]
  exact congrArg (fun f => parts.foldl f params) (funext₂ readParam_trim)

/-- A text is read as a media type if there are a type and a subtype around the first slash of its
first part. The white space around a part does not matter. -/
theorem parse?_eq_some_iff :
    parse? text = some media ↔
      ∃ (type subtype : Text) (parts : List Text),
        (splitOn ';' text).map trim = (type ++ '/' :: subtype) :: parts ∧ '/' ∉ type ∧
          media = ⟨type.trim.toLower, subtype.trim.toLower, parts.foldl readParam []⟩ ∧
            media.type ≠ [] ∧ media.subtype ≠ [] := by
  rw [← Text.map_trim_splitOn_trim (by decide) text, parse?]
  match splitOn ';' text.trim with
  | [] => simp
  | full :: parts =>
    simp only [Option.bind_eq_bind, Option.bind_eq_some_iff, Option.guard_eq_some',
      Option.pure_def, Option.some.injEq, List.map_cons, List.cons.injEq, Prod.exists,
      Text.splitOnce?_eq_some_iff]
    constructor
    · rintro ⟨type, subtype, ⟨hslash, hfull⟩, -, hne, rfl⟩
      exact ⟨type, subtype, parts.map trim, ⟨hfull, rfl⟩, hslash,
        by rw [foldl_readParam_map_trim], hne⟩
    · rintro ⟨type, subtype, _, ⟨hfull, rfl⟩, hslash, rfl, hne⟩
      refine ⟨type, subtype, ⟨hslash, hfull⟩, ⟨⟩, hne, ?_⟩
      rw [foldl_readParam_map_trim]

/-! ### What reading leads to -/

/-- A type, a subtype or the name of a parameter as it is read. -/
structure IsName (name : Text) : Prop where
  trim_eq : name.trim = name
  toLower_eq : name.toLower = name
  notMem : ';' ∉ name

/-- A parameter as it is read. -/
structure IsParam (param : Text × Text) : Prop where
  name : IsName param.1
  equals_notMem : '=' ∉ param.1
  ne_quality : param.1 ≠ ['q']
  notMem : ';' ∉ param.2
  trimOf_eq : param.2.trimOf '"' = param.2

/-- A media type as it is read. -/
structure IsRead (media : MediaType) : Prop where
  type : IsName media.type
  type_ne_nil : media.type ≠ []
  slash_notMem : '/' ∉ media.type
  subtype : IsName media.subtype
  subtype_ne_nil : media.subtype ≠ []
  isSorted : media.params.IsSorted
  params : ∀ param ∈ media.params, IsParam param

theorem isName_toLower_trim (h : ';' ∉ text) : IsName text.trim.toLower where
  trim_eq := Text.trim_toLower (Text.trim_trim text)
  toLower_eq := Text.toLower_toLower text.trim
  notMem := Text.notMem_toLower (by decide) fun hmem => h (Text.mem_of_mem_trim hmem)

theorem notMem_readValue {c : Char} (h : c ∉ text) : c ∉ readValue text := fun hmem =>
  h ((Text.trim_sublist text).subset ((Text.trimOf_sublist '"' text.trim).subset hmem))

theorem isParam_of_splitOnce? {part name value : Text} (hpart : ';' ∉ part)
    (h : splitOnce? '=' part.trim = some (name, value)) (hname : name.trim.toLower ≠ ['q']) :
    IsParam (name.trim.toLower, readValue value) := by
  obtain ⟨hequals, heq⟩ := Text.splitOnce?_eq_some_iff.mp h
  have hsub (c : Char) (hc : c ∈ name ++ '=' :: value) : c ∈ part :=
    Text.mem_of_mem_trim (heq ▸ hc)
  have hnameMem : ';' ∉ name := fun hmem => hpart (hsub _ (List.mem_append_left _ hmem))
  have hvalueMem : ';' ∉ value := fun hmem =>
    hpart (hsub _ (List.mem_append_right _ (List.mem_cons_of_mem _ hmem)))
  exact
    { name := isName_toLower_trim hnameMem
      equals_notMem :=
        Text.notMem_toLower (by decide) fun hmem => hequals (Text.mem_of_mem_trim hmem)
      ne_quality := hname
      notMem := notMem_readValue hvalueMem
      trimOf_eq := Text.trimOf_trimOf '"' value.trim }

/-- What a further part adds is a parameter of that part. -/
theorem of_mem_readParam {part : Text} (h : param ∈ readParam params part) :
    param ∈ params ∨ ∃ name value, splitOnce? '=' part.trim = some (name, value) ∧
      name.trim.toLower ≠ ['q'] ∧ param = (name.trim.toLower, readValue value) := by
  rw [readParam] at h
  split at h
  · exact .inl h
  · rename_i name value hsplit
    dsimp only at h
    split at h
    · exact .inl h
    · rename_i hname
      exact (Table.mem_insert h).symm.imp_right fun hparam => ⟨name, value, hsplit, hname, hparam⟩

theorem isSorted_readParam (h : params.IsSorted) (part : Text) :
    (readParam params part).IsSorted := by
  rw [readParam]
  split
  · exact h
  · dsimp only
    split
    · exact h
    · exact h.insert _ _

/-- The parameters that are read are those of the parts. -/
theorem of_mem_foldl_readParam {parts : List Text} (h : param ∈ parts.foldl readParam params) :
    param ∈ params ∨ ∃ part ∈ parts, ∃ name value, splitOnce? '=' part.trim = some (name, value) ∧
      name.trim.toLower ≠ ['q'] ∧ param = (name.trim.toLower, readValue value) := by
  induction parts generalizing params with
  | nil => exact .inl h
  | cons part parts ih =>
    rcases ih h with h | ⟨later, hlater, hread⟩
    · exact (of_mem_readParam h).imp_right fun hread => ⟨part, List.mem_cons_self, hread⟩
    · exact .inr ⟨later, List.mem_cons_of_mem part hlater, hread⟩

theorem isSorted_foldl_readParam (h : params.IsSorted) (parts : List Text) :
    (parts.foldl readParam params).IsSorted := by
  induction parts generalizing params with
  | nil => exact h
  | cons part parts ih => exact ih (isSorted_readParam h part)

/-- A media type that has been read. -/
theorem isRead_of_parse? (h : parse? text = some media) : IsRead media := by
  obtain ⟨type, subtype, parts, hparts, hslash, rfl, htype, hsubtype⟩ := parse?_eq_some_iff.mp h
  have hpart (part : Text) (hmem : part ∈ (type ++ '/' :: subtype) :: parts) : ';' ∉ part := by
    rw [← hparts, List.mem_map] at hmem
    obtain ⟨written, hwritten, rfl⟩ := hmem
    exact fun hsep => Text.notMem_of_mem_splitOn hwritten (Text.mem_of_mem_trim hsep)
  have hfull := hpart _ List.mem_cons_self
  rw [List.mem_append, List.mem_cons, not_or, not_or] at hfull
  exact
    { type := isName_toLower_trim hfull.1
      type_ne_nil := htype
      slash_notMem :=
        Text.notMem_toLower (by decide) fun hmem => hslash (Text.mem_of_mem_trim hmem)
      subtype := isName_toLower_trim hfull.2.2
      subtype_ne_nil := hsubtype
      isSorted := isSorted_foldl_readParam (Table.isSorted_ofList []) parts
      params := fun param hparam => by
        rcases of_mem_foldl_readParam hparam with hnil | ⟨part, hmem, name, value, hsplit, hq, rfl⟩
        · exact absurd hnil List.not_mem_nil
        · exact isParam_of_splitOnce? (hpart part (List.mem_cons_of_mem _ hmem)) hsplit hq }

/-! ### Writing and reading back -/

theorem display_eq_join (media : MediaType) :
    media.display =
      Text.join [';'] ((media.type ++ '/' :: media.subtype) :: media.params.map renderParam) := by
  rw [Text.join_cons, List.flatMap_map]
  rfl

theorem IsParam.readParam_renderParam (h : IsParam param) (params : Table Text) :
    readParam params (renderParam param) = params.insert param.1 (readValue param.2) := by
  rw [readParam, renderParam, Text.trim_append_cons (by decide),
    Text.trimStart_eq_self h.name.trim_eq, Text.splitOnce?_append h.equals_notMem]
  dsimp only
  rw [h.name.trim_eq, h.name.toLower_eq, if_neg h.ne_quality, Text.trim_trimEnd, readValue]

theorem foldl_readParam_renderParam {written : Table Text} (h : ∀ param ∈ written, IsParam param)
    (params : Table Text) :
    (written.map renderParam).foldl readParam params =
      Table.merge params (written.map fun param => (param.1, readValue param.2)) := by
  induction written generalizing params with
  | nil => rfl
  | cons param written ih =>
    obtain ⟨hparam, hwritten⟩ := List.forall_mem_cons.mp h
    rw [List.map_cons, List.foldl_cons, hparam.readParam_renderParam]
    exact ih hwritten _

namespace IsRead

/-- The parts of a media type that has been written. -/
theorem splitOn_display (h : IsRead media) :
    splitOn ';' media.display =
      (media.type ++ '/' :: media.subtype) :: media.params.map renderParam := by
  rw [display_eq_join]
  refine Text.splitOn_join (List.cons_ne_nil _ _) fun part hpart => ?_
  rcases List.mem_cons.mp hpart with rfl | hpart
  · simp [h.type.notMem, h.subtype.notMem]
  · obtain ⟨param, hparam, rfl⟩ := List.mem_map.mp hpart
    have hread := h.params param hparam
    simp [renderParam, hread.name.notMem, hread.notMem]

/-- Of a media type that has been written, all is read back but blanks at the ends of values. -/
theorem parse?_display (h : IsRead media) :
    parse? media.display =
      some { media with params := media.params.map fun param => (param.1, readValue param.2) } := by
  have hfull : trim (media.type ++ '/' :: media.subtype) = media.type ++ '/' :: media.subtype := by
    rw [Text.trim_append_cons (by decide), Text.trimStart_eq_self h.type.trim_eq,
      Text.trimEnd_eq_self h.subtype.trim_eq]
  have hsorted : Table.IsSorted (media.params.map fun param => (param.1, readValue param.2)) := by
    rw [Table.IsSorted, Table.keys_map]
    exact h.isSorted
  refine parse?_eq_some_iff.mpr ⟨media.type, media.subtype, (media.params.map renderParam).map trim,
    ?_, h.slash_notMem, ?_, h.type_ne_nil, h.subtype_ne_nil⟩
  · rw [h.splitOn_display, List.map_cons, hfull]
  · rw [h.type.trim_eq, h.type.toLower_eq, h.subtype.trim_eq, h.subtype.toLower_eq,
      foldl_readParam_map_trim, foldl_readParam_renderParam h.params]
    exact congrArg _ (Table.ofList_of_isSorted hsorted).symm

/-- A media type is read back as it is exactly if no value has white space at its ends. -/
theorem parse?_display_iff (h : IsRead media) :
    parse? media.display = some media ↔ ∀ param ∈ media.params, param.2.trim = param.2 := by
  rw [h.parse?_display, Option.some_inj]
  have hmap : { media with params := media.params.map fun param => (param.1, readValue param.2) } =
      media ↔ (media.params.map fun param => (param.1, readValue param.2)) = media.params :=
    ⟨congrArg MediaType.params, fun hparams => by rw [hparams]⟩
  rw [hmap]
  constructor
  · intro hself param hparam
    have heq := List.map_inj_left.mp (hself.trans (List.map_id _).symm) param hparam
    exact (Text.trimOf_trim_eq_self_iff.mp (congrArg Prod.snd heq)).1
  · intro htrim
    refine (List.map_congr_left fun param hparam => ?_).trans (List.map_id _)
    have hvalue : readValue param.2 = param.2 :=
      Text.trimOf_trim_eq_self_iff.mpr ⟨htrim param hparam, (h.params param hparam).trimOf_eq⟩
    rw [hvalue]
    rfl

end IsRead

/-- Without quotes in a text there is no white space at the ends of the values that are read. -/
theorem trim_eq_of_notMem (h : parse? text = some media) (hquote : '"' ∉ text) :
    ∀ param ∈ media.params, param.2.trim = param.2 := by
  obtain ⟨type, subtype, parts, hparts, -, rfl, -, -⟩ := parse?_eq_some_iff.mp h
  intro param hparam
  rcases of_mem_foldl_readParam hparam with hnil | ⟨part, hpart, name, value, hsplit, -, rfl⟩
  · exact absurd hnil List.not_mem_nil
  · obtain ⟨written, hwritten, rfl⟩ := List.mem_map.mp (hparts ▸ List.mem_cons_of_mem _ hpart)
    obtain ⟨-, heq⟩ := Text.splitOnce?_eq_some_iff.mp hsplit
    have hvalue : '"' ∉ value := fun hmem => hquote <| Text.mem_of_mem_splitOn hwritten _ <|
      Text.mem_of_mem_trim <| Text.mem_of_mem_trim <|
        heq ▸ List.mem_append_right _ (List.mem_cons_of_mem _ hmem)
    have hread : readValue value = value.trim :=
      Text.trimOf_eq_self_of_notMem fun hmem => hvalue (Text.mem_of_mem_trim hmem)
    rw [hread, Text.trim_trim]

/-- What is read from a media type that has been read and written again. It has come back as it was
exactly if no value has white space at its ends, and it always does if there were no quotes. -/
theorem parse?_display_of_parse? (text : Text) (media : MediaType) (h : parse? text = some media) :
    parse? media.display =
        some { media with
          params := media.params.map fun param => (param.1, param.2.trim.trimOf '"') } ∧
      (parse? media.display = some media ↔ ∀ param ∈ media.params, param.2.trim = param.2) ∧
      ('"' ∉ text → parse? media.display = some media) := by
  have hread := isRead_of_parse? h
  exact ⟨hread.parse?_display, hread.parse?_display_iff, fun hquote =>
    hread.parse?_display_iff.mpr (trim_eq_of_notMem h hquote)⟩

theorem parse?_display_of_parse?_title :
    let media : MediaType := ⟨"text".toList, "plain".toList, [("title".toList, "a b".toList)]⟩
    parse? "Text/Plain; q=0.5; title=\"a b\"".toList = some media ∧
      parse? media.display = some media := by
  have hparse : parse? "Text/Plain; q=0.5; title=\"a b\"".toList =
      some ⟨"text".toList, "plain".toList, [("title".toList, "a b".toList)]⟩ := by
    cbv
  refine ⟨hparse, (parse?_display_of_parse? _ _ hparse).2.1.mpr ?_⟩
  decide

/-- White space inside the quotes around a value is lost. -/
theorem parse?_display_title_ne :
    ∃ (text : Text) (media : MediaType), parse? text = some media ∧
      parse? media.display ≠ some media := by
  have hparse : parse? "text/plain;title=\" a \"".toList =
      some ⟨"text".toList, "plain".toList, [("title".toList, " a ".toList)]⟩ := by
    cbv
  refine ⟨_, _, hparse, fun hback => ?_⟩
  exact absurd ((isRead_of_parse? hparse).parse?_display_iff.mp hback) (by decide)

end Signpost.MediaType
