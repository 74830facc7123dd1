import Mathlib.Data.List.Induction
import Mathlib.Data.List.Nodup
import Signpost.Mapping.Basic
import Signpost.Proofs.Text.Replacing
import Signpost.Proofs.Text.Separators

/-!
# What a mapping consists of

Cutting a mapping into chunks loses nothing. Reading a mapping adds braces and the marks of stored
catch-alls and nothing else, so that an expansion consists of characters of the declared text, of
braces and of the values put in. An ordinary variable never has the name of a stored catch-all,
hence no other variable shares its key.

## Main definitions

* `Mapping.Avoids`: a mapping without a certain character.
* `Mapping.IsAnchored`: a mapping whose first characters no value can change.

## Main results

* `Mapping.flatMap_render_chunks`: the chunks of a text make up the text.
* `Mapping.avoids_parse`: a character that a parsed mapping does not have.
* `Mapping.Avoids.notMem_expand`: a character that an expansion does not have.
* `Mapping.eq_of_key_eq_name`: the key of an ordinary variable belongs to it alone.
* `Mapping.eq_of_key_eq`: different variables of a parsed mapping have different keys.
* `Mapping.IsAnchored.not_prefix_expand`: mappings whose expansions begin with no two slashes.
-/

namespace Signpost.Mapping

/-! ### Chunks -/

/-- The chunks of a text make up the text. -/
theorem flatMap_render_chunks (text : Text) : (chunks text).flatMap Chunk.render = text := by
  fun_induction chunks text with
  | case1 => rfl
  | case2 rest content after h hshort ih =>
    rw [List.flatMap_cons, ih, Text.eq_append_of_closeBrace? h]
    by_cases hempty : content = []
    · simp [hempty, Chunk.render]
    · simp [hempty, Chunk.render]
  | case3 rest h => simp [Chunk.render]
  | case4 c rest hc ih => rw [List.flatMap_cons, ih, Chunk.render, List.singleton_append]

theorem mem_of_mem_chunks {text : Text} {chunk : Chunk} {c : Char} (h : chunk ∈ chunks text)
    (hc : c ∈ chunk.render) : c ∈ text :=
  flatMap_render_chunks text ▸ List.mem_flatMap.mpr ⟨chunk, h, hc⟩

theorem mem_of_mem_tokens {text content : Text} {c : Char} (h : content ∈ tokens text)
    (hc : c ∈ content) : c ∈ text := by
  obtain ⟨chunk, hchunk, hcontent⟩ := List.mem_filterMap.mp h
  cases chunk with
  | literal => exact absurd hcontent (by simp)
  | token inner =>
    obtain rfl := Option.some_inj.mp hcontent
    exact mem_of_mem_chunks hchunk (by simp [Chunk.render, hc])

/-! ### The variables of a parsed mapping -/

theorem mem_of_mem_tokenName {content : Text} {c : Char} (h : c ∈ tokenName content) :
    c ∈ content := by
  have hc : c ∈ (Text.stripLead? ['*'] content).getD content :=
    List.takeWhile_subset _ (Text.mem_of_mem_trim h)
  cases hstrip : Text.stripLead? ['*'] content with
  | none => rwa [hstrip] at hc
  | some rest =>
    rw [hstrip] at hc
    rw [Text.stripLead?_eq_some_iff.mp hstrip]
    exact List.mem_append_right _ hc

/-- The stored form of a catch-all holds its name between two marks. -/
theorem catchAllName?_eq_some_iff {name inner : Text} :
    catchAllName? name = some inner ↔
      name = Variable.catchAllLead ++ inner ++ Variable.catchAllTail := by
  simp only [catchAllName?, Option.bind_eq_bind, Option.bind_eq_some_iff,
    Text.stripLead?_eq_some_iff, Text.stripTail?_eq_some_iff]
  constructor
  · rintro ⟨rest, rfl, rfl⟩
    rw [List.append_assoc]
  · rintro rfl
    exact ⟨inner ++ Variable.catchAllTail, List.append_assoc .., rfl⟩

theorem mem_of_mem_tokenVariable {content : Text} {c : Char}
    (h : c ∈ (tokenVariable content).name) : c ∈ content := by
  apply mem_of_mem_tokenName
  rw [tokenVariable] at h
  split at h
  · exact h
  · split at h
    · rename_i inner hinner
      rw [catchAllName?_eq_some_iff.mp hinner]
      exact List.mem_append_left _ (List.mem_append_right _ h)
    · exact h

theorem catchAllName?_tokenVariable {content : Text}
    (h : (tokenVariable content).catchAll = false) :
    catchAllName? (tokenVariable content).name = none := by
  rw [tokenVariable] at h ⊢
  split at h
  · exact absurd h (by simp)
  · rename_i hstar
    rw [if_neg hstar]
    split at h
    · exact absurd h (by simp)
    · rename_i hnone
      rw [hnone]

theorem mem_of_mem_firstOfEachName {vars : List Variable} {v : Variable}
    (h : v ∈ firstOfEachName vars) : v ∈ vars := by
  have hkept : ∀ w ∈ firstOfEachName vars, w ∈ vars := by
    refine List.foldlRecOn vars _ (motive := fun kept => ∀ w ∈ kept, w ∈ vars)
      (fun w hw => absurd hw List.not_mem_nil) ?_
    intro kept ih u hu w hw
    split at hw
    · exact ih w hw
    · rcases List.mem_append.mp hw with hold | hnew
      · exact ih w hold
      · exact List.mem_singleton.mp hnew ▸ hu
  exact hkept v h

theorem any_name_iff {vars : List Variable} {name : Text} :
    vars.any (·.name = name) = true ↔ name ∈ vars.map Variable.name := by
  simp

theorem firstOfEachName_concat (vars : List Variable) (v : Variable) :
    firstOfEachName (vars ++ [v]) =
      if v.name ∈ (firstOfEachName vars).map Variable.name then firstOfEachName vars
      else firstOfEachName vars ++ [v] := by
  rw [firstOfEachName, List.foldl_append, ← firstOfEachName, List.foldl_cons, List.foldl_nil]
  exact if_congr any_name_iff rfl rfl

/-- Going on with further variables takes the first of each name that is new. -/
theorem foldl_keep_eq (kept vars : List Variable) :
    vars.foldl (fun kept v => if kept.any (·.name = v.name) then kept else kept ++ [v]) kept =
      kept ++ (firstOfEachName vars).filter (·.name ∉ kept.map Variable.name) := by
  induction vars using List.reverseRecOn with
  | nil => exact (List.append_nil kept).symm
  | append_singleton vars v ih =>
    rw [List.foldl_append, ih, List.foldl_cons, List.foldl_nil, firstOfEachName_concat]
    simp only [any_name_iff, List.map_append, List.mem_append]
    by_cases hold : v.name ∈ kept.map Variable.name
    · -- the name is kept already, and the filter leaves `v` out
      rw [if_pos (.inl hold)]
      split
      · rfl
      · rw [List.filter_append, List.filter_cons_of_neg (by simpa using hold), List.filter_nil,
          List.append_nil]
    · by_cases hseen : v.name ∈ (firstOfEachName vars).map Variable.name
      · have hnew : v.name ∈ ((firstOfEachName vars).filter
            (·.name ∉ kept.map Variable.name)).map Variable.name := by
          obtain ⟨w, hw, hname⟩ := List.mem_map.mp hseen
          refine List.mem_map.mpr ⟨w, List.mem_filter.mpr ⟨hw, ?_⟩, hname⟩
          rw [hname]
          exact decide_eq_true hold
        rw [if_pos (.inr hnew), if_pos hseen]
      · have hnew : v.name ∉ ((firstOfEachName vars).filter
            (·.name ∉ kept.map Variable.name)).map Variable.name := fun hmem =>
          hseen (List.map_subset _ (List.filter_subset_self _) hmem)
        rw [if_neg (not_or.mpr ⟨hold, hnew⟩), if_neg hseen, List.filter_append,
          List.filter_cons_of_pos (by simpa using hold), List.filter_nil, List.append_assoc]

/-- The first of each name in two lists: those of the first list, then those of the second one under
other names. -/
theorem firstOfEachName_append (vars others : List Variable) :
    firstOfEachName (vars ++ others) = firstOfEachName vars ++
      (firstOfEachName others).filter (·.name ∉ (firstOfEachName vars).map Variable.name) := by
  rw [firstOfEachName, List.foldl_append]
  exact foldl_keep_eq _ others

theorem firstOfEachName_prefix_append (vars others : List Variable) :
    firstOfEachName vars <+: firstOfEachName (vars ++ others) := by
  rw [firstOfEachName_append]
  exact List.prefix_append _ _

/-- Every name is kept. -/
theorem exists_mem_firstOfEachName {vars : List Variable} {v : Variable} (h : v ∈ vars) :
    ∃ w ∈ firstOfEachName vars, w.name = v.name := by
  obtain ⟨before, after, rfl⟩ := List.append_of_mem h
  have hkept : ∃ w ∈ firstOfEachName (before ++ [v]), w.name = v.name := by
    rw [firstOfEachName_concat]
    split
    · rename_i hseen
      exact List.mem_map.mp hseen
    · exact ⟨v, List.mem_append_right _ List.mem_cons_self, rfl⟩
  obtain ⟨w, hw, hname⟩ := hkept
  have hprefix := firstOfEachName_prefix_append (before ++ [v]) after
  rw [List.append_assoc, List.singleton_append] at hprefix
  exact ⟨w, hprefix.subset hw, hname⟩

/-- The variables that are kept have different names. -/
theorem nodup_map_name_firstOfEachName (vars : List Variable) :
    ((firstOfEachName vars).map Variable.name).Nodup := by
  refine List.foldlRecOn vars _
    (motive := fun kept : List Variable => (kept.map Variable.name).Nodup) List.nodup_nil ?_
  intro kept hkept v _
  split
  · exact hkept
  · rename_i hnew
    rw [List.map_append, List.map_singleton]
    refine hkept.append (List.nodup_singleton v.name) ?_
    simpa using hnew

/-- Two variables of a parsed mapping with one name are one. -/
theorem eq_of_name_eq {raw : Text} {v w : Variable} (hv : v ∈ (parse raw).vars)
    (hw : w ∈ (parse raw).vars) (h : v.name = w.name) : v = w :=
  List.inj_on_of_nodup_map (nodup_map_name_firstOfEachName _) hv hw h

theorem exists_token_of_mem_vars {raw : Text} {v : Variable} (h : v ∈ (parse raw).vars) :
    ∃ content ∈ tokens raw, v = tokenVariable content := by
  obtain ⟨content, hcontent, rfl⟩ := List.mem_map.mp (mem_of_mem_firstOfEachName h)
  exact ⟨content, hcontent, rfl⟩

/-- The name of an ordinary variable is no stored form of a catch-all. -/
theorem catchAllName?_of_mem_vars {raw : Text} {v : Variable} (h : v ∈ (parse raw).vars)
    (hordinary : v.catchAll = false) : catchAllName? v.name = none := by
  obtain ⟨content, -, rfl⟩ := exists_token_of_mem_vars h
  exact catchAllName?_tokenVariable hordinary

/-- The key of a catch-all reads as the stored form of its name. -/
theorem catchAllName?_key {v : Variable} (h : v.catchAll = true) :
    catchAllName? v.key = some v.name := by
  rw [catchAllName?_eq_some_iff, Variable.key, if_pos h]

/-- No other variable has the name of an ordinary variable as its key. -/
theorem eq_of_key_eq_name {raw : Text} {v w : Variable} (hv : v ∈ (parse raw).vars)
    (hordinary : v.catchAll = false) (h : w.key = v.name) : w = v := by
  cases hw : w.catchAll with
  | true =>
    have hnone := catchAllName?_of_mem_vars hv hordinary
    rw [← h, catchAllName?_key hw] at hnone
    exact absurd hnone (by simp)
  | false =>
    rw [Variable.key, hw] at h
    obtain ⟨name, catchAll⟩ := v
    obtain ⟨name', catchAll'⟩ := w
    simp_all

/-- Two variables of a parsed mapping with one key are one. -/
theorem eq_of_key_eq {raw : Text} {v w : Variable} (hv : v ∈ (parse raw).vars)
    (hw : w ∈ (parse raw).vars) (h : v.key = w.key) : v = w := by
  cases hcatch : w.catchAll with
  | false => exact eq_of_key_eq_name hw hcatch (by rw [h, Variable.key, hcatch, if_neg (by decide)])
  | true =>
    cases hcatch' : v.catchAll with
    | false =>
      have hname : w.key = v.name := by rw [← h, Variable.key, hcatch', if_neg (by decide)]
      exact (eq_of_key_eq_name hv hcatch' hname).symm
    | true =>
      have hname := catchAllName?_key hcatch'
      rw [h, catchAllName?_key hcatch] at hname
      exact eq_of_name_eq hv hw (Option.some_inj.mp hname).symm

theorem nodup_map_key_vars (raw : Text) : ((parse raw).vars.map Variable.key).Nodup :=
  (List.Nodup.of_map _ (nodup_map_name_firstOfEachName _)).map_on fun _ hv _ hw h =>
    eq_of_key_eq hv hw h

/-- A variable of a parsed mapping is found by whatever it alone has. -/
theorem find?_eq_some_of_unique {vars : List Variable} {v : Variable} {p : Variable → Bool}
    (hv : v ∈ vars) (hp : p v = true) (hunique : ∀ w ∈ vars, p w = true → w = v) :
    vars.find? p = some v := by
  obtain ⟨w, hfind⟩ := Option.isSome_iff_exists.mp (List.find?_isSome.mpr ⟨v, hv, hp⟩)
  obtain rfl := hunique w (List.mem_of_find?_eq_some hfind) (List.find?_some hfind)
  exact hfind

theorem find?_key {raw : Text} {v : Variable} (hv : v ∈ (parse raw).vars) :
    (parse raw).vars.find? (·.key = v.key) = some v :=
  find?_eq_some_of_unique hv (by simp) fun _ hw h => eq_of_key_eq hw hv (by simpa using h)

theorem find?_name {raw : Text} {v : Variable} (hv : v ∈ (parse raw).vars) :
    (parse raw).find? v.name = some v :=
  find?_eq_some_of_unique hv (by simp) fun _ hw h => eq_of_name_eq hw hv (by simpa using h)

/-! ### Tokens -/

/-- The key that a value for a token of the stored text is looked up by. -/
def tokenKey (mapping : Mapping) (content : Text) : Text :=
  ((mapping.variableOfToken? (tokenName content)).map (·.key)).getD (tokenName content)

/-- What a token is replaced by when there is no value for it. -/
def residue (mapping : Mapping) (content : Text) : Text :=
  match mapping.variableOfToken? (tokenName content) with
  | some v => if v.catchAll then (Chunk.token content).render else '{' :: v.name ++ ['}']
  | none => (Chunk.token content).render

theorem substitute_token (mapping : Mapping) (value? : Text → Option Substitution)
    (content : Text) :
    mapping.substitute value? (.token content) =
      match value? (mapping.tokenKey content) with
      | some (.text text) => text
      | _ => mapping.residue content := by
  rw [substitute, tokenKey]
  cases value? (((mapping.variableOfToken? (tokenName content)).map (·.key)).getD
    (tokenName content)) with
  | none => rfl
  | some substitution =>
    cases substitution with
    | keep => rfl
    | text text => rfl

section

variable {mapping other : Mapping} {value? : Text → Option Substitution} {content : Text}

/-- What stands in the place of a token depends on the variables of the mapping alone. -/
theorem substitute_congr (h : mapping.vars = other.vars) (value? : Text → Option Substitution)
    (chunk : Chunk) : mapping.substitute value? chunk = other.substitute value? chunk := by
  have hfind : mapping.variableOfToken? = other.variableOfToken? := by
    funext name
    rw [variableOfToken?, variableOfToken?, h]
  cases chunk with
  | literal text => rfl
  | token content => rw [substitute, substitute, hfind]

/-- Tokens of one variable are replaced by the same text, if it is not a catch-all without a
value. -/
theorem substitute_eq_of_variableOfToken? {content' : Text} {v : Variable}
    (h : mapping.variableOfToken? (tokenName content) = some v)
    (h' : mapping.variableOfToken? (tokenName content') = some v)
    (hvalue : v.catchAll = true → ∃ text, value? v.key = some (.text text)) :
    mapping.substitute value? (.token content) = mapping.substitute value? (.token content') := by
  rw [substitute, substitute]
  simp only [h, h', Option.map_some, Option.getD_some]
  cases hcatch : v.catchAll with
  | false => simp
  | true =>
    obtain ⟨text, htext⟩ := hvalue hcatch
    simp only [htext]

end

/-- A token with the key of an ordinary variable is left as this variable. -/
theorem residue_of_tokenKey_eq_name {raw content : Text} {v : Variable}
    (hv : v ∈ (parse raw).vars) (hordinary : v.catchAll = false)
    (h : (parse raw).tokenKey content = v.name) :
    (parse raw).residue content = '{' :: v.name ++ ['}'] := by
  rw [tokenKey] at h
  rw [residue]
  cases hfind : (parse raw).variableOfToken? (tokenName content) with
  | some w =>
    rw [hfind] at h
    obtain rfl : w = v := eq_of_key_eq_name hv hordinary h
    simp [hordinary]
  | none =>
    rw [hfind] at h
    have hname : tokenName content = v.name := h
    have hnone := List.find?_eq_none.mp hfind v hv
    exact absurd hname.symm (by simpa using (not_or.mp (by simpa using hnone)).2)

/-! ### Characters that do not occur -/

/-- The character `c` stands neither in the text of the mapping nor in the name of a variable. -/
structure Avoids (c : Char) (mapping : Mapping) : Prop where
  text : c ∉ mapping.text
  vars : ∀ v ∈ mapping.vars, c ∉ v.name

/-- The characters that reading a mapping may add. -/
def marks : Text :=
  '{' :: '}' :: (Variable.catchAllLead ++ Variable.catchAllTail)

theorem notMem_storeCatchAll {c : Char} {text : Text} {v : Variable} (hmark : c ∉ marks)
    (hname : c ∉ v.name) (htext : c ∉ text) : c ∉ storeCatchAll text v := by
  simp only [marks, List.mem_cons, List.mem_append, not_or] at hmark
  obtain ⟨hopen, hclose, hlead, htail⟩ := hmark
  have hstored : c ∉ '{' :: v.key ++ ['}'] := by
    rw [Variable.key]
    split <;> simp [hopen, hclose, hlead, htail, hname]
  rw [storeCatchAll]
  split
  · exact fun h => (Text.mem_replaceAll h).elim hstored htext
  · exact fun h => (Text.mem_replaceAll h).elim hstored htext

/-- A character that a declared mapping does not have is none of the parsed mapping, the marks of
stored catch-alls apart. -/
theorem avoids_parse {c : Char} {raw : Text} (hraw : c ∉ raw) (hmark : c ∉ marks) :
    (parse raw).Avoids c := by
  have hvars : ∀ v ∈ (parse raw).vars, c ∉ v.name := by
    intro v hv hc
    obtain ⟨content, hcontent, rfl⟩ := exists_token_of_mem_vars hv
    exact hraw (mem_of_mem_tokens hcontent (mem_of_mem_tokenVariable hc))
  have htext : c ∉ (parse raw).text := by
    refine List.foldlRecOn ((parse raw).vars.filter (·.catchAll)) storeCatchAll
      (motive := fun text => c ∉ text) hraw ?_
    intro text htext v hv
    exact notMem_storeCatchAll hmark (hvars v (List.mem_filter.mp hv).1) htext
  exact ⟨htext, hvars⟩

theorem mem_vars_of_variableOfToken? {mapping : Mapping} {name : Text} {v : Variable}
    (h : mapping.variableOfToken? name = some v) : v ∈ mapping.vars :=
  List.mem_of_find?_eq_some h

/-- The variable that a token stands for has its name in the token. -/
theorem mem_of_variableOfToken? {mapping : Mapping} {content : Text} {v : Variable} {c : Char}
    (h : mapping.variableOfToken? (tokenName content) = some v) (hc : c ∈ v.name) : c ∈ content := by
  refine mem_of_mem_tokenName ?_
  have hname : v.key = tokenName content ∨ v.name = tokenName content := by
    simpa using List.find?_some h
  rcases hname with hkey | hplain
  · rw [← hkey, Variable.key]
    split
    · exact List.mem_append_left _ (List.mem_append_right _ hc)
    · exact hc
  · exact hplain ▸ hc

/-- A character that neither a stretch nor a value has does not come up, braces apart. -/
theorem notMem_substitute {mapping : Mapping} {value? : Text → Option Substitution} {chunk : Chunk}
    {c : Char} (hopen : c ≠ '{') (hclose : c ≠ '}')
    (hvalue : ∀ key text, value? key = some (.text text) → c ∉ text) (h : c ∉ chunk.render) :
    c ∉ mapping.substitute value? chunk := by
  cases chunk with
  | literal text => exact h
  | token content =>
    rw [substitute]
    split
    · rename_i text htext
      exact hvalue _ text htext
    · split
      · rename_i v hv
        split
        · exact h
        · have hname : c ∉ v.name := fun hc => h (by
            simp [Chunk.render, mem_of_variableOfToken? hv hc])
          simp [hopen, hclose, hname]
      · exact h

/-- An expansion has no character that neither the mapping nor a value has, braces apart. -/
theorem Avoids.notMem_expand {c : Char} {mapping : Mapping} {value? : Text → Option Substitution}
    (h : mapping.Avoids c) (hopen : c ≠ '{') (hclose : c ≠ '}')
    (hvalue : ∀ key text, value? key = some (.text text) → c ∉ text) :
    c ∉ mapping.expand value? := by
  intro hc
  obtain ⟨chunk, hchunk, hmem⟩ := List.mem_flatMap.mp hc
  have hrender : c ∉ chunk.render := fun hrender => h.text (mem_of_mem_chunks hchunk hrender)
  exact notMem_substitute hopen hclose hvalue hrender hmem

/-! ### First characters -/

/-- The mapping begins neither with a token, nor with two slashes, nor with a slash and a token. -/
def IsAnchored : Text → Prop
  | [] => True
  | [c] => c ≠ '{'
  | c :: d :: _ => c ≠ '{' ∧ (c = '/' → d ≠ '/' ∧ d ≠ '{')

theorem chunks_cons {c : Char} {rest : Text} (h : c ≠ '{') :
    chunks (c :: rest) = .literal [c] :: chunks rest := by
  rw [chunks.eq_def]
  simp only [h, if_false]

theorem isAnchored_cons {c : Char} (hbrace : c ≠ '{') (hslash : c ≠ '/') (rest : Text) :
    IsAnchored (c :: rest) := by
  cases rest with
  | nil => exact hbrace
  | cons d rest => exact ⟨hbrace, fun hc => absurd hc hslash⟩

theorem not_prefix_of_ne {pattern rest : Text} {c : Char}
    (hpattern : pattern.head? = some '{' ∨ ['/', '{'] <+: pattern) (hbrace : c ≠ '{')
    (hnext : c = '/' → rest.head? ≠ some '{') : ¬pattern <+: c :: rest := by
  intro hprefix
  rcases hpattern with hhead | htoken
  · obtain ⟨tail, rfl⟩ := List.head?_eq_some_iff.mp hhead
    exact hbrace (List.cons_prefix_cons.mp hprefix).1.symm
  · obtain ⟨hslash, hrest⟩ := List.cons_prefix_cons.mp (htoken.trans hprefix)
    obtain ⟨more, rfl⟩ := hrest
    exact hnext hslash.symm rfl

/-- Replacing a token, or a token behind a slash, does not change how such a mapping begins. -/
theorem IsAnchored.replaceAll {text pattern : Text} (h : IsAnchored text)
    (hpattern : pattern.head? = some '{' ∨ ['/', '{'] <+: pattern) (new : Text) :
    IsAnchored (Text.replaceAll pattern new text) := by
  rw [Text.replaceAll]
  rcases text with _ | ⟨c, _ | ⟨d, rest⟩⟩
  · exact trivial
  · have hbrace : c ≠ '{' := h
    have hkeep : ¬pattern <+: [c] := not_prefix_of_ne hpattern hbrace fun _ => by simp
    rw [Text.replaceFrom_cons hkeep]
    exact hbrace
  · obtain ⟨hbrace, hnext⟩ := h
    have hkeep : ¬pattern <+: c :: d :: rest :=
      not_prefix_of_ne hpattern hbrace fun hslash => by simpa using (hnext hslash).2
    rw [Text.replaceFrom_cons hkeep]
    by_cases hslash : c = '/'
    · obtain ⟨hdslash, hdbrace⟩ := hnext hslash
      have hkeep' : ¬pattern <+: d :: rest :=
        not_prefix_of_ne hpattern hdbrace fun hd => absurd hd hdslash
      rw [Text.replaceFrom_cons hkeep']
      exact ⟨hbrace, fun _ => ⟨hdslash, hdbrace⟩⟩
    · exact isAnchored_cons hbrace hslash _

theorem IsAnchored.storeCatchAll {text : Text} (h : IsAnchored text) {v : Variable}
    (hv : v.catchAll = true) : IsAnchored (storeCatchAll text v) := by
  have hdisplay : v.display = '{' :: '*' :: v.name ++ ['}'] := by
    rw [Variable.display, if_pos hv]
  rw [Mapping.storeCatchAll]
  split
  · refine h.replaceAll (.inr ?_) _
    rw [hdisplay]
    exact List.prefix_append ['/', '{'] _
  · refine h.replaceAll (.inl ?_) _
    rw [hdisplay]
    rfl

theorem IsAnchored.parse {raw : Text} (h : IsAnchored raw) : IsAnchored (parse raw).text := by
  refine List.foldlRecOn _ Mapping.storeCatchAll (motive := IsAnchored) h ?_
  intro text htext v hv
  exact htext.storeCatchAll (List.mem_filter.mp hv).2

/-- What is made of such a mapping does not begin with two slashes, whatever the values are. -/
theorem IsAnchored.not_prefix_expand {raw : Text} (h : IsAnchored raw)
    (value? : Text → Option Substitution) : ¬['/', '/'] <+: (Mapping.parse raw).expand value? := by
  have htext := h.parse
  rw [expand]
  match hmatch : (Mapping.parse raw).text with
  | [] => simp [chunks]
  | [c] =>
    rw [hmatch] at htext
    rw [chunks_cons htext]
    simp [chunks, substitute]
  | c :: d :: rest =>
    rw [hmatch] at htext
    obtain ⟨hbrace, hnext⟩ := htext
    rw [chunks_cons hbrace, List.flatMap_cons, substitute, List.singleton_append]
    intro hprefix
    obtain ⟨hc, hrest⟩ := List.cons_prefix_cons.mp hprefix
    obtain ⟨hdslash, hdbrace⟩ := hnext hc.symm
    rw [chunks_cons hdbrace, List.flatMap_cons, substitute, List.singleton_append,
      List.cons_prefix_cons] at hrest
    exact hdslash hrest.1.symm

end Signpost.Mapping
