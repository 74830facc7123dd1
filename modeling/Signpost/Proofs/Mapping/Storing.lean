import Signpost.Proofs.Mapping.Chunks

/-!
# Storing catch-alls among chunks

A catch-all is stored by replacing its token wherever the text has it, or its token together with a
slash in front of it if the text has that. Among closed chunks an occurrence of the token is a chunk
of its own, unless it is inside a longer token. Hence, if there are no such occurrences, storing
takes place chunk by chunk, and what is behind the closed chunks is left to itself.

## Main definitions

* `Mapping.Variable.content`: what stands between the braces of a token.
* `Mapping.Variable.IsWholeIn`: a chunk with no token of the variable inside.
* `Mapping.storeEach`, `Mapping.storeBehindSlash`, `Mapping.storedIn`: storing among chunks.

## Main results

* `Mapping.eq_of_display_prefix`: where the token of a variable begins among closed chunks.
* `Mapping.storeCatchAll_eq`: storing among closed chunks in front of a text.
* `Mapping.flatMap_storedIn`: what storing does not change.
-/

namespace Signpost.Mapping

namespace Variable

/-- What stands between the braces of the token that declares the variable. -/
def content (v : Variable) : Text :=
  if v.catchAll then '*' :: v.name else v.name

theorem display_eq (v : Variable) : v.display = '{' :: v.content ++ ['}'] := by
  rw [display, content]
  split <;> rfl

theorem render_token_content (v : Variable) : (Chunk.token v.content).render = v.display :=
  v.display_eq.symm

theorem display_ne_nil (v : Variable) : v.display ≠ [] := by
  rw [display_eq]
  exact List.cons_ne_nil _ _

/-- The chunk has no token of the variable inside, unless it is this token. -/
def IsWholeIn (v : Variable) (chunk : Chunk) : Prop :=
  v.display <:+: chunk.render → chunk = .token v.content

end Variable

/-- Somewhere a slash stands in front of the token. -/
def HasSlashed (content : Text) : List Chunk → Prop
  | [] => False
  | chunk :: rest =>
    chunk = .literal ['/'] ∧ rest.head? = some (.token content) ∨ HasSlashed content rest

instance (content : Text) : DecidablePred (HasSlashed content)
  | [] => isFalse id
  | chunk :: rest =>
    haveI := instDecidablePredListChunkHasSlashed content rest
    inferInstanceAs (Decidable
      (chunk = .literal ['/'] ∧ rest.head? = some (.token content) ∨ HasSlashed content rest))

/-- The chunk with the token of a catch-all in stored form. -/
def storeEach (v : Variable) (chunk : Chunk) : Chunk :=
  if chunk = .token v.content then .token v.key else chunk

/-- The chunks with the tokens of a catch-all that stand behind slashes in stored form, the slashes
included. -/
def storeBehindSlash (v : Variable) : List Chunk → List Chunk
  | [] => []
  | [chunk] => [chunk]
  | chunk :: next :: rest =>
    if chunk = .literal ['/'] ∧ next = .token v.content then
      .token v.key :: storeBehindSlash v rest
    else chunk :: storeBehindSlash v (next :: rest)

/-- The chunks with a catch-all in stored form. -/
def storedIn (v : Variable) (cut : List Chunk) : List Chunk :=
  if HasSlashed v.content cut then storeBehindSlash v cut else cut.map (storeEach v)

variable {v : Variable} {cut : List Chunk} {chunk : Chunk} {start rest : Text}

/-! ### Where a token begins -/

/-- A token of the variable that begins in a closed chunk ends there. -/
theorem display_prefix_of_isClosed (hopen : Text.StaysOpen 1 v.content) (hclosed : chunk.IsClosed)
    (hstart : start <:+ chunk.render) (hne : start ≠ []) (h : v.display <+: start ++ rest) :
    v.display <+: start := by
  rcases List.prefix_or_prefix_of_prefix h (List.prefix_append start rest) with hdisplay | hshort
  · exact hdisplay
  · rw [v.display_eq] at hshort
    rcases List.prefix_concat_iff.mp hshort with hfull | hinside
    · rw [hfull, v.display_eq]
    · -- the chunk would end inside the token, where a brace is open
      obtain ⟨before, hbefore⟩ := hstart
      have hzero := hclosed.depthFrom_render
      cases start with
      | nil => exact absurd rfl hne
      | cons c start =>
        obtain ⟨rfl, hcontent⟩ := List.cons_prefix_cons.mp hinside
        rw [← hbefore, Text.depthFrom_append, Text.depthFrom_cons, Text.depthAfter_open] at hzero
        have hpos := (hopen.mono (Nat.le_add_left 1 (Text.depthFrom 0 before))) start hcontent
        exact absurd hzero (Nat.ne_of_gt hpos)

/-- Among closed chunks a token of the variable begins where its chunk begins. -/
theorem eq_of_display_prefix (hopen : Text.StaysOpen 1 v.content) (hclosed : chunk.IsClosed)
    (hwhole : v.IsWholeIn chunk) (hstart : start <:+ chunk.render) (hne : start ≠ [])
    (h : v.display <+: start ++ rest) : chunk = .token v.content ∧ start = v.display := by
  have hdisplay := display_prefix_of_isClosed hopen hclosed hstart hne h
  obtain rfl := hwhole (hdisplay.isInfix.trans hstart.isInfix)
  rw [v.render_token_content] at hstart
  exact ⟨rfl, hstart.eq_of_length_le hdisplay.length_le⟩

theorem Chunk.IsClosed.render_ne_nil (h : chunk.IsClosed) : chunk.render ≠ [] := by
  cases h with
  | literal c hopen => exact List.cons_ne_nil _ _
  | empty => exact List.cons_ne_nil _ _
  | token content hne henclosed => exact List.cons_ne_nil _ _

/-- A closed chunk that ends with a slash is a slash. -/
theorem Chunk.IsClosed.eq_slash (h : chunk.IsClosed) (hslash : chunk.render.getLast? = some '/') :
    chunk = .literal ['/'] := by
  cases h with
  | literal c hopen =>
    obtain rfl : c = '/' := Option.some_inj.mp hslash
    rfl
  | empty => exact absurd hslash (by decide)
  | token content hne henclosed =>
    rw [Chunk.render, List.getLast?_concat] at hslash
    exact absurd hslash (by decide)

theorem head?_of_display_prefix (hopen : Text.StaysOpen 1 v.content)
    (hcut : ∀ chunk ∈ cut, chunk.IsClosed ∧ v.IsWholeIn chunk) (hrest : ¬v.display <+: rest)
    (h : v.display <+: cut.flatMap Chunk.render ++ rest) : cut.head? = some (.token v.content) := by
  cases cut with
  | nil => exact absurd h hrest
  | cons chunk cut =>
    obtain ⟨hclosed, hwhole⟩ := hcut chunk List.mem_cons_self
    rw [List.flatMap_cons, List.append_assoc] at h
    obtain ⟨rfl, -⟩ := eq_of_display_prefix hopen hclosed hwhole (List.suffix_refl _)
      hclosed.render_ne_nil h
    rfl

/-- Among closed chunks a slash in front of a token of the variable is a chunk. -/
theorem eq_slash_of_display_prefix (hopen : Text.StaysOpen 1 v.content) (hclosed : chunk.IsClosed)
    (hwhole : v.IsWholeIn chunk) (hstart : start <:+ chunk.render) (hne : start ≠ [])
    (h : '/' :: v.display <+: start ++ rest) :
    chunk = .literal ['/'] ∧ start = ['/'] ∧ v.display <+: rest := by
  cases start with
  | nil => exact absurd rfl hne
  | cons c start =>
    obtain ⟨rfl, hdisplay⟩ := List.cons_prefix_cons.mp h
    have hlater : start <:+ chunk.render := (List.suffix_cons '/' start).trans hstart
    cases start with
    | nil =>
      obtain ⟨before, hbefore⟩ := hstart
      have hlast : chunk.render.getLast? = some '/' := by rw [← hbefore, List.getLast?_concat]
      exact ⟨hclosed.eq_slash hlast, rfl, hdisplay⟩
    | cons d start =>
      -- the token would be a chunk of its own, yet a slash is in front of it in the chunk
      obtain ⟨rfl, heq⟩ := eq_of_display_prefix hopen hclosed hwhole hlater
        (List.cons_ne_nil _ _) hdisplay
      rw [v.render_token_content, heq] at hstart
      have hlength := hstart.length_le
      rw [List.length_cons] at hlength
      exact absurd hlength (by omega)

/-- No token is inside a chunk whose content, if it is a token, has no braces. -/
theorem Chunk.IsClosed.isWholeIn (h : chunk.IsClosed) (hne : v.content ≠ [])
    (hflat : ∀ content, chunk = .token content → '{' ∉ content ∧ '}' ∉ content) :
    v.IsWholeIn chunk := by
  intro hinfix
  have hlength := hinfix.length_le
  have hpos := List.length_pos_of_ne_nil hne
  rw [v.display_eq] at hinfix hlength
  cases h with
  | literal c hopen =>
    simp [Chunk.render] at hlength
  | empty => simp [Chunk.render, hne] at hlength
  | token content hcontent henclosed =>
    obtain ⟨hopen, hclose⟩ := hflat content rfl
    rw [Chunk.render, List.cons_append, List.cons_append, List.infix_cons_iff] at hinfix
    rcases hinfix with hprefix | hinfix
    · rcases List.prefix_concat_iff.mp (List.cons_prefix_cons.mp hprefix).2 with heq | hshort
      · rw [(List.append_inj' heq rfl).1]
      · exact absurd (hshort.subset (List.mem_append_right _ List.mem_cons_self)) hclose
    · have hmem : '{' ∈ content ++ ['}'] := hinfix.subset List.mem_cons_self
      exact absurd ((List.mem_append.mp hmem).resolve_right (by decide)) hopen

/-! ### Replacing among chunks -/

/-- Replacing the token of a variable stores it in each chunk. -/
theorem replaceAll_display (hopen : Text.StaysOpen 1 v.content)
    (hcut : ∀ chunk ∈ cut, chunk.IsClosed ∧ v.IsWholeIn chunk) (rest : Text) :
    Text.replaceAll v.display (Chunk.token v.key).render (cut.flatMap Chunk.render ++ rest) =
      (cut.map (storeEach v)).flatMap Chunk.render ++
        Text.replaceAll v.display (Chunk.token v.key).render rest := by
  induction cut with
  | nil => rfl
  | cons chunk cut ih =>
    obtain ⟨⟨hclosed, hwhole⟩, hlater⟩ := List.forall_mem_cons.mp hcut
    rw [List.flatMap_cons, List.append_assoc, List.map_cons, List.flatMap_cons, List.append_assoc,
      ← ih hlater, storeEach]
    split
    · rename_i htoken
      rw [htoken, v.render_token_content, Text.replaceAll, Text.replaceFrom_append v.display_ne_nil]
      rfl
    · rename_i htoken
      refine Text.replaceAll_append fun start hstart hne hprefix => htoken ?_
      obtain ⟨rfl, -⟩ := eq_of_display_prefix hopen hclosed hwhole hstart hne hprefix
      rfl

/-- A closed chunk is kept unless it is a slash in front of the token. -/
theorem replaceAll_slash_display_cons (hopen : Text.StaysOpen 1 v.content)
    (hcut : ∀ other ∈ chunk :: cut, other.IsClosed ∧ v.IsWholeIn other)
    (hrest : ¬v.display <+: rest)
    (hslash : ¬(chunk = .literal ['/'] ∧ cut.head? = some (.token v.content))) (new : Text) :
    Text.replaceAll ('/' :: v.display) new ((chunk :: cut).flatMap Chunk.render ++ rest) =
      chunk.render ++
        Text.replaceAll ('/' :: v.display) new (cut.flatMap Chunk.render ++ rest) := by
  obtain ⟨⟨hclosed, hwhole⟩, hlater⟩ := List.forall_mem_cons.mp hcut
  rw [List.flatMap_cons, List.append_assoc]
  refine Text.replaceAll_append fun start hstart hne hprefix => hslash ?_
  obtain ⟨rfl, -, hdisplay⟩ := eq_slash_of_display_prefix hopen hclosed hwhole hstart hne hprefix
  exact ⟨rfl, head?_of_display_prefix hopen hlater hrest hdisplay⟩

/-- Replacing the token of a variable and a slash in front of it stores it behind slashes. -/
theorem replaceAll_slash_display (hopen : Text.StaysOpen 1 v.content)
    (hcut : ∀ chunk ∈ cut, chunk.IsClosed ∧ v.IsWholeIn chunk) (hrest : ¬v.display <+: rest) :
    Text.replaceAll ('/' :: v.display) (Chunk.token v.key).render
        (cut.flatMap Chunk.render ++ rest) =
      (storeBehindSlash v cut).flatMap Chunk.render ++
        Text.replaceAll ('/' :: v.display) (Chunk.token v.key).render rest := by
  fun_induction storeBehindSlash v cut with
  | case1 => rfl
  | case2 chunk =>
    rw [replaceAll_slash_display_cons hopen hcut hrest (by simp), List.flatMap_singleton]
    rfl
  | case3 chunk next others hslash ih =>
    obtain ⟨rfl, rfl⟩ := hslash
    have hpattern : (Chunk.literal ['/'] :: .token v.content :: others).flatMap Chunk.render =
        ('/' :: v.display) ++ others.flatMap Chunk.render := by
      rw [List.flatMap_cons, List.flatMap_cons, v.render_token_content, ← List.append_assoc]
      rfl
    have hothers := fun chunk hchunk =>
      hcut chunk (List.mem_cons_of_mem _ (List.mem_cons_of_mem _ hchunk))
    rw [hpattern, List.append_assoc, Text.replaceAll,
      Text.replaceFrom_append (List.cons_ne_nil _ _), List.flatMap_cons, List.append_assoc,
      ← ih hothers]
    rfl
  | case4 chunk next others hslash ih =>
    have hothers := fun chunk hchunk => hcut chunk (List.mem_cons_of_mem _ hchunk)
    rw [replaceAll_slash_display_cons hopen hcut hrest (by simpa using hslash), ih hothers,
      List.flatMap_cons, List.append_assoc]

/-- Where the token of a variable occurs behind a slash. -/
theorem slash_display_infix_iff (hopen : Text.StaysOpen 1 v.content)
    (hcut : ∀ chunk ∈ cut, chunk.IsClosed ∧ v.IsWholeIn chunk) (hrest : ¬v.display <+: rest) :
    '/' :: v.display <:+: cut.flatMap Chunk.render ++ rest ↔
      HasSlashed v.content cut ∨ '/' :: v.display <:+: rest := by
  induction cut with
  | nil => exact (or_iff_right id).symm
  | cons chunk cut ih =>
    obtain ⟨⟨hclosed, hwhole⟩, hlater⟩ := List.forall_mem_cons.mp hcut
    rw [List.flatMap_cons, List.append_assoc, Text.infix_append_iff_suffix, ih hlater, HasSlashed,
      or_assoc]
    refine or_congr_left ?_
    constructor
    · rintro ⟨start, hstart, hne, hprefix⟩
      obtain ⟨rfl, -, hdisplay⟩ :=
        eq_slash_of_display_prefix hopen hclosed hwhole hstart hne hprefix
      exact ⟨rfl, head?_of_display_prefix hopen hlater hrest hdisplay⟩
    · rintro ⟨rfl, hhead⟩
      obtain ⟨others, rfl⟩ := List.head?_eq_some_iff.mp hhead
      refine ⟨['/'], List.suffix_refl _, List.cons_ne_nil _ _,
        List.cons_prefix_cons.mpr ⟨rfl, ?_⟩⟩
      rw [List.flatMap_cons, v.render_token_content, List.append_assoc]
      exact List.prefix_append _ _

/-- **Storing a catch-all** among closed chunks in front of a text. -/
theorem storeCatchAll_eq (hopen : Text.StaysOpen 1 v.content)
    (hcut : ∀ chunk ∈ cut, chunk.IsClosed ∧ v.IsWholeIn chunk) (hrest : ¬v.display <+: rest) :
    storeCatchAll (cut.flatMap Chunk.render ++ rest) v =
      if HasSlashed v.content cut ∨ '/' :: v.display <:+: rest then
        (storeBehindSlash v cut).flatMap Chunk.render ++
          Text.replaceAll ('/' :: v.display) (Chunk.token v.key).render rest
      else
        (cut.map (storeEach v)).flatMap Chunk.render ++
          Text.replaceAll v.display (Chunk.token v.key).render rest := by
  rw [storeCatchAll]
  simp only [Text.hasInfix_iff, slash_display_infix_iff hopen hcut hrest]
  split
  · exact replaceAll_slash_display hopen hcut hrest
  · exact replaceAll_display hopen hcut rest

/-- Storing a catch-all in a text of closed chunks. -/
theorem storeCatchAll_flatMap_render (hopen : Text.StaysOpen 1 v.content)
    (hcut : ∀ chunk ∈ cut, chunk.IsClosed ∧ v.IsWholeIn chunk) :
    storeCatchAll (cut.flatMap Chunk.render) v = (storedIn v cut).flatMap Chunk.render := by
  have hnil : ¬v.display <+: [] := fun h => v.display_ne_nil (List.prefix_nil.mp h)
  have hnone : ¬('/' :: v.display) <:+: [] := fun h => absurd (List.infix_nil.mp h) (by simp)
  have heq := storeCatchAll_eq hopen hcut hnil
  rw [List.append_nil] at heq
  rw [heq, storedIn]
  simp only [hnone, or_false, Text.replaceAll, Text.replaceFrom, List.append_nil]
  split <;> rfl

/-! ### What storing changes -/

section

variable {α : Type*} {f : Chunk → List α}

theorem flatMap_map_storeEach (hkey : f (.token v.key) = f (.token v.content))
    (cut : List Chunk) : (cut.map (storeEach v)).flatMap f = cut.flatMap f := by
  rw [List.flatMap_map]
  refine List.flatMap_congr fun chunk _ => ?_
  rw [storeEach]
  split
  · rename_i htoken
    rw [hkey, htoken]
  · rfl

theorem flatMap_storeBehindSlash (hslash : f (.literal ['/']) = [])
    (hkey : f (.token v.key) = f (.token v.content)) (cut : List Chunk) :
    (storeBehindSlash v cut).flatMap f = cut.flatMap f := by
  fun_induction storeBehindSlash v cut with
  | case1 => rfl
  | case2 chunk => rfl
  | case3 chunk next others hboth ih =>
    obtain ⟨rfl, rfl⟩ := hboth
    rw [List.flatMap_cons, List.flatMap_cons, List.flatMap_cons, ih, hslash, hkey, List.nil_append]
  | case4 chunk next others hboth ih =>
    rw [List.flatMap_cons, ih]
    rfl

/-- Storing does not change what comes to nothing at a slash and to the same at the stored token and
the other one. -/
theorem flatMap_storedIn (hslash : f (.literal ['/']) = [])
    (hkey : f (.token v.key) = f (.token v.content)) (cut : List Chunk) :
    (storedIn v cut).flatMap f = cut.flatMap f := by
  rw [storedIn]
  split
  · exact flatMap_storeBehindSlash hslash hkey cut
  · exact flatMap_map_storeEach hkey cut

end

theorem mem_map_storeEach (h : chunk ∈ cut.map (storeEach v)) :
    chunk ∈ cut ∨ chunk = .token v.key ∧ .token v.content ∈ cut := by
  obtain ⟨other, hother, rfl⟩ := List.mem_map.mp h
  rw [storeEach]
  split
  · rename_i htoken
    exact .inr ⟨rfl, htoken ▸ hother⟩
  · exact .inl hother

theorem mem_storeBehindSlash (h : chunk ∈ storeBehindSlash v cut) :
    chunk ∈ cut ∨ chunk = .token v.key ∧ .token v.content ∈ cut := by
  fun_induction storeBehindSlash v cut with
  | case1 => exact .inl h
  | case2 other => exact .inl h
  | case3 other next others hboth ih =>
    rcases List.mem_cons.mp h with rfl | hlater
    · exact .inr ⟨rfl, hboth.2 ▸ List.mem_cons_of_mem _ List.mem_cons_self⟩
    · exact (ih hlater).imp (fun hmem => List.mem_cons_of_mem _ (List.mem_cons_of_mem _ hmem))
        (And.imp_right fun hmem => List.mem_cons_of_mem _ (List.mem_cons_of_mem _ hmem))
  | case4 other next others hboth ih =>
    rcases List.mem_cons.mp h with rfl | hlater
    · exact .inl List.mem_cons_self
    · exact (ih hlater).imp (List.mem_cons_of_mem _) (And.imp_right (List.mem_cons_of_mem _))

/-- Storing leaves chunks as they are or puts the stored token in the place of the other one. -/
theorem mem_storedIn (h : chunk ∈ storedIn v cut) :
    chunk ∈ cut ∨ chunk = .token v.key ∧ .token v.content ∈ cut := by
  rw [storedIn] at h
  split at h
  · exact mem_storeBehindSlash h
  · exact mem_map_storeEach h

/-! ### Stored tokens -/

namespace Variable

theorem content_of_catchAll (hcatch : v.catchAll = true) : v.content = '*' :: v.name := by
  rw [content, if_pos hcatch]

theorem key_of_catchAll (hcatch : v.catchAll = true) :
    v.key = catchAllLead ++ v.name ++ catchAllTail := by
  rw [key, if_pos hcatch]

theorem head?_key (hcatch : v.catchAll = true) : v.key.head? = some '_' := by
  rw [key_of_catchAll hcatch]
  rfl

/-- A stored token is none of a catch-all. -/
theorem key_ne_star (hcatch : v.catchAll = true) (name : Text) : v.key ≠ '*' :: name := by
  intro h
  have hhead := head?_key hcatch
  rw [h, List.head?_cons, Option.some_inj] at hhead
  exact absurd hhead (by decide)

theorem key_ne_nil (hcatch : v.catchAll = true) : v.key ≠ [] := by
  intro hnil
  have hhead := head?_key hcatch
  rw [hnil] at hhead
  exact absurd hhead (by simp)

theorem isEnclosed_content_iff (hcatch : v.catchAll = true) :
    Text.IsEnclosed v.content ↔ Text.IsEnclosed v.name := by
  rw [content_of_catchAll hcatch, ← List.singleton_append]
  exact Text.IsEnclosed.append_iff (by decide) (by decide)

theorem isEnclosed_key (hcatch : v.catchAll = true) (h : Text.IsEnclosed v.content) :
    Text.IsEnclosed v.key := by
  rw [key_of_catchAll hcatch]
  have hlead : Text.IsEnclosed (catchAllLead ++ v.name) :=
    (Text.IsEnclosed.append_iff (by decide) (by decide)).mpr ((isEnclosed_content_iff hcatch).mp h)
  exact hlead.append (.of_notMem (by decide) (by decide))

/-- A stored token is closed if the other one is. -/
theorem isClosed_key (hcatch : v.catchAll = true) (h : (Chunk.token v.content).IsClosed) :
    (Chunk.token v.key).IsClosed := by
  cases h with
  | token _ hne henclosed =>
    exact .token v.key (key_ne_nil hcatch) (isEnclosed_key hcatch henclosed)

/-- A token that ends with a token of the variable is this token. -/
theorem eq_content_of_suffix {content : Text} (hopen : Text.StaysOpen 1 v.content)
    (henclosed : Text.IsEnclosed content) (h : v.display <:+ (Chunk.token content).render) :
    content = v.content := by
  rw [display_eq] at h
  obtain ⟨t, ht, hinside⟩ := (List.suffix_concat_iff.mp h).resolve_left (by simp)
  obtain ⟨rfl, -⟩ := List.append_inj' ht rfl
  rcases List.suffix_cons_iff.mp hinside with heq | ⟨front, hfront⟩
  · exact (List.cons.inj heq).2.symm
  · -- the token would leave a brace of the content open
    rw [← hfront] at henclosed
    exact absurd hopen henclosed.not_staysOpen

/-- In a token a token of the variable is the whole of it or ends in front of its last brace. -/
theorem eq_content_or_infix {content : Text} (hopen : Text.StaysOpen 1 v.content)
    (henclosed : Text.IsEnclosed content) (h : v.display <:+: (Chunk.token content).render) :
    content = v.content ∨ v.display <:+: '{' :: content :=
  (List.infix_concat_iff.mp h).imp_left (eq_content_of_suffix hopen henclosed)

/-- A token of a catch-all inside a stored token is inside the name. -/
theorem display_infix_content_of_infix_key {w : Variable} (hcatch : v.catchAll = true)
    (hwcatch : w.catchAll = true) (h : w.display <:+: '{' :: v.key) :
    w.display <:+: v.content := by
  rcases List.infix_cons_iff.mp h with hprefix | hkey
  · -- a stored token does not begin like one of a catch-all
    rw [display_eq, content_of_catchAll hwcatch, key_of_catchAll hcatch] at hprefix
    have hsecond := (List.cons_prefix_cons.mp hprefix).2
    exact absurd (List.cons_prefix_cons.mp hsecond).1 (by decide)
  · have hstart : w.display.head? = some '{' := by rw [display_eq]; rfl
    have hend : w.display.getLast? = some '}' := by rw [display_eq, List.getLast?_concat]
    rw [key_of_catchAll hcatch] at hkey
    have hname := Text.infix_of_infix_append_left hstart (by decide)
      (Text.infix_of_infix_append_right hend (by decide) hkey)
    rw [content_of_catchAll hcatch]
    exact hname.trans (List.suffix_cons '*' v.name).isInfix

/-- A stored token has no token of a catch-all inside if the other one has none. -/
theorem isWholeIn_key {w : Variable} (hcatch : v.catchAll = true) (hwcatch : w.catchAll = true)
    (hopen : Text.StaysOpen 1 w.content) (hclosed : (Chunk.token v.content).IsClosed)
    (h : w.IsWholeIn (.token v.content)) : w.IsWholeIn (.token v.key) := by
  intro hinfix
  have henclosed : Text.IsEnclosed v.content := by
    cases hclosed with
    | token _ hne henclosed => exact henclosed
  rcases eq_content_or_infix hopen (isEnclosed_key hcatch henclosed) hinfix with heq | hinside
  · exact congrArg Chunk.token heq
  · have hcontent := display_infix_content_of_infix_key hcatch hwcatch hinside
    have hwhole := h (hcontent.trans ⟨['{'], ['}'], by simp [Chunk.render]⟩)
    have hlength := hcontent.length_le
    rw [Chunk.token.inj hwhole, display_eq, List.length_append, List.length_cons] at hlength
    omega

end Variable

end Signpost.Mapping
