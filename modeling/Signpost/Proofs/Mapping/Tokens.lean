import Signpost.Proofs.Mapping.Storing
import Signpost.Proofs.Text.Trimming

/-!
# What tokens declare

A token declares the variable with the name in it, without blanks around the name and without a
constraint. A name read from a stored token may have blanks at its ends, since the marks of a stored
name keep them from being dropped. A catch-all whose name has none is declared by its token and by
its stored token alike.

## Main definitions

* `Mapping.Variable.IsBare`: a variable whose name is read from a token as it is.
* `Mapping.declared`: the variables that the tokens of a text declare.
* `Mapping.catchAlls`: the catch-alls of a mapping.

## Main results

* `Mapping.isBare_of_mem_vars`: the variables of a parsed mapping have no colon in their names.
* `Mapping.Variable.IsBare.tokenVariable_content`, `Mapping.Variable.IsBare.tokenVariable_key`: what
  the tokens of a catch-all declare.
* `Mapping.declared_append_of_isOpen`: what closed chunks declare.
-/

namespace Signpost

namespace Mapping

/-! ### Names -/

theorem tokenName_star_cons (rest : Text) :
    tokenName ('*' :: rest) = Text.trim (rest.takeWhile (· ≠ ':')) :=
  rfl

theorem tokenName_of_head?_ne {content : Text} (hstar : content.head? ≠ some '*') :
    tokenName content = Text.trim (content.takeWhile (· ≠ ':')) := by
  have hstrip : Text.stripLead? ['*'] content = none := by
    rw [Option.eq_none_iff_forall_ne_some]
    intro rest hrest
    rw [Text.stripLead?_eq_some_iff.mp hrest] at hstar
    exact hstar rfl
  rw [tokenName, hstrip, Option.getD_none]

theorem tokenName_eq_self {content : Text} (hstar : content.head? ≠ some '*')
    (hcolon : ':' ∉ content) (htrim : Text.trim content = content) :
    tokenName content = content := by
  rw [tokenName_of_head?_ne hstar, Text.takeWhile_ne_of_notMem hcolon, htrim]

theorem tokenName_star {name : Text} (hcolon : ':' ∉ name) (htrim : Text.trim name = name) :
    tokenName ('*' :: name) = name := by
  rw [tokenName_star_cons, Text.takeWhile_ne_of_notMem hcolon, htrim]

theorem colon_notMem_tokenName (content : Text) : ':' ∉ tokenName content := by
  intro hmem
  have hc := List.mem_takeWhile_imp (Text.mem_of_mem_trim hmem)
  exact absurd hc (by decide)

theorem colon_notMem_tokenVariable (content : Text) : ':' ∉ (tokenVariable content).name := by
  have hname := colon_notMem_tokenName content
  rw [tokenVariable]
  split
  · exact hname
  · split
    · rename_i inner hinner
      rw [catchAllName?_eq_some_iff.mp hinner] at hname
      exact fun hmem => hname (List.mem_append_left _ (List.mem_append_right _ hmem))
    · exact hname

/-- The name is read from a token as it is: it has no colon, and no blanks at its ends. -/
structure Variable.IsBare (v : Variable) : Prop where
  colon : ':' ∉ v.name
  trim : Text.trim v.name = v.name

theorem isBare_of_mem_vars {raw : Text} {v : Variable} (hv : v ∈ (parse raw).vars)
    (htrim : Text.trim v.name = v.name) : v.IsBare := by
  refine ⟨?_, htrim⟩
  obtain ⟨content, -, rfl⟩ := exists_token_of_mem_vars hv
  exact colon_notMem_tokenVariable content

namespace Variable.IsBare

variable {v : Variable} (h : v.IsBare) (hcatch : v.catchAll = true)

include h hcatch

theorem tokenName_content : tokenName v.content = v.name := by
  rw [content_of_catchAll hcatch]
  exact tokenName_star h.colon h.trim

/-- The token of a catch-all declares it. -/
theorem tokenVariable_content : tokenVariable v.content = v := by
  rw [tokenVariable, h.tokenName_content hcatch]
  obtain ⟨name, catchAll⟩ := v
  obtain rfl : catchAll = true := hcatch
  rfl

theorem colon_notMem_content : ':' ∉ v.content := by
  simp [content_of_catchAll hcatch, h.colon]

theorem colon_notMem_key : ':' ∉ v.key := by
  have hmarks : ':' ∉ catchAllLead ∧ ':' ∉ catchAllTail := by decide
  simp [key_of_catchAll hcatch, hmarks, h.colon]

theorem tokenName_key : tokenName v.key = v.key := by
  have hhead := head?_key hcatch
  refine tokenName_eq_self (by rw [hhead]; decide) (h.colon_notMem_key hcatch) ?_
  have hlast : v.key.getLast? = some '_' := by
    rw [key_of_catchAll hcatch, List.getLast?_append]
    rfl
  exact Text.trim_eq_self_of_ends hhead (by decide) hlast (by decide)

/-- The stored token of a catch-all declares it. -/
theorem tokenVariable_key : tokenVariable v.key = v := by
  have hstar : v.key.head? ≠ some '*' := by
    rw [head?_key hcatch]
    decide
  rw [tokenVariable, h.tokenName_key hcatch]
  simp only [if_neg hstar, catchAllName?_key hcatch]
  obtain ⟨name, catchAll⟩ := v
  rw [show catchAll = true from hcatch]

end Variable.IsBare

/-! ### Declarations -/

/-- The variables that the tokens of a text declare, token by token. -/
def declared (text : Text) : List Variable :=
  (tokens text).map tokenVariable

/-- The variable that a chunk declares, if it is a token. -/
def Chunk.declared : Chunk → List Variable
  | .literal _ => []
  | .token content => [tokenVariable content]

theorem mem_tokens_iff {text content : Text} :
    content ∈ tokens text ↔ .token content ∈ chunks text := by
  rw [tokens, List.mem_filterMap]
  constructor
  · rintro ⟨chunk, hchunk, hcontent⟩
    cases chunk with
    | literal => exact absurd hcontent (by simp)
    | token inner => exact Option.some_inj.mp hcontent ▸ hchunk
  · intro h
    exact ⟨.token content, h, rfl⟩

/-! ### Tokens at the beginning of a text -/

variable {cut : List Chunk} {rest content : Text} {c : Char}

theorem tokens_cons (hopen : c ≠ '{') (rest : Text) : tokens (c :: rest) = tokens rest := by
  rw [tokens, chunks_cons hopen]
  rfl

theorem tokens_expression (h : Text.IsEnclosed content) (rest : Text) :
    tokens ('{' :: (content ++ '}' :: rest)) =
      if content = [] then tokens rest else content :: tokens rest := by
  rw [tokens, chunks_open (h.closeBrace?_append rest)]
  by_cases hempty : content = []
  · rw [if_pos hempty, if_pos hempty]
    rfl
  · rw [if_neg hempty, if_neg hempty]
    rfl

/-- Behind a text that leaves no brace open, tokens are read as at the beginning. -/
theorem tokens_append {text : Text} (h : Text.depthFrom 0 text = 0) (other : Text) :
    tokens (text ++ other) = tokens text ++ tokens other := by
  rw [tokens, chunks_append h, List.filterMap_append]
  rfl

/-- An expression that is not closed has no token. -/
theorem tokens_of_isOpen (h : IsOpen rest) : tokens rest = [] := by
  rw [tokens, chunks_of_isOpen h]
  split
  · rfl
  · rfl

/-! ### What chunks declare -/

/-- The catch-alls of a parsed mapping. -/
def catchAlls (mapping : Mapping) : List Variable :=
  mapping.vars.filter (·.catchAll)

theorem declared_eq_flatMap (text : Text) :
    declared text = (chunks text).flatMap Chunk.declared := by
  rw [declared, tokens, List.map_filterMap, List.filterMap_eq_flatMap_toList]
  refine List.flatMap_congr fun chunk _ => ?_
  cases chunk with
  | literal text => rfl
  | token content => rfl

/-- An expression that is not closed declares nothing. -/
theorem declared_append_of_isOpen (hcut : ∀ chunk ∈ cut, chunk.IsClosed) (hrest : IsOpen rest) :
    declared (cut.flatMap Chunk.render ++ rest) = cut.flatMap Chunk.declared := by
  rw [declared_eq_flatMap, chunks_append_of_isClosed hcut, List.flatMap_append,
    chunks_of_isOpen hrest]
  split
  · exact List.append_nil _
  · exact List.append_nil _

/-- The tokens in front of an expression that is not closed are the chunks that are tokens. -/
theorem mem_tokens_append_iff (hcut : ∀ chunk ∈ cut, chunk.IsClosed) (hrest : IsOpen rest) :
    content ∈ tokens (cut.flatMap Chunk.render ++ rest) ↔ .token content ∈ cut := by
  rw [mem_tokens_iff, chunks_append_of_isClosed hcut, List.mem_append, chunks_of_isOpen hrest]
  refine or_iff_left ?_
  split <;> simp

end Mapping

end Signpost
