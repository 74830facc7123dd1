import Mathlib.Data.List.Basic
import Mathlib.Data.Option.Basic
import Signpost.Config.Basic
import Signpost.Proofs.Table
import Signpost.Proofs.Text.Case

/-!
# Settings in the environment

A setting in the environment is read in three ways: a placeholder reads the variable with the name
of its key, a scope reads the variable for a key, and a configuration loads all variables of its
scope and looks for the key among them. The name of a variable is the key in capitals; the key that
a variable is loaded under is its name in small letters. The two fit together for keys of ASCII
characters that begin with a letter or a digit, unless a key has an equals sign in it: such a name
finds the rest of a value, which no loaded key leads to.

## Main definitions

* `Environment.isNameChar`: the characters that names of variables are made of.
* `Environment.IsCapital`: an environment without small letters in names.
* `EnvScope.IsSound`: an environment whose variables load to different keys.
* `EnvScope.IsKey`: a key that begins with a letter or a digit.

## Main results

* `EnvScope.key?_variableName`: the variable for a key is loaded under the key.
* `EnvScope.placeholder?_store`: what a placeholder finds in a configuration after loading.
* `EnvScope.placeholder?_agree`: a setting is the same for all readers.
-/

namespace Signpost

open Character (asciiLower asciiUpper isAsciiAlphanumeric)

/-! ### ASCII characters -/

/-- The characters that names of variables are made of: ASCII letters, digits and underscores. -/
def Environment.isNameChar (c : Char) : Bool :=
  isAsciiAlphanumeric c || c = '_'

namespace Character

theorem toNat_lt_of_isNameChar {c : Char} (h : Environment.isNameChar c = true) :
    c.toNat < 128 := by
  simp only [Environment.isNameChar, isAsciiAlphanumeric, Bool.or_eq_true, Bool.and_eq_true,
    decide_eq_true_iff, Char.le_def, UInt32.le_iff_toNat_le] at h
  change c.val.toNat < 128
  rcases h with ((⟨-, h⟩ | ⟨-, h⟩) | ⟨-, h⟩) | rfl
  · exact Nat.lt_of_le_of_lt h (by decide)
  · exact Nat.lt_of_le_of_lt h (by decide)
  · exact Nat.lt_of_le_of_lt h (by decide)
  · decide

theorem asciiUpper_nameChar : ∀ c : Char, c.toNat < 128 →
    Environment.nameChar (asciiUpper c) = asciiUpper (Environment.nameChar c) :=
  forall_ascii (by decide)

theorem asciiLower_asciiUpper_nameChar : ∀ c : Char, c.toNat < 128 →
    asciiLower (asciiUpper (Environment.nameChar c)) = asciiLower (Environment.nameChar c) :=
  forall_ascii (by decide)

theorem asciiUpper_asciiLower_nameChar : ∀ c : Char, c.toNat < 128 →
    asciiUpper (asciiLower (Environment.nameChar c)) = asciiUpper (Environment.nameChar c) :=
  forall_ascii (by decide)

theorem toNat_asciiUpper_nameChar : ∀ c : Char, c.toNat < 128 →
    (asciiUpper (Environment.nameChar c)).toNat < 128 :=
  forall_ascii (by decide)

theorem asciiUpper_nameChar_eq_iff : ∀ c : Char, c.toNat < 128 →
    (asciiUpper (Environment.nameChar c) = '=' ↔ c = '=') :=
  forall_ascii (by decide)

theorem asciiUpper_nameChar_ne : ∀ c : Char, c.toNat < 128 → isAsciiAlphanumeric c = true →
    asciiUpper (Environment.nameChar c) ≠ '_' :=
  forall_ascii (by decide)

/-- A character of a loaded key is one of the key's form in the environment. -/
theorem asciiLower_nameChar_asciiLower : ∀ c : Char, c.toNat < 128 →
    Environment.isNameChar c = true →
    asciiLower (Environment.nameChar (asciiLower c)) = asciiLower c ∧ asciiLower c ≠ '=' :=
  forall_ascii (by decide)

theorem asciiLower_nameChar_equals : asciiLower (Environment.nameChar '=') = '=' := by
  decide

theorem asciiUpper_asciiLower_of_not : ∀ c : Char, c.toNat < 128 → ¬('a' ≤ c ∧ c ≤ 'z') →
    asciiUpper (asciiLower c) = c :=
  forall_ascii (by decide)

end Character

namespace Text

variable {text : Text}

theorem toUpper_of_ascii (h : ∀ c ∈ text, c.toNat < 128) : text.toUpper = text.map asciiUpper := by
  have hupper : ∀ c ∈ text, Character.upper c = [asciiUpper c] := fun c hc => by
    rw [Character.upper, if_pos (h c hc)]
  rw [toUpper, List.flatMap_congr hupper]
  exact List.flatMap_pure_eq_map asciiUpper text

theorem toLower_of_ascii (h : ∀ c ∈ text, c.toNat < 128) : text.toLower = text.map asciiLower := by
  rw [toLower]
  generalize ([] : Text) = before
  induction text generalizing before with
  | nil => rfl
  | cons c text ih =>
    obtain ⟨hc, hlater⟩ := List.forall_mem_cons.mp h
    have hsigma : c ≠ 'Σ' := by
      rintro rfl
      exact absurd hc (by decide)
    rw [lowerAfter, if_neg hsigma, Character.lower, if_pos hc, ih hlater]
    rfl

end Text

/-! ### Variables by name -/

namespace Environment

/-- No name has a small letter. -/
def IsCapital (environment : Environment) : Prop :=
  ∀ var ∈ environment.vars, ∀ c ∈ var.1, ¬('a' ≤ c ∧ c ≤ 'z')

instance (environment : Environment) : Decidable environment.IsCapital :=
  haveI (text : Text) : Decidable (∀ c ∈ text, ¬('a' ≤ c ∧ c ≤ 'z')) := List.decidableBAll _ _
  inferInstanceAs (Decidable (∀ var ∈ environment.vars, ∀ c ∈ var.1, ¬('a' ≤ c ∧ c ≤ 'z')))

variable {environment : Environment} {name value : Text}

/-- A definition with no equals sign in front of the first one is found by its name. -/
theorem stripLead?_eq_some_iff {defined rest : Text} (hname : '=' ∉ name)
    (hdefined : '=' ∉ defined) :
    Text.stripLead? (name ++ ['=']) (defined ++ '=' :: value) = some rest ↔
      defined = name ∧ value = rest := by
  rw [Text.stripLead?_eq_some_iff, List.append_assoc]
  refine ⟨fun heq => ?_, fun ⟨hd, hv⟩ => by rw [hd, hv]; rfl⟩
  have hsides := congrArg (Text.splitOnce? '=') heq
  rw [Text.splitOnce?_append hdefined, List.singleton_append,
    Text.splitOnce?_append hname] at hsides
  exact Prod.mk.inj (Option.some_inj.mp hsides)

variable (hnames : ∀ var ∈ environment.vars, '=' ∉ var.1) (hname : '=' ∉ name)

include hnames hname

theorem mem_of_get? (h : environment.get? name = some value) :
    (name, value) ∈ environment.vars := by
  obtain ⟨var, hvar, hstrip⟩ := List.exists_of_findSome?_eq_some h
  obtain ⟨rfl, rfl⟩ := (stripLead?_eq_some_iff hname (hnames var hvar)).mp hstrip
  exact hvar

theorem get?_ne_none (h : (name, value) ∈ environment.vars) : environment.get? name ≠ none := by
  intro hnone
  have hstrip : Text.stripLead? (name ++ ['=']) (name ++ '=' :: value) = none :=
    List.findSome?_eq_none_iff.mp hnone _ h
  rw [(stripLead?_eq_some_iff hname (hnames _ h)).mpr ⟨rfl, rfl⟩] at hstrip
  exact Option.some_ne_none _ hstrip

end Environment

namespace EnvScope

/-- The names of the variables and the lead are words, and different variables load to different
keys. -/
@[mk_iff]
structure IsSound (scope : EnvScope) (environment : Environment) : Prop where
  name : ∀ var ∈ environment.vars, ∀ c ∈ var.1, Environment.isNameChar c = true
  lead : ∀ lead ∈ scope.lead, ∀ c ∈ lead, Environment.isNameChar c = true
  nodup : (environment.vars.filterMap fun var => scope.key? var.1).Nodup

/-- A key of ASCII characters that begins with a letter or a digit. -/
@[mk_iff]
structure IsKey (key : Text) : Prop where
  ascii : ∀ c ∈ key, c.toNat < 128
  head : key.head?.any isAsciiAlphanumeric = true

-- The characters of a text are gone through, not all there are.
instance (scope : EnvScope) (environment : Environment) : Decidable (IsSound scope environment) :=
  haveI (text : Text) : Decidable (∀ c ∈ text, Environment.isNameChar c = true) :=
    List.decidableBAll _ _
  decidable_of_iff _ (isSound_iff scope environment).symm

instance (key : Text) : Decidable (IsKey key) :=
  haveI : Decidable (∀ c ∈ key, c.toNat < 128) := List.decidableBAll _ _
  decidable_of_iff _ (isKey_iff key).symm

variable {scope : EnvScope} {environment : Environment} {key name value : Text}

/-! ### Names and keys -/

theorem variableName_eq (hkey : IsKey key) :
    scope.variableName key = Environment.placeholderName scope.lead key := by
  rw [variableName, Environment.placeholderName, Text.toUpper_of_ascii hkey.ascii, List.map_map]
  exact congrArg _ (List.map_congr_left fun c hc =>
    (Character.asciiUpper_nameChar c (hkey.ascii c hc)).symm)

/-- **The variable for a key is loaded under the key** in the form it has in the environment. -/
theorem key?_variableName (hkey : IsKey key) :
    scope.key? (scope.variableName key) = some (Store.environmentForm key) := by
  have hascii : ∀ c ∈ key.map fun c => asciiUpper (Environment.nameChar c), c.toNat < 128 := by
    intro d hd
    obtain ⟨c, hc, rfl⟩ := List.mem_map.mp hd
    exact Character.toNat_asciiUpper_nameChar c (hkey.ascii c hc)
  have hlower : Text.toLower (key.map fun c => asciiUpper (Environment.nameChar c)) =
      Store.environmentForm key := by
    rw [Text.toLower_of_ascii hascii, List.map_map]
    exact List.map_congr_left fun c hc =>
      Character.asciiLower_asciiUpper_nameChar c (hkey.ascii c hc)
  cases hlead : scope.lead with
  | none => simp only [key?, variableName, hlead, Environment.underLead, hlower]
  | some lead =>
    -- the first character of the key is no underscore, so only the one behind the lead is dropped
    obtain ⟨c, hhead, hc⟩ := (Option.any_eq_true _ _).mp hkey.head
    obtain ⟨rest, rfl⟩ := List.head?_eq_some_iff.mp hhead
    have hfirst := Character.asciiUpper_nameChar_ne c (hkey.ascii c List.mem_cons_self) hc
    have hstrip : Text.stripLead? lead (scope.variableName (c :: rest)) =
        some ('_' :: (c :: rest).map fun c => asciiUpper (Environment.nameChar c)) := by
      rw [Text.stripLead?_eq_some_iff, variableName, hlead]
      rfl
    have hdrop : List.dropWhile (· = '_')
        ('_' :: (c :: rest).map fun c => asciiUpper (Environment.nameChar c)) =
        (c :: rest).map fun c => asciiUpper (Environment.nameChar c) := by
      rw [List.dropWhile_cons_of_pos (by decide), List.map_cons,
        List.dropWhile_cons_of_neg (by simpa using hfirst)]
    have hne : (c :: rest).map (fun c => asciiUpper (Environment.nameChar c)) ≠ [] :=
      List.cons_ne_nil _ _
    simp only [key?, hlead, hstrip, Option.bind_eq_bind, Option.bind_some, hdrop, guard, hlower,
      if_pos hne]
    rfl

/-- A variable is loaded under the end of its name in lower case. -/
theorem exists_of_key? (h : scope.key? name = some key) :
    ∃ part : Text, part <:+ name ∧ part.toLower = key := by
  cases hlead : scope.lead with
  | none =>
    simp only [key?, hlead, Option.some_inj] at h
    exact ⟨name, List.suffix_refl name, h⟩
  | some lead =>
    simp only [key?, hlead, Option.bind_eq_bind, Option.bind_eq_some_iff] at h
    obtain ⟨rest, hstrip, -, -, hkey⟩ := h
    rw [Text.stripLead?_eq_some_iff] at hstrip
    refine ⟨rest.dropWhile (· = '_'), ?_, Option.some_inj.mp hkey⟩
    exact (List.dropWhile_suffix _).trans ⟨lead, hstrip.symm⟩

/-- The keys under which variables with words as names are loaded have the form for the environment
already. -/
theorem environmentForm_of_key? (hname : ∀ c ∈ name, Environment.isNameChar c = true)
    (hkey : scope.key? name = some key) : Store.environmentForm key = key ∧ '=' ∉ key := by
  obtain ⟨part, hpart, rfl⟩ := exists_of_key? hkey
  have hword : ∀ c ∈ part, Environment.isNameChar c = true := fun c hc => hname c (hpart.subset hc)
  have hascii : ∀ c ∈ part, c.toNat < 128 := fun c hc =>
    Character.toNat_lt_of_isNameChar (hword c hc)
  rw [Text.toLower_of_ascii hascii, Store.environmentForm, List.map_map]
  constructor
  · exact List.map_congr_left fun c hc =>
      (Character.asciiLower_nameChar_asciiLower c (hascii c hc) (hword c hc)).1
  · intro hmem
    obtain ⟨c, hc, hequals⟩ := List.mem_map.mp hmem
    exact (Character.asciiLower_nameChar_asciiLower c (hascii c hc) (hword c hc)).2 hequals

/-! ### What a configuration finds -/

/-- The entries that the variables of an environment are loaded as. -/
def loaded (scope : EnvScope) (environment : Environment) : Table Text :=
  environment.vars.filterMap fun (name, value) =>
    (scope.key? name).map fun key => (key, value)

theorem mem_loaded_iff :
    (key, value) ∈ scope.loaded environment ↔
      ∃ var ∈ environment.vars, scope.key? var.1 = some key ∧ var.2 = value := by
  simp [loaded]

theorem keys_loaded (scope : EnvScope) (environment : Environment) :
    Table.keys (scope.loaded environment) =
      environment.vars.filterMap fun var => scope.key? var.1 := by
  rw [Table.keys, loaded, List.map_filterMap]
  refine List.filterMap_congr fun var _ => ?_
  rw [Option.map_map]
  exact Option.map_id'

/-- The store of a new configuration that has loaded its environment. -/
def store (scope : EnvScope) (linksKey : Text) (environment : Environment) : Store :=
  (Configuration.addEnvironment ⟨linksKey, [], scope.lead⟩ environment).store

/-- **What a configuration finds under a key** after loading its environment. -/
theorem get?_store (h : scope.IsSound environment) (linksKey query : Text) :
    Table.get? (scope.store linksKey environment) query =
      (Table.get? (scope.loaded environment) query).map Json.text := by
  have hnodup : (Table.keys (scope.loaded environment)).Nodup := keys_loaded scope _ ▸ h.nodup
  have htable : scope.table environment = Table.ofList (scope.loaded environment) := rfl
  change Table.get? (Table.merge [] ((scope.table environment).map
    fun entry => (entry.1, Json.text entry.2))) query = _
  rw [htable, Table.get?_merge, Table.get?_map, Table.get?_ofList hnodup, Table.get?,
    Option.or_none]
  rw [Table.keys_map]
  exact (Table.isSorted_ofList _).nodup

theorem get?_loaded_eq_some_iff (h : scope.IsSound environment) :
    Table.get? (scope.loaded environment) key = some value ↔
      ∃ var ∈ environment.vars, scope.key? var.1 = some key ∧ var.2 = value := by
  rw [Table.get?_eq_some_iff (keys_loaded scope _ ▸ h.nodup), mem_loaded_iff]

/-- No path leads into a value that an environment holds. -/
theorem nested?_store (h : scope.IsSound environment) {linksKey : Text}
    (hnone : Table.get? (scope.store linksKey environment) key = none) :
    (scope.store linksKey environment).nested? key = none := by
  have hjoin : Text.join ['.'] (Text.splitOn '.' key) = key := Text.join_splitOn key
  rw [Store.nested?]
  split
  · rfl
  · rename_i first rest hparts
    rw [hparts] at hjoin
    cases rest with
    | nil =>
      obtain rfl : first = key := hjoin
      rw [hnone]
      rfl
    | cons part rest =>
      rw [get?_store h]
      cases Table.get? (scope.loaded environment) first with
      | none => rfl
      | some value => rfl

/-- After loading, a placeholder reads the entry under the form that its key has in the
environment. -/
theorem placeholder?_store (h : scope.IsSound environment) (linksKey key : Text) :
    (scope.store linksKey environment).placeholder? key =
      Table.get? (scope.loaded environment) (Store.environmentForm key) := by
  have hlookup : (scope.store linksKey environment).lookup? key =
      (Table.get? (scope.loaded environment) (Store.environmentForm key)).map Json.text := by
    rw [Store.lookup?]
    cases hfound : Table.get? (scope.store linksKey environment) key with
    | some found =>
      rw [get?_store h] at hfound
      obtain ⟨value, hvalue, rfl⟩ := Option.map_eq_some_iff.mp hfound
      obtain ⟨var, hvar, hkey, -⟩ := (get?_loaded_eq_some_iff h).mp hvalue
      rw [(environmentForm_of_key? (h.name var hvar) hkey).1, hvalue]
      rfl
    | none =>
      rw [nested?_store h hfound]
      exact get?_store h linksKey _
  rw [Store.placeholder?, hlookup]
  cases Table.get? (scope.loaded environment) (Store.environmentForm key) with
  | none => rfl
  | some value => rfl

/-! ### All readers -/

theorem equals_notMem_of_isNameChar (h : ∀ c ∈ name, Environment.isNameChar c = true) :
    '=' ∉ name :=
  fun hmem => absurd (h '=' hmem) (by decide)

theorem equals_notMem_placeholderName (h : scope.IsSound environment) (hkey : IsKey key)
    (hequals : '=' ∉ key) : '=' ∉ Environment.placeholderName scope.lead key := by
  have hname : '=' ∉ key.map fun c => asciiUpper (Environment.nameChar c) := by
    intro hmem
    obtain ⟨c, hc, hupper⟩ := List.mem_map.mp hmem
    exact hequals ((Character.asciiUpper_nameChar_eq_iff c (hkey.ascii c hc)).mp hupper ▸ hc)
  rw [← variableName_eq hkey, variableName]
  cases hlead : scope.lead with
  | none => exact hname
  | some lead =>
    have hnone := equals_notMem_of_isNameChar (h.lead lead hlead)
    simp [Environment.underLead, hnone, hname]

/-- A configuration finds nothing under a key with an equals sign. -/
theorem placeholder?_store_of_equals (h : scope.IsSound environment) (linksKey : Text)
    (hequals : '=' ∈ key) : (scope.store linksKey environment).placeholder? key = none := by
  rw [placeholder?_store h, Option.eq_none_iff_forall_ne_some]
  intro value hvalue
  obtain ⟨var, hvar, hform, -⟩ := (get?_loaded_eq_some_iff h).mp hvalue
  refine (environmentForm_of_key? (h.name var hvar) hform).2 (List.mem_map.mpr ⟨'=', hequals, ?_⟩)
  exact Character.asciiLower_nameChar_equals

/-- What a placeholder finds in the environment, a configuration finds. -/
theorem placeholder?_store_of_environment (h : scope.IsSound environment) (hkey : IsKey key)
    (linksKey : Text) (hequals : '=' ∉ key)
    (hvalue : environment.placeholder? scope.lead key = some value) :
    (scope.store linksKey environment).placeholder? key = some value := by
  have hmem := Environment.mem_of_get?
    (fun var hvar => equals_notMem_of_isNameChar (h.name var hvar))
    (equals_notMem_placeholderName h hkey hequals) hvalue
  rw [placeholder?_store h, get?_loaded_eq_some_iff h]
  refine ⟨_, hmem, ?_, rfl⟩
  rw [← variableName_eq hkey]
  exact key?_variableName hkey

/-- The name of a variable without small letters is the one that its key leads to. -/
theorem eq_variableName_of_key? (hlead : scope.lead = none)
    (hname : ∀ c ∈ name, Environment.isNameChar c = true)
    (hsmall : ∀ c ∈ name, ¬('a' ≤ c ∧ c ≤ 'z')) (hascii : ∀ c ∈ key, c.toNat < 128)
    (hform : scope.key? name = some (Store.environmentForm key)) :
    name = scope.variableName key := by
  have hnameAscii : ∀ c ∈ name, c.toNat < 128 := fun c hc =>
    Character.toNat_lt_of_isNameChar (hname c hc)
  have hlower : name.map asciiLower = Store.environmentForm key := by
    simp only [key?, hlead, Option.some_inj] at hform
    rw [← hform, Text.toLower_of_ascii hnameAscii]
  calc name = (name.map asciiLower).map asciiUpper := by
        rw [List.map_map, List.map_congr_left (g := id), List.map_id]
        exact fun c hc => Character.asciiUpper_asciiLower_of_not c (hnameAscii c hc) (hsmall c hc)
    _ = (Store.environmentForm key).map asciiUpper := by rw [hlower]
    _ = key.map fun c => asciiUpper (Environment.nameChar c) := by
        rw [Store.environmentForm, List.map_map]
        exact List.map_congr_left fun c hc =>
          Character.asciiUpper_asciiLower_nameChar c (hascii c hc)
    _ = scope.variableName key := by rw [variableName, hlead, Environment.underLead]

/-- Without a lead and without small letters in names a configuration finds what a placeholder
finds. -/
theorem placeholder?_store_eq (h : scope.IsSound environment) (hkey : IsKey key)
    (linksKey : Text) (hequals : '=' ∉ key) (hlead : scope.lead = none)
    (hcapital : environment.IsCapital) :
    (scope.store linksKey environment).placeholder? key =
      environment.placeholder? scope.lead key := by
  cases hvalue : environment.placeholder? scope.lead key with
  | some value => exact placeholder?_store_of_environment h hkey linksKey hequals hvalue
  | none =>
    rw [placeholder?_store h, Option.eq_none_iff_forall_ne_some]
    intro value hfound
    obtain ⟨⟨name, value⟩, hvar, hform, -⟩ := (get?_loaded_eq_some_iff h).mp hfound
    obtain rfl : name = scope.variableName key :=
      eq_variableName_of_key? hlead (h.name _ hvar) (hcapital _ hvar) hkey.ascii hform
    rw [variableName_eq hkey] at hvar
    exact Environment.get?_ne_none (fun var hvar => equals_notMem_of_isNameChar (h.name var hvar))
      (equals_notMem_placeholderName h hkey hequals) hvar hvalue

/-- **A setting is the same for all readers.** A scope reads the variable that a placeholder reads.
If the key has no equals sign, what a placeholder finds in the environment it also finds in a
configuration that has loaded it, and nothing else if there is no lead and no name has a small
letter. If the key has one, a configuration finds nothing. -/
theorem placeholder?_agree {lead : Option Text} (h : IsSound ⟨lead⟩ environment)
    (hkey : IsKey key) (linksKey : Text) :
    value? ⟨lead⟩ environment key = environment.placeholder? lead key ∧
      ('=' ∈ key → (store ⟨lead⟩ linksKey environment).placeholder? key = none) ∧
      ('=' ∉ key →
        (∀ value, environment.placeholder? lead key = some value →
          (store ⟨lead⟩ linksKey environment).placeholder? key = some value) ∧
        (lead = none → environment.IsCapital →
          (store ⟨lead⟩ linksKey environment).placeholder? key =
            environment.placeholder? lead key)) := by
  refine ⟨congrArg environment.get? (variableName_eq hkey), ?_, fun hequals => ⟨?_, ?_⟩⟩
  · exact placeholder?_store_of_equals h linksKey
  · exact fun value => placeholder?_store_of_environment h hkey linksKey hequals
  · exact placeholder?_store_eq h hkey linksKey hequals

/-- The readers agree on one key that they find a value for, and on one that they do not. -/
theorem placeholder?_agree_of_port :
    (value? ⟨none⟩ ⟨[("API_PORT".toList, "80".toList)]⟩ "api.port".toList = some "80".toList ∧
      (store ⟨none⟩ "links".toList ⟨[("API_PORT".toList, "80".toList)]⟩).placeholder?
        "api.port".toList = some "80".toList) ∧
      (store ⟨none⟩ "links".toList ⟨[("API_PORT".toList, "80".toList)]⟩).placeholder?
        "api.host".toList = none := by
  have hsound : IsSound ⟨none⟩ ⟨[("API_PORT".toList, "80".toList)]⟩ := by decide
  have hkeys : IsKey "api.port".toList ∧ IsKey "api.host".toList := by decide
  have hport := placeholder?_agree hsound hkeys.1 "links".toList
  have hhost := placeholder?_agree hsound hkeys.2 "links".toList
  exact ⟨⟨hport.1.trans (by decide), (hport.2.2 (by decide)).1 _ (by decide)⟩,
    ((hhost.2.2 (by decide)).2 rfl (by decide)).trans (by decide)⟩

/-- What the other readers find under a key with an equals sign, a configuration does not find. -/
theorem placeholder?_store_ne_of_equals :
    IsSound ⟨none⟩ ⟨[("A".toList, "B=C".toList)]⟩ ∧ IsKey "a=b".toList ∧
      Environment.placeholder? ⟨[("A".toList, "B=C".toList)]⟩ none "a=b".toList =
        some "C".toList ∧
      (store ⟨none⟩ "links".toList ⟨[("A".toList, "B=C".toList)]⟩).placeholder? "a=b".toList ≠
        some "C".toList := by
  have hsound : IsSound ⟨none⟩ ⟨[("A".toList, "B=C".toList)]⟩ := by decide
  refine ⟨hsound, by decide, by decide, ?_⟩
  rw [placeholder?_store_of_equals hsound "links".toList (by decide)]
  exact (Option.some_ne_none _).symm

end EnvScope

end Signpost
