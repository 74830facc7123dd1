import Mathlib
import Signpost.Config.Linking
import Signpost.Proofs.Config.Environment
import Signpost.Proofs.Config.Store
import Signpost.Proofs.Outcome

/-!
# Settings of links under their dotted keys

The settings of links stand in a *section*, the object under one top-level key. They can be asked
for one by one, too, under the key of the section, a dot and the name of the setting. Such a look-up
has three places to go to: the dotted key as a top-level one, the section, and the form of the
dotted key in the environment. The settings as a whole are read from the section alone, so both ways
agree on what the section holds, and a value in one of the other places has no part in the links.

## Main definitions

* `Configuration.settingKey`: the dotted key of a setting.
* `Configuration.ReadsSection`: the dotted key of a setting leads into the section.

## Main results

* `Configuration.lookup?_settingKey`: the places where a setting is looked for.
* `Configuration.linkSettings_congr`: the settings are those of the section.
* `Configuration.dotted_settings_agree`: both ways agree on what the section holds.
-/

namespace Signpost

namespace LinkSettings

/-- The settings of an object are the values under their keys, or the defaults. -/
theorem ofJson_object_eq_ok_iff {entries : List (Text × Json)} {settings : LinkSettings} :
    ofJson (.object entries) = .ok settings ↔
      ((Table.get? entries baseKey).map readBase).getD (.ok none) = .ok settings.baseUri ∧
        ((Table.get? entries capacityKey).map readCapacity).getD (.ok 256) =
          .ok settings.capacity := by
  simp only [ofJson, Json.child?, Except.bind_eq_ok_iff, Except.pure_eq_ok_iff]
  constructor
  · rintro ⟨base, hbase, capacity, hcapacity, rfl⟩
    exact ⟨hbase, hcapacity⟩
  · rintro ⟨hbase, hcapacity⟩
    exact ⟨_, hbase, _, hcapacity, rfl⟩

end LinkSettings

namespace Store

theorem asciiLower_nameChar_ne (c : Char) :
    Character.asciiLower (Environment.nameChar c) ≠ '.' := by
  by_cases hc : c.toNat < 128
  · have hascii : ∀ c : Char, c.toNat < 128 →
        Character.asciiLower (Environment.nameChar c) ≠ '.' :=
      Character.forall_ascii (by decide)
    exact hascii c hc
  · have hname : Environment.nameChar c = c := by
      refine if_neg ?_
      rintro (rfl | rfl) <;> exact hc (by decide)
    have hlower : Character.asciiLower c = c := by
      refine if_neg fun hcapital => hc ?_
      exact Nat.lt_of_le_of_lt hcapital.2 (by decide)
    rw [hname, hlower]
    rintro rfl
    exact hc (by decide)

/-- A form in the environment has no dot. -/
theorem dot_notMem_environmentForm (key : Text) : '.' ∉ environmentForm key := by
  intro hmem
  obtain ⟨c, -, hc⟩ := List.mem_map.mp hmem
  exact asciiLower_nameChar_ne c hc

end Store

namespace Configuration

variable {config : Configuration} {name : Text} {settings : LinkSettings}

/-- The dotted key of a setting of links. -/
def settingKey (config : Configuration) (name : Text) : Text :=
  config.linksKey ++ '.' :: name

/-- The dotted key of a setting leads into the section: it is no top-level key itself, and the
section holds the setting. -/
structure ReadsSection (config : Configuration) (name : Text) : Prop where
  notTop : Table.get? config.store (config.settingKey name) = none
  held : ∃ links, Table.get? config.store config.linksKey = some links ∧
    (links.child? name).isSome = true

/-! ### Look-ups -/

theorem getAs_eq_ok_iff {α : Type} {read : Json → Except ConfigError α} {key : Text} {a : α} :
    config.getAs read key = .ok a ↔
      ∃ value, config.store.lookup? key = some value ∧ read value = .ok a := by
  rw [getAs, get]
  cases config.store.lookup? key with
  | none => simp
  | some value => simp

theorem asText_eq_ok_iff {value : Json} {text : Text} :
    asText value = .ok text ↔ value = .text text := by
  cases value <;> simp [asText]

section Plain

variable (hplain : Store.environmentForm config.linksKey = config.linksKey)

include hplain

theorem dot_notMem_linksKey : '.' ∉ config.linksKey :=
  hplain ▸ Store.dot_notMem_environmentForm config.linksKey

/-- The section is the value under its top-level key. -/
theorem lookup?_linksKey :
    config.store.lookup? config.linksKey = Table.get? config.store config.linksKey := by
  have hparts := Text.splitOn_of_notMem (dot_notMem_linksKey hplain)
  rw [Store.lookup?_eq, hplain, Store.nested?_eq, Store.firstPart, hparts,
    Text.takeWhile_ne_of_notMem (dot_notMem_linksKey hplain)]
  cases Table.get? config.store config.linksKey with
  | none => rfl
  | some links => rfl

/-- The places where a setting is looked for: the dotted key as it is, the section, and the form in
the environment. -/
theorem lookup?_settingKey (hname : '.' ∉ name) :
    config.store.lookup? (config.settingKey name) =
      (Table.get? config.store (config.settingKey name)).or
        (((Table.get? config.store config.linksKey).bind fun links => links.child? name).or
          (Table.get? config.store (Store.environmentForm (config.settingKey name)))) := by
  have hdot := dot_notMem_linksKey hplain
  have hparts : Text.splitOn '.' (config.settingKey name) = [config.linksKey, name] := by
    rw [settingKey, Text.splitOn_append hdot, Text.splitOn_of_notMem hname]
  rw [Store.lookup?_eq, Store.nested?_eq, Store.firstPart, hparts, settingKey,
    Text.takeWhile_ne_append hdot]
  simp

/-- The settings are those of the section, or the defaults if there is none. -/
theorem linkSettings_eq :
    config.linkSettings =
      ((Table.get? config.store config.linksKey).elim (pure {}) LinkSettings.ofJson >>=
        fun settings => do
          settings.validate
          return settings) := by
  rw [linkSettings, lookup?_linksKey hplain]
  cases Table.get? config.store config.linksKey with
  | none => rfl
  | some links => rfl

/-- Configurations with the same section have the same settings. -/
theorem linkSettings_congr {store : Store}
    (h : Table.get? store config.linksKey = Table.get? config.store config.linksKey) :
    linkSettings { config with store } = config.linkSettings := by
  have hother := @linkSettings_eq { config with store } hplain
  rw [hother, linkSettings_eq hplain]
  simp only [h]

theorem recordings_congr {store : Store}
    (h : Table.get? store config.linksKey = Table.get? config.store config.linksKey) :
    recordings { config with store } = config.recordings := by
  rw [recordings, recordings, linkSettings_congr hplain h]

/-- If the settings can be used, then those of an object can be read. -/
theorem ofJson_of_linkSettings {links : Json} (h : config.linkSettings = .ok settings)
    (hlinks : Table.get? config.store config.linksKey = some links) :
    LinkSettings.ofJson links = .ok settings := by
  rw [linkSettings_eq hplain, hlinks, Except.bind_eq_ok_iff] at h
  obtain ⟨read, hread, hvalid⟩ := h
  obtain ⟨-, -, hsame⟩ := Except.bind_eq_ok_iff.mp hvalid
  exact Except.pure_eq_ok_iff.mp hsame ▸ hread

/-- A setting that the section holds is found under its dotted key and in the section. -/
theorem ReadsSection.exists_entries (h : config.ReadsSection name) (hname : '.' ∉ name) :
    ∃ entries value, Table.get? config.store config.linksKey = some (.object entries) ∧
      Table.get? entries name = some value ∧
      config.store.lookup? (config.settingKey name) = some value := by
  obtain ⟨links, hlinks, hheld⟩ := h.held
  obtain ⟨value, hvalue⟩ := Option.isSome_iff_exists.mp hheld
  cases links with
  | object entries =>
    refine ⟨entries, value, hlinks, hvalue, ?_⟩
    rw [lookup?_settingKey hplain hname, h.notTop, hlinks, Option.none_or, Option.bind_some, hvalue,
      Option.some_or]
  | _ => exact absurd hvalue nofun

theorem ReadsSection.baseUri_eq (h : config.ReadsSection LinkSettings.baseKey) {text : Text}
    (htext : config.getAs asText (config.settingKey LinkSettings.baseKey) = .ok text)
    (hsettings : config.linkSettings = .ok settings) : settings.baseUri = some text := by
  obtain ⟨entries, value, hlinks, hvalue, hlookup⟩ := h.exists_entries hplain (by decide)
  obtain ⟨found, hfound, hread⟩ := getAs_eq_ok_iff.mp htext
  rw [hlookup, Option.some_inj] at hfound
  subst hfound
  rw [asText_eq_ok_iff] at hread
  have hjson := ofJson_of_linkSettings hplain hsettings hlinks
  have hbase := (LinkSettings.ofJson_object_eq_ok_iff.mp hjson).1
  rw [hvalue, hread] at hbase
  exact (Except.ok.inj hbase).symm

theorem ReadsSection.capacity_eq (h : config.ReadsSection LinkSettings.capacityKey) {n : Nat}
    (hn : config.getAs LinkSettings.readCapacity (config.settingKey LinkSettings.capacityKey) =
      .ok n)
    (hsettings : config.linkSettings = .ok settings) : settings.capacity = n := by
  obtain ⟨entries, value, hlinks, hvalue, hlookup⟩ := h.exists_entries hplain (by decide)
  obtain ⟨found, hfound, hread⟩ := getAs_eq_ok_iff.mp hn
  rw [hlookup, Option.some_inj] at hfound
  subst hfound
  have hjson := ofJson_of_linkSettings hplain hsettings hlinks
  have hcapacity := (LinkSettings.ofJson_object_eq_ok_iff.mp hjson).2
  rw [hvalue, Option.map_some, Option.getD_some, hread] at hcapacity
  exact (Except.ok.inj hcapacity).symm

end Plain

/-! ### Both ways -/

/-- **Both ways agree on what the section holds.** Take any configuration whose section stands under
a key that is in the form of the environment. If the dotted key of the base leads into the section
to the text of a base, then settings that can be used have this base; if that of the capacity leads
into the section to a positive number, then as many recordings are kept. Whatever else a dotted key
finds stands outside the section, under the dotted key itself or under its form in the environment,
and there it has no part in the links: settings and recordings are the same for every configuration
with this section, and the default ones for every configuration without a section. -/
theorem dotted_settings_agree (config : Configuration)
    (hplain : Store.environmentForm config.linksKey = config.linksKey) :
    (∀ text base settings, config.ReadsSection LinkSettings.baseKey →
        config.getAs asText (config.settingKey LinkSettings.baseKey) = .ok text →
        BaseUri.parse text = .ok base → config.linkSettings = .ok settings →
        settings.base = .ok base) ∧
      (∀ n recordings, config.ReadsSection LinkSettings.capacityKey →
        config.getAs LinkSettings.readCapacity (config.settingKey LinkSettings.capacityKey) =
          .ok n →
        0 < n → config.recordings = .ok recordings → recordings.capacity = n) ∧
      (∀ name, '.' ∉ name → ¬config.ReadsSection name →
        config.store.lookup? (config.settingKey name) =
          (Table.get? config.store (config.settingKey name)).or
            (Table.get? config.store (Store.environmentForm (config.settingKey name)))) ∧
      (∀ store, Table.get? store config.linksKey = Table.get? config.store config.linksKey →
        linkSettings { config with store } = config.linkSettings ∧
          recordings { config with store } = config.recordings) ∧
      (Table.get? config.store config.linksKey = none → config.linkSettings = .ok {}) := by
  refine ⟨fun text base settings hreads htext hbase hsettings => ?_,
    fun n recordings hreads hn hpos hrecordings => ?_, fun name hname hreads => ?_,
    fun store hsame => ⟨linkSettings_congr hplain hsame, recordings_congr hplain hsame⟩,
    fun hnone => ?_⟩
  · rw [LinkSettings.base, hreads.baseUri_eq hplain htext hsettings]
    simp only [hbase]
  · obtain ⟨settings, hsettings, hmade⟩ := Except.bind_eq_ok_iff.mp hrecordings
    obtain rfl := Except.pure_eq_ok_iff.mp hmade
    rw [Recordings.ofCapacity, hreads.capacity_eq hplain hn hsettings]
    exact Nat.max_eq_left hpos
  · rw [lookup?_settingKey hplain hname]
    cases htop : Table.get? config.store (config.settingKey name) with
    | some value => rfl
    | none =>
      cases hlinks : Table.get? config.store config.linksKey with
      | none => rfl
      | some links =>
        have hchild : links.child? name = none := by
          by_contra hheld
          exact hreads ⟨htop, links, hlinks, Option.isSome_iff_ne_none.mpr hheld⟩
        rw [Option.bind_some, hchild, Option.none_or]
  · rw [linkSettings_eq hplain, hnone]
    rfl

/-- A configuration with a section that holds both settings, and a base in the environment. -/
def sectionConfiguration : Configuration where
  linksKey := "waymark".toList
  store :=
    [("waymark".toList, .object
        [(LinkSettings.baseKey, .text "/api".toList), (LinkSettings.capacityKey, .ofNat 8)]),
      ("waymark_base_uri".toList, .text "/other".toList)]

/-- A configuration without a section, with a base under its dotted key. -/
def dottedConfiguration : Configuration where
  linksKey := "waymark".toList
  store := [("waymark.base_uri".toList, .text "/api".toList)]

theorem parse_sectionBase : BaseUri.parse "/api".toList = .ok ⟨none, "/api".toList⟩ := by
  cbv

theorem linkSettings_section :
    sectionConfiguration.linkSettings = .ok ⟨some "/api".toList, 8⟩ := by
  cbv

theorem not_readsSection_dotted : ¬dottedConfiguration.ReadsSection LinkSettings.baseKey := by
  rintro ⟨-, links, hlinks, -⟩
  exact Option.some_ne_none links hlinks.symm

/-- Both settings are those of the section, and a value under a dotted key changes neither. Without
a section the value is found and the settings are the default ones. -/
theorem dotted_settings_agree_section :
    Store.environmentForm sectionConfiguration.linksKey = sectionConfiguration.linksKey ∧
      (sectionConfiguration.ReadsSection LinkSettings.baseKey ∧
        sectionConfiguration.getAs asText "waymark.base_uri".toList = .ok "/api".toList ∧
        LinkSettings.base ⟨some "/api".toList, 8⟩ = .ok ⟨none, "/api".toList⟩) ∧
      (sectionConfiguration.ReadsSection LinkSettings.capacityKey ∧
        sectionConfiguration.getAs LinkSettings.readCapacity
            "waymark.recorder_cache_capacity".toList = .ok 8 ∧
        (Recordings.ofCapacity 8).capacity = 8) ∧
      linkSettings
          (sectionConfiguration.insert "waymark.base_uri".toList (.text "/dotted".toList)) =
        .ok ⟨some "/api".toList, 8⟩ ∧
      (¬dottedConfiguration.ReadsSection LinkSettings.baseKey ∧
        dottedConfiguration.store.lookup? "waymark.base_uri".toList =
          some (.text "/api".toList) ∧
        dottedConfiguration.linkSettings = .ok {}) := by
  have hplain : Store.environmentForm "waymark".toList = "waymark".toList := by decide
  obtain ⟨hbase, hcapacity, -, hsection, -⟩ := dotted_settings_agree sectionConfiguration hplain
  obtain ⟨-, -, hplaces, -, hdefault⟩ := dotted_settings_agree dottedConfiguration hplain
  have hreads : sectionConfiguration.ReadsSection LinkSettings.baseKey := ⟨rfl, _, rfl, rfl⟩
  have hreads' : sectionConfiguration.ReadsSection LinkSettings.capacityKey := ⟨rfl, _, rfl, rfl⟩
  have hrecordings : sectionConfiguration.recordings = .ok (.ofCapacity 8) := by
    rw [recordings, linkSettings_section]
    rfl
  have htext : sectionConfiguration.getAs asText "waymark.base_uri".toList =
      .ok "/api".toList := rfl
  have hnumber : sectionConfiguration.getAs LinkSettings.readCapacity
      "waymark.recorder_cache_capacity".toList = .ok 8 := rfl
  have hne : sectionConfiguration.linksKey ≠ "waymark.base_uri".toList := by decide
  refine ⟨hplain, ⟨hreads, htext, ?_⟩, ⟨hreads', hnumber, ?_⟩, ?_, not_readsSection_dotted, ?_,
    hdefault rfl⟩
  · exact hbase _ _ _ hreads htext parse_sectionBase linkSettings_section
  · exact hcapacity _ _ hreads' hnumber (by decide) hrecordings
  · have hsame := Table.get?_insert_of_ne sectionConfiguration.store (.text "/dotted".toList) hne
    exact (hsection _ hsame).1.trans linkSettings_section
  · exact hplaces _ (by decide) not_readsSection_dotted

/-- A base under its dotted key and one from the environment are found there, but no link is built
with them. -/
theorem dotted_settings_disagree :
    let loaded : Configuration :=
      Configuration.addEnvironment { linksKey := "waymark".toList }
        ⟨[("WAYMARK_BASE_URI".toList, "/api".toList)]⟩
    BaseUri.parse "/api".toList = .ok ⟨none, "/api".toList⟩ ∧
      LinkSettings.base {} ≠ .ok ⟨none, "/api".toList⟩ ∧
      (dottedConfiguration.getAs asText "waymark.base_uri".toList = .ok "/api".toList ∧
        dottedConfiguration.linkSettings = .ok {}) ∧
      (loaded.getAs asText "waymark.base_uri".toList = .ok "/api".toList ∧
        loaded.linkSettings = .ok {}) := by
  intro loaded
  refine ⟨parse_sectionBase, ?_, ⟨rfl, by cbv⟩, by cbv, by cbv⟩
  rw [LinkSettings.base]
  simp [BaseUri.root]

end Configuration

end Signpost
