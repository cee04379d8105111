import ScopedAccess.Proofs.Catalog
import ScopedAccess.Proofs.Codec
import ScopedAccess.Proofs.DurationText
import ScopedAccess.Proofs.Targeting

/-!
# ScopedAccess.Proofs.ConfigRoundTrip

Settings that are saved and loaded again are the same settings.

* `Targeting.ofJson?_toJson`, `RelationNaming.ofJson?_toJson`, `Catalog.ofJson?_toJson` and
  `Duration.ofJson?_toJson`: each kind of setting is read as what was written, wherever it stands.
* `Config.ofJson?_toJson`: so are all settings together. `Config.textual_toJson`: a text can hold
  them.
* `Config.survives_reload`: what is decided by the settings is the same after a reload.
-/

namespace ScopedAccess

open Json

/-! ## Targeting -/

namespace Targeting

/-- An object that starts with the name of a strategy names it. -/
theorem names_cons (p : Place) (strategy : String) (ms : List (String × Json)) :
    Names p (("strategy", .str strategy) :: ms) strategy :=
  ⟨.str strategy, if_pos rfl, rfl⟩

theorem strict_cons {tag : Json} {names : List String} {ms : List (String × Json)}
    (h : ∀ m ∈ ms, m.1 ∈ names) : Strict (("strategy", tag) :: ms) names :=
  fun m hm => (List.mem_cons.1 hm).imp (fun e => by rw [e]) (h m)

theorem textual_toJson (t : Targeting) : Textual t.toJson := by
  cases t with
  | everyone => exact .obj (by decide) (by simp [Textual.str])
  | percentage percent seed otherwise =>
    have hpercent : Textual (.nat percent.toNat) :=
      textual_nat (Nat.lt_trans percent.toNat_lt (by decide))
    have hseed : Textual (.nat seed.toNat) := textual_nat seed.toNat_lt
    exact .obj (by simp) (by simp [Textual.str, hpercent, hseed, Mode.textual_toJson])
  | listed tenants otherwise =>
    exact .obj (by simp) (by
      simp [Textual.str, NameSet.textual_toJson, Mode.textual_toJson])

/-- What is written of targeting stands for it. -/
theorem written_toJson (p : Place) (t : Targeting) :
    ∃ ms, t.toJson = .obj ms ∧ Written p ms t := by
  cases t with
  | everyone => exact ⟨_, rfl, .everyone (names_cons p ..)⟩
  | percentage percent seed otherwise =>
    refine ⟨_, rfl, .percentage (names_cons p ..) (strict_cons (by simp)) ?_ ?_ ?_⟩
    · exact (required_of_field rfl _).trans (readBelow_nat percent.toNat_lt)
    · exact (defaulted_of_field rfl _ _).trans (readBelow_nat seed.toNat_lt)
    · exact (defaulted_of_field rfl _ _).trans (Mode.ofJson?_toJson .besideTag otherwise)
  | listed tenants otherwise =>
    refine ⟨_, rfl, .listed (names_cons p ..) (strict_cons (by simp)) ?_ ?_⟩
    · exact (required_of_field rfl _).trans (NameSet.ofJson?_toJson .besideTag tenants)
    · exact (defaulted_of_field rfl _ _).trans (Mode.ofJson?_toJson .besideTag otherwise)

theorem ofJson?_toJson (p : Place) (t : Targeting) : Targeting.ofJson? p t.toJson = some t := by
  obtain ⟨ms, hms, hwritten⟩ := written_toJson p t
  have htext : Textual (.obj ms) := hms ▸ textual_toJson t
  cases htext with
  | obj hnames heach =>
    have hnames' : ((beside ms).map Prod.fst).Nodup :=
      hnames.sublist (List.filter_sublist.map Prod.fst)
    have hbeside : Textual (.obj (beside ms)) :=
      .obj hnames' fun m hm => heach m (List.mem_of_mem_filter hm)
    rw [hms, ofJson?_eq_some_iff]
    exact ⟨holdsWords_of_textual hbeside, hwritten⟩

end Targeting

/-! ## Relation names, catalogs and durations -/

theorem nullable_optStr (p : Place) (s : Option String) :
    nullable (readStr p) (.optStr s) = some s := by
  cases s <;> rfl

theorem textual_optStr (s : Option String) : Textual (.optStr s) := by
  cases s with
  | none => exact .null
  | some s => exact .str s

namespace RelationNaming

theorem ofJson?_toJson (p : Place) (n : RelationNaming) :
    RelationNaming.ofJson? p n.toJson = some n := by
  obtain ⟨f, hf, htemplate, hoverrides, horg⟩ :
      ∃ f, closedRecord? p ["template", "overrides", "org_relation"] n.toJson = some f ∧
        f "template" = some (.str n.template) ∧
        f "overrides" = some (.obj (n.overrides.entries.map fun e => (e.1, .str e.2))) ∧
        f "org_relation" = some (.optStr n.orgRelation) :=
    ⟨_, closedRecord?_obj.2 ⟨by simp, rfl⟩, rfl, rfl, rfl⟩
  have hread : ∀ s : String, readStr p (.str s) = some s := fun _ => rfl
  simp only [RelationNaming.ofJson?, hf, defaulted_of_field htemplate,
    defaulted_of_field hoverrides, defaulted_of_field horg, hread, readTable_map hread,
    nullable_optStr, NameMap.ofList_entries]

theorem textual_toJson (n : RelationNaming) : Textual n.toJson := by
  have hnames : ((n.overrides.entries.map fun e => (e.1, Json.str e.2)).map Prod.fst).Nodup := by
    rw [List.map_map]
    exact n.overrides.increasing.imp fun h => String.ne_of_lt h
  have hoverrides : Textual (.obj (n.overrides.entries.map fun e => (e.1, .str e.2))) := by
    refine .obj hnames fun m hm => ?_
    obtain ⟨e, -, rfl⟩ := List.mem_map.1 hm
    exact .str e.2
  exact .obj (by simp) (by simp [Textual.str, hoverrides, textual_optStr])

end RelationNaming

theorem Catalog.ofJson?_toJson (p : Place) (c : Catalog) : Catalog.ofJson? p c.toJson = some c := by
  rw [Catalog.ofJson?, Catalog.toJson, readStrings_strings, Option.map_some, ofIds_ids]

theorem Catalog.textual_toJson (c : Catalog) : Textual c.toJson := textual_strings c.ids

theorem Duration.ofJson?_toJson (p : Place) (d : Duration) :
    Duration.ofJson? p d.toJson = some d := by
  have hread : readStr p d.toJson = some d.text := rfl
  simp only [Duration.ofJson?, hread, trim_text, ofText?_text]

theorem Duration.textual_toJson (d : Duration) : Textual d.toJson := .str d.text

/-! ## All settings -/

namespace Config

theorem ofJson?_toJson (p : Place) (c : Config) : Config.ofJson? p c.toJson = some c := by
  obtain ⟨f, hf, hmode, htargeting, hfallback, hlookup, hcheck, hcatalog, hpermission, hnaming,
      hrefresh, hcache, hqueue⟩ :
      ∃ f, closedRecord? p names c.toJson = some f ∧
        f "mode" = some c.mode.toJson ∧
        f "targeting" = some c.targeting.toJson ∧
        f "attribute_fallback_enabled" = some (.bool c.fallback) ∧
        f "workspace_lookup_timeout" = some c.lookupPatience.toJson ∧
        f "check_timeout" = some c.checkPatience.toJson ∧
        f "service_catalog" = some c.catalog.toJson ∧
        f "required_permission" = some (.str c.permission) ∧
        f "relations" = some c.naming.toJson ∧
        f "policy_refresh_interval" = some c.refreshInterval.toJson ∧
        f "workspace_cache_ttl" = some c.cacheLifetime.toJson ∧
        f "event_queue_capacity" = some (.nat c.queueCapacity.toNat) :=
    ⟨_, closedRecord?_obj.2 ⟨by simp [names], rfl⟩, rfl, rfl, rfl, rfl, rfl, rfl, rfl, rfl, rfl,
      rfl, rfl⟩
  have hbool : readBool (.bool c.fallback) = some c.fallback := rfl
  have hstr : readStr p (.str c.permission) = some c.permission := rfl
  have hword : readBelow UInt64.size (.nat c.queueCapacity.toNat) = some c.queueCapacity.toNat :=
    readBelow_nat c.queueCapacity.toNat_lt
  simp only [Config.ofJson?, hf, defaulted_of_field hmode, defaulted_of_field htargeting,
    defaulted_of_field hfallback, defaulted_of_field hlookup, defaulted_of_field hcheck,
    defaulted_of_field hcatalog, defaulted_of_field hpermission, defaulted_of_field hnaming,
    defaulted_of_field hrefresh, defaulted_of_field hcache, defaulted_of_field hqueue,
    Mode.ofJson?_toJson, Targeting.ofJson?_toJson, Duration.ofJson?_toJson, Catalog.ofJson?_toJson,
    RelationNaming.ofJson?_toJson, hbool, hstr, hword, UInt64.ofNat_toNat]

/-- A text can hold any settings. -/
theorem textual_toJson (c : Config) : Textual c.toJson := by
  have hqueue : Textual (.nat c.queueCapacity.toNat) := textual_nat c.queueCapacity.toNat_lt
  exact .obj (by simp) (by
    simp [Textual.str, Textual.bool, hqueue, Mode.textual_toJson, Targeting.textual_toJson,
      Duration.textual_toJson, Catalog.textual_toJson, RelationNaming.textual_toJson])

/-- Settings that are saved and loaded again, from text or from a value that holds them anywhere,
are the settings that were saved: they are refused for the same reason or not at all, they start
with the same policy, and they give every service the same relation. -/
theorem survives_reload (p : Place) (c : Config) :
    ofText? (compact c.toJson) = some c.toJson ∧ Config.ofJson? p c.toJson = some c ∧
      ∃ d, (ofText? (compact c.toJson)).bind (Config.ofJson? p) = some d ∧ d = c ∧
        d.validate = c.validate ∧ d.policy = c.policy ∧
        ∀ service, d.naming.relationFor service = c.naming.relationFor service := by
  have htext : ofText? (compact c.toJson) = some c.toJson := ofText?_compact c.textual_toJson
  have hread : Config.ofJson? p c.toJson = some c := ofJson?_toJson p c
  have hreload : (ofText? (compact c.toJson)).bind (Config.ofJson? p) = some c := by
    rw [htext, Option.bind_some, hread]
  exact ⟨htext, hread, c, hreload, rfl, rfl, rfl, fun _ => rfl⟩

end Config

end ScopedAccess
