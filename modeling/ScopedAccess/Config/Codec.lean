import ScopedAccess.Config
import ScopedAccess.Duration.Text
import ScopedAccess.Rollout.Policy.Codec

/-!
# ScopedAccess.Config.Codec

Settings as JSON. Every setting may be missing and has its default then; settings that are not
known are refused.
-/

namespace ScopedAccess

namespace Catalog

/-- Reads a catalog from a list of names. -/
def ofJson? (p : Json.Place) (v : Json) : Option Catalog := (Json.readStrings p v).map ofIds

def toJson (c : Catalog) : Json := .strings c.ids

end Catalog

namespace Config

/-- The names of the settings, in order. -/
def names : List String :=
  ["mode", "targeting", "attribute_fallback_enabled", "workspace_lookup_timeout", "check_timeout",
    "service_catalog", "required_permission", "relations", "policy_refresh_interval",
    "workspace_cache_ttl", "event_queue_capacity"]

def ofJson? (p : Json.Place) (v : Json) : Option Config :=
  match Json.closedRecord? p names v with
  | none => none
  | some f =>
    match Json.defaulted f "mode" (Mode.ofJson? p) standard.mode,
      Json.defaulted f "targeting" (Targeting.ofJson? p) standard.targeting,
      Json.defaulted f "attribute_fallback_enabled" Json.readBool standard.fallback,
      Json.defaulted f "workspace_lookup_timeout" (Duration.ofJson? p) standard.lookupPatience,
      Json.defaulted f "check_timeout" (Duration.ofJson? p) standard.checkPatience,
      Json.defaulted f "service_catalog" (Catalog.ofJson? p) standard.catalog,
      Json.defaulted f "required_permission" (Json.readStr p) standard.permission,
      Json.defaulted f "relations" (RelationNaming.ofJson? p) standard.naming,
      Json.defaulted f "policy_refresh_interval" (Duration.ofJson? p) standard.refreshInterval,
      Json.defaulted f "workspace_cache_ttl" (Duration.ofJson? p) standard.cacheLifetime,
      Json.defaulted f "event_queue_capacity" (Json.readBelow UInt64.size)
        standard.queueCapacity.toNat with
    | some mode, some targeting, some fallback, some lookupPatience, some checkPatience,
      some catalog, some permission, some naming, some refreshInterval, some cacheLifetime,
      some queueCapacity =>
      some ⟨mode, targeting, fallback, lookupPatience, checkPatience, catalog, permission, naming,
        refreshInterval, cacheLifetime, .ofNat queueCapacity⟩
    | _, _, _, _, _, _, _, _, _, _, _ => none

def toJson (c : Config) : Json :=
  .obj [("mode", c.mode.toJson), ("targeting", c.targeting.toJson),
    ("attribute_fallback_enabled", .bool c.fallback),
    ("workspace_lookup_timeout", c.lookupPatience.toJson),
    ("check_timeout", c.checkPatience.toJson),
    ("service_catalog", c.catalog.toJson),
    ("required_permission", .str c.permission),
    ("relations", c.naming.toJson),
    ("policy_refresh_interval", c.refreshInterval.toJson),
    ("workspace_cache_ttl", c.cacheLifetime.toJson),
    ("event_queue_capacity", .nat c.queueCapacity.toNat)]

end Config

end ScopedAccess
