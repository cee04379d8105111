import ScopedAccess.Comparison
import ScopedAccess.Outcome
import ScopedAccess.Proofs.Codec
import ScopedAccess.Query

/-!
# ScopedAccess.Proofs.ResultRoundTrip

Requests and the results of calls that are sent as JSON and read by their receiver.

* `RoundTrips`: a kind of value is read as what was written, from the value and from its text, and
  no two values have one text. `roundTrips_of_reads` reduces it to one law about reading.
* `Comparison.nullable_sideToJson`: a side is a decision or null.
* `Decision.roundTrips`, `Outcome.roundTrips`, `Comparison.roundTrips`, `Request.roundTrips` and
  `ServiceFilter.roundTrips`: so it is for each kind.
* `Decision.denyReason_omitted`, `Comparison.error_omitted` and `Comparison.side_null`: what stands
  in the text where there is nothing.
* `results_survive_wire`: all of it.
-/

namespace ScopedAccess

open Json

/-! ## Kinds of values -/

/-- A kind of value as it is written and read. -/
structure RoundTrips {α : Type} (write : α → Json) (read : Json → Option α) : Prop where
  ofValue : ∀ a, read (write a) = some a
  ofText : ∀ a, (ofText? (compact (write a))).bind read = some a
  distinct : ∀ a b, compact (write a) = compact (write b) ↔ a = b

theorem roundTrips_of_reads {α : Type} {write : α → Json} {read : Json → Option α}
    (htextual : ∀ a, Textual (write a)) (hread : ∀ a, read (write a) = some a) :
    RoundTrips write read where
  ofValue := hread
  ofText := fun a => by rw [ofText?_compact (htextual a), Option.bind_some, hread]
  distinct := fun a b => by
    refine ⟨fun h => ?_, fun h => congrArg (compact ∘ write) h⟩
    have hsame : write a = write b := compact_injective (htextual a) (htextual b) h
    exact Option.some.inj ((hread a).symm.trans ((congrArg read hsame).trans (hread b)))

/-! ## Names -/

theorem Source.ofJson?_toJson (s : Source) : Source.ofJson? s.toJson = some s := by
  cases s <;> rfl

theorem DenyReason.nullable_toJson (r : DenyReason) :
    nullable DenyReason.ofJson? r.toJson = some (some r) := by
  cases r <;> rfl

theorem SubjectType.ofJson?_toJson (t : SubjectType) :
    SubjectType.ofJson? .message t.toJson = some t := by
  cases t <;> rfl

/-! ## Decisions and outcomes -/

namespace Decision

/-- The services are left out where access is unrestricted, and listed otherwise. -/
theorem services_written (d : Decision) :
    d.access.toJson.member? "services" = d.allowed?.map NameSet.toJson := by
  obtain ⟨_, access, _⟩ := d
  cases access <;> rfl

theorem services_omitted (d : Decision) :
    d.access.toJson.member? "services" = none ↔ d.isUnrestricted = true := by
  rw [services_written, Option.map_eq_none_iff]
  obtain ⟨_, access, _⟩ := d
  cases access <;> simp [allowed?, isUnrestricted]

theorem services_empty (d : Decision) :
    d.access.toJson.member? "services" = some (.arr []) ↔ d.isDenyAll = true := by
  rw [services_written]
  obtain ⟨_, access, _⟩ := d
  cases access with
  | unrestricted => simp [allowed?, isDenyAll]
  | restricted services =>
    simp [allowed?, isDenyAll, NameSet.toJson, strings, NameSet.isEmpty]

theorem denyReason_omitted (d : Decision) :
    d.toJson.member? "deny_reason" = none ↔ d.denyReason = none := by
  have hwritten : d.toJson.member? "deny_reason" = d.denyReason.map DenyReason.toJson := by
    obtain ⟨_, _, denyReason⟩ := d
    cases denyReason <;> rfl
  rw [hwritten, Option.map_eq_none_iff]

theorem ofJson?_toJson (d : Decision) : Decision.ofJson? d.toJson = some d := by
  obtain ⟨source, access, denyReason⟩ := d
  obtain ⟨f, hf, hsource, haccess, hreason⟩ :
      ∃ f, openRecord? .message ["source", "access", "deny_reason"]
          (Decision.toJson ⟨source, access, denyReason⟩) = some f ∧
        f "source" = some source.toJson ∧ f "access" = some access.toJson ∧
        f "deny_reason" = denyReason.map DenyReason.toJson :=
    ⟨_, rfl, rfl, rfl, by cases denyReason <;> rfl⟩
  simp only [Decision.ofJson?, hf, required_of_field hsource, required_of_field haccess,
    optional_of_map hreason DenyReason.nullable_toJson, Source.ofJson?_toJson,
    Access.ofJson?_toJson]

theorem textual_toJson (d : Decision) : Textual d.toJson := by
  obtain ⟨source, access, denyReason⟩ := d
  have hsource : Textual source.toJson := .str source.name
  cases denyReason with
  | none => exact .obj (by simp) (by simp [hsource, Access.textual_toJson])
  | some reason =>
    have hreason : Textual reason.toJson := .str reason.name
    exact .obj (by simp) (by simp [hsource, Access.textual_toJson, hreason])

theorem roundTrips : RoundTrips Decision.toJson Decision.ofJson? :=
  roundTrips_of_reads textual_toJson ofJson?_toJson

end Decision

namespace Outcome

theorem ofJson?_toJson (o : Outcome) : Outcome.ofJson? o.toJson = some o := by
  obtain ⟨f, hf, hdecision, hmode, hfallback, hversion⟩ :
      ∃ f, openRecord? .message
          ["decision", "mode", "fallback_applied", "policy_version"] o.toJson = some f ∧
        f "decision" = some o.decision.toJson ∧ f "mode" = some o.mode.toJson ∧
        f "fallback_applied" = some (.bool o.fallbackApplied) ∧
        f "policy_version" = some (.nat o.policyVersion.toNat) :=
    ⟨_, rfl, rfl, rfl, rfl, rfl⟩
  simp only [Outcome.ofJson?, hf, required_of_field hdecision, required_of_field hmode,
    required_of_field hfallback, required_of_field hversion, Decision.ofJson?_toJson,
    Mode.ofJson?_toJson, readBool_bool, readBelow_nat o.policyVersion.toNat_lt, UInt64.ofNat_toNat]

theorem textual_toJson (o : Outcome) : Textual o.toJson := by
  have hversion : Textual (.nat o.policyVersion.toNat) := textual_nat o.policyVersion.toNat_lt
  exact .obj (by simp) (by
    simp [Decision.textual_toJson, Mode.textual_toJson, Textual.bool, hversion])

theorem roundTrips : RoundTrips Outcome.toJson Outcome.ofJson? :=
  roundTrips_of_reads textual_toJson ofJson?_toJson

end Outcome

/-! ## Comparisons -/

namespace Comparison

theorem nullable_sideToJson (side : Option Decision) :
    nullable Decision.ofJson? (sideToJson side) = some side := by
  cases side with
  | none => rfl
  | some d =>
    have hread : nullable Decision.ofJson? d.toJson = (Decision.ofJson? d.toJson).map some := rfl
    rw [sideToJson, hread, Decision.ofJson?_toJson, Option.map_some]

theorem textual_sideToJson (side : Option Decision) : Textual (sideToJson side) := by
  cases side with
  | none => exact .null
  | some d => exact d.textual_toJson

theorem fields_toJson (c : Comparison) :
    ∃ f, openRecord? .message ["subject_id", "tenant_id", "attribute", "relationship",
        "attribute_error", "relationship_error", "agreement", "authoritative"] c.toJson = some f ∧
      f "subject_id" = some (.str c.subject) ∧ f "tenant_id" = some (.str c.tenant) ∧
      f "attribute" = some (sideToJson c.attributeSide) ∧
      f "relationship" = some (sideToJson c.relationshipSide) ∧
      f "attribute_error" = c.attributeError.map .str ∧
      f "relationship_error" = c.relationshipError.map .str ∧
      f "agreement" = some (.bool c.agreement) ∧
      f "authoritative" = some c.authoritative.toJson := by
  obtain ⟨_, _, _, _, attributeError, relationshipError, _, _⟩ := c
  refine ⟨_, rfl, rfl, rfl, rfl, rfl, ?_⟩
  cases attributeError <;> cases relationshipError <;> exact ⟨rfl, rfl, rfl, rfl⟩

theorem ofJson?_toJson (c : Comparison) : Comparison.ofJson? c.toJson = some c := by
  obtain ⟨f, hf, hsubject, htenant, hattribute, hrelationship, hattributeError,
    hrelationshipError, hagreement, hauthoritative⟩ := c.fields_toJson
  have hnullable : ∀ s : String, nullable (readStr .message) (.str s) = some (some s) :=
    fun _ => rfl
  simp only [Comparison.ofJson?, hf, required_of_field hsubject, required_of_field htenant,
    optional_of_field hattribute, optional_of_field hrelationship, nullable_sideToJson,
    optional_of_map hattributeError hnullable, optional_of_map hrelationshipError hnullable,
    required_of_field hagreement, required_of_field hauthoritative, readStr_str,
    readBool_bool, Source.ofJson?_toJson]

theorem textual_toJson (c : Comparison) : Textual c.toJson := by
  obtain ⟨subject, tenant, attributeSide, relationshipSide, attributeError, relationshipError,
    agreement, authoritative⟩ := c
  have hauthoritative : Textual authoritative.toJson := .str authoritative.name
  refine .obj ?_ ?_
  · cases attributeError <;> cases relationshipError <;> simp [errorToJson]
  · cases attributeError <;> cases relationshipError <;>
      simp [errorToJson, Textual.str, Textual.bool, textual_sideToJson, hauthoritative]

theorem roundTrips : RoundTrips Comparison.toJson Comparison.ofJson? :=
  roundTrips_of_reads textual_toJson ofJson?_toJson

theorem error_omitted (c : Comparison) :
    (c.toJson.member? "attribute_error" = none ↔ c.attributeError = none) ∧
      (c.toJson.member? "relationship_error" = none ↔ c.relationshipError = none) := by
  obtain ⟨f, hf, _, _, _, _, hattribute, hrelationship, _⟩ := c.fields_toJson
  cases hf
  have hwritten : c.toJson.member? "attribute_error" = c.attributeError.map .str := hattribute
  have hwritten' : c.toJson.member? "relationship_error" = c.relationshipError.map .str :=
    hrelationship
  rw [hwritten, hwritten', Option.map_eq_none_iff, Option.map_eq_none_iff]
  exact ⟨Iff.rfl, Iff.rfl⟩

theorem sideToJson_eq_null {side : Option Decision} : sideToJson side = .null ↔ side = none := by
  cases side <;> simp [sideToJson, Decision.toJson]

theorem side_null (c : Comparison) :
    (c.toJson.member? "attribute" = some .null ↔ c.attributeSide = none) ∧
      (c.toJson.member? "relationship" = some .null ↔ c.relationshipSide = none) := by
  have hwritten : c.toJson.member? "attribute" = some (sideToJson c.attributeSide) := rfl
  have hwritten' : c.toJson.member? "relationship" = some (sideToJson c.relationshipSide) := rfl
  rw [hwritten, hwritten', Option.some.injEq, Option.some.injEq]
  exact ⟨sideToJson_eq_null, sideToJson_eq_null⟩

end Comparison

/-! ## Requests and filters -/

namespace Request

theorem ofJson?_toJson (r : Request) : Request.ofJson? r.toJson = some r := by
  obtain ⟨f, hf, hsubject, htype, htenant, hpermission⟩ :
      ∃ f, openRecord? .message
          ["subject_id", "subject_type", "tenant_id", "required_permission"] r.toJson = some f ∧
        f "subject_id" = some (.str r.subject) ∧ f "subject_type" = some r.subjectType.toJson ∧
        f "tenant_id" = some (.str r.tenant) ∧
        f "required_permission" = some (.str r.permission) :=
    ⟨_, rfl, rfl, rfl, rfl, rfl⟩
  simp only [Request.ofJson?, hf, required_of_field hsubject, defaulted_of_field htype,
    required_of_field htenant, required_of_field hpermission, readStr_str,
    SubjectType.ofJson?_toJson]

theorem textual_toJson (r : Request) : Textual r.toJson := by
  have htype : Textual r.subjectType.toJson := .str r.subjectType.name
  exact .obj (by simp) (by simp [Textual.str, htype])

theorem roundTrips : RoundTrips Request.toJson Request.ofJson? :=
  roundTrips_of_reads textual_toJson ofJson?_toJson

end Request

namespace ServiceFilter

theorem ofJson?_toJson (x : ServiceFilter) : ServiceFilter.ofJson? x.toJson = some x := by
  cases x with
  | unfiltered => rfl
  | denyAll => rfl
  | among services =>
    have hread : underTag? "filter" "services" (among services).toJson =
        some ("in", some (strings services)) := rfl
    simp only [ServiceFilter.ofJson?, hread, readStrings_strings, Option.map_some]

theorem textual_toJson (x : ServiceFilter) : Textual x.toJson := by
  cases x with
  | unfiltered => exact .obj (by simp) (by simp [Textual.str])
  | denyAll => exact .obj (by simp) (by simp [Textual.str])
  | among services => exact .obj (by simp) (by simp [Textual.str, textual_strings])

theorem roundTrips : RoundTrips ServiceFilter.toJson ServiceFilter.ofJson? :=
  roundTrips_of_reads textual_toJson ofJson?_toJson

end ServiceFilter

/-- Decisions, outcomes, comparisons, requests and filters are read as what was written, whatever
names and services they hold, and no two of one kind have one text. A decision lists no services if
it is unrestricted, none at all if it denies everything, and some otherwise; its reason is left out
if there is none. A comparison leaves out the errors that there are not, and has null for a side
without a decision. -/
theorem results_survive_wire :
    RoundTrips Decision.toJson Decision.ofJson? ∧ RoundTrips Outcome.toJson Outcome.ofJson? ∧
    RoundTrips Comparison.toJson Comparison.ofJson? ∧
    RoundTrips Request.toJson Request.ofJson? ∧
    RoundTrips ServiceFilter.toJson ServiceFilter.ofJson? ∧
    (∀ d : Decision,
      (d.access.toJson.member? "services" = none ↔ d.isUnrestricted = true) ∧
      (d.access.toJson.member? "services" = some (.arr []) ↔ d.isDenyAll = true) ∧
      (d.toJson.member? "deny_reason" = none ↔ d.denyReason = none)) ∧
    ∀ c : Comparison,
      ((c.toJson.member? "attribute_error" = none ↔ c.attributeError = none) ∧
        (c.toJson.member? "relationship_error" = none ↔ c.relationshipError = none)) ∧
      (c.toJson.member? "attribute" = some .null ↔ c.attributeSide = none) ∧
        (c.toJson.member? "relationship" = some .null ↔ c.relationshipSide = none) :=
  ⟨Decision.roundTrips, Outcome.roundTrips, Comparison.roundTrips, Request.roundTrips,
    ServiceFilter.roundTrips,
    fun d => ⟨d.services_omitted, d.services_empty, d.denyReason_omitted⟩,
    fun c => ⟨c.error_omitted, c.side_null⟩⟩

end ScopedAccess
