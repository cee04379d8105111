import ScopedAccess.Instance
import ScopedAccess.Proofs.Agreement
import ScopedAccess.Proofs.Codec
import ScopedAccess.Proofs.Events

/-!
# ScopedAccess.Proofs.Comparison

A comparison from the answers of both models to the entry that is logged of it.

* `sidesAgree_iff` and `sidesAgree_comm`: sides agree only as decisions, and in either order.
* `accessText_injective`: access is logged so that it can be read back.
* `fields_logEntry`: an entry has the errors of both sides, at either level.
* `Comparison.faithful_to_sides`: the record and its entry show what the models answered, and the
  authoritative answer is what counts.
-/

namespace ScopedAccess

/-! ## Sides -/

theorem sidesAgree_iff {a r : Side} :
    sidesAgree a r = true ↔ ∃ d e, a = .ok d ∧ r = .ok e ∧ d.agrees e = true := by
  cases a <;> cases r <;> simp [sidesAgree]

theorem sidesAgree_comm (a r : Side) : sidesAgree r a = sidesAgree a r := by
  rw [Bool.eq_iff_iff, sidesAgree_iff, sidesAgree_iff]
  constructor
  · rintro ⟨d, e, hr, ha, h⟩
    exact ⟨e, d, ha, hr, Decision.equivalence_agrees.symm h⟩
  · rintro ⟨d, e, ha, hr, h⟩
    exact ⟨e, d, hr, ha, Decision.equivalence_agrees.symm h⟩

/-! ## Entries -/

/-- The value of a field of an entry. -/
def LogEntry.value? (entry : LogEntry) (name : String) : Option LogValue :=
  (entry.fields.find? fun f => f.1 == name).map Prod.snd

/-- One side of a comparison in an entry: the access of a decision, in a text that is read as that
access, or else the text of the error. -/
def Side.IsLogged (side : Side) (entry : LogEntry) (name errorName : String) : Prop :=
  match side with
  | .ok d =>
    (∃ text, entry.value? name = some (.text text) ∧
      (Json.ofText? text).bind Access.ofJson? = some d.access) ∧ entry.value? errorName = none
  | .error error =>
    entry.value? name = none ∧ entry.value? errorName = some (.text error.message)

/-- The text of access is read as the access. -/
theorem read_compact_access (access : Access) :
    (Json.ofText? (Json.compact access.toJson)).bind Access.ofJson? = some access := by
  rw [Json.ofText?_compact access.textual_toJson, Option.bind_some, Access.ofJson?_toJson]

theorem accessText_injective {d e : Decision} :
    accessText (some d) = accessText (some e) ↔ d.access = e.access := by
  simp only [accessText, Option.map_some, Option.some.injEq]
  refine ⟨fun h => ?_, fun h => by rw [h]⟩
  have hread := read_compact_access d.access
  rw [h, read_compact_access, Option.some.injEq] at hread
  exact hread.symm

/-- A side is logged if its access and its error stand under their names. -/
theorem Side.isLogged {side : Side} {entry : LogEntry} {name errorName : String}
    (haccess : entry.value? name = (accessText side.decision?).map .text)
    (herror : entry.value? errorName = side.errorText?.map .text) :
    side.IsLogged entry name errorName := by
  cases side with
  | ok d => exact ⟨⟨_, haccess, read_compact_access d.access⟩, herror⟩
  | error error => exact ⟨haccess, herror⟩

namespace Comparison

/-- The fields of a comparison's entry, with the errors of both sides. -/
def allFields (record : Comparison) : List (String × LogValue) :=
  record.logFields ++ LogEntry.optional "attribute_error" record.attributeError ++
    LogEntry.optional "relationship_error" record.relationshipError

/-- The entry of sides that agree leaves no error out, because there is none. -/
theorem fields_logEntry (request : Request) (a r : Side) (authoritative : Source) :
    (ofSides request a r authoritative).logEntry.fields =
      (ofSides request a r authoritative).allFields := by
  rw [logEntry]
  split
  · next h =>
    obtain ⟨d, e, rfl, rfl, -⟩ := sidesAgree_iff.1 h
    simp [allFields, ofSides, Side.errorText?, LogEntry.optional]
  · rfl

theorem level_logEntry (record : Comparison) :
    record.logEntry.level = if record.agreement then .debug else .warn := by
  rw [logEntry]
  split <;> rfl

/-- An entry shows a comparison: whose it is, and what both models answered. -/
structure Shows (entry : LogEntry) (request : Request) (a r : Side) (authoritative : Source) :
    Prop where
  names : (entry.fields.map Prod.fst).Nodup
  subject : entry.value? "subject_id" = some (.text request.subject)
  tenant : entry.value? "tenant_id" = some (.text request.tenant)
  authoritative : entry.value? "authoritative" = some (.text authoritative.title)
  ofAttribute : a.IsLogged entry "attribute" "attribute_error"
  ofRelationship : r.IsLogged entry "relationship" "relationship_error"

section Fields

variable {record : Comparison} {entry : LogEntry} (h : entry.fields = record.allFields)

theorem nodup_names : (record.allFields.map Prod.fst).Nodup := by
  obtain ⟨_, _, x, y, z, w, _, _⟩ := record
  cases x <;> cases y <;> cases z <;> cases w <;>
    simp [allFields, logFields, LogEntry.optional, accessText]

include h

theorem value?_allFields :
    entry.value? "subject_id" = some (.text record.subject) ∧
      entry.value? "tenant_id" = some (.text record.tenant) ∧
      entry.value? "authoritative" = some (.text record.authoritative.title) ∧
      entry.value? "attribute" = (accessText record.attributeSide).map .text ∧
      entry.value? "relationship" = (accessText record.relationshipSide).map .text ∧
      entry.value? "attribute_error" = record.attributeError.map .text ∧
      entry.value? "relationship_error" = record.relationshipError.map .text := by
  obtain ⟨_, _, x, y, z, w, _, _⟩ := record
  simp only [LogEntry.value?, h]
  cases x <;> cases y <;> cases z <;> cases w <;> exact ⟨rfl, rfl, rfl, rfl, rfl, rfl, rfl⟩

end Fields

theorem shows_logEntry (request : Request) (a r : Side) (authoritative : Source) :
    Shows (ofSides request a r authoritative).logEntry request a r authoritative := by
  have hfields := fields_logEntry request a r authoritative
  obtain ⟨hsubject, htenant, hauthoritative, hattribute, hrelationship, hattributeError,
    hrelationshipError⟩ := value?_allFields hfields
  exact ⟨hfields ▸ nodup_names, hsubject, htenant, hauthoritative,
    Side.isLogged hattribute hattributeError, Side.isLogged hrelationship hrelationshipError⟩

/-- The authoritative answer counts, whatever the other one is. Each side of the record is a decision
or the text of an error. The sides agree only if both are decisions that agree, whichever of them is
named first and counts. Where events are logged, the record is one entry: quiet if the sides agree
and a warning otherwise, with the error of each side that failed, and with the access of each other
side in words that tell it from all other access. -/
theorem faithful_to_sides (request : Request) (a r : Side) (authoritative : Source) :
    let record := ofSides request a r authoritative
    (∀ other, enforced a other .attribute = a ∧ enforced other r .relationship = r) ∧
    a.IsRecorded record.attributeSide record.attributeError ∧
    r.IsRecorded record.relationshipSide record.relationshipError ∧
    (record.agreement = true ↔ ∃ d e, a = .ok d ∧ r = .ok e ∧ d.agrees e = true) ∧
    (∀ authoritative', (ofSides request r a authoritative').agreement = record.agreement) ∧
    (∀ i : Instance, i.arrival (.comparison record) =
      if i.logsEvents then .logged record.logEntry else .delivered (.comparison record)) ∧
    record.logEntry.level = (if record.agreement then .debug else .warn) ∧
    Shows record.logEntry request a r authoritative ∧
    ∀ d e : Decision, accessText (some d) = accessText (some e) ↔ d.access = e.access :=
  ⟨fun _ => ⟨rfl, rfl⟩, a.isRecorded, r.isRecorded, sidesAgree_iff, fun _ => sidesAgree_comm a r,
    fun _ => rfl, level_logEntry _, shows_logEntry request a r authoritative,
    fun _ _ => accessText_injective⟩

end Comparison

end ScopedAccess
