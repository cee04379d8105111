import ScopedAccess.Decision

/-!
# ScopedAccess.Proofs.Decision

Restricted decisions, said by the services they open.
-/

namespace ScopedAccess

namespace Decision

/-- The decision opens exactly the services that `granted` holds of, and gives a reason exactly if
there are none. -/
structure RestrictsTo (d : Decision) (source : Source) (granted : String → Prop)
    (reason : DenyReason) : Prop where
  fromSource : d.source = source
  opens : ∃ services, d.access = .restricted services ∧ ∀ id, id ∈ services ↔ granted id
  denied : d.denyReason = some reason ↔ ∀ id, ¬ granted id
  allowed : d.denyReason = none ↔ ∃ id, granted id

theorem restricted_restrictsTo (source : Source) {services : NameSet} {granted : String → Prop}
    (reason : DenyReason) (h : ∀ id, id ∈ services ↔ granted id) :
    (restricted source services reason).RestrictsTo source granted reason := by
  have hempty : services.isEmpty = true ↔ ∀ id, ¬ granted id := by
    rw [NameSet.isEmpty_iff]
    exact forall_congr' fun id => not_congr (h id)
  refine ⟨rfl, ⟨services, rfl, h⟩, ?_, ?_⟩
  · rw [← hempty]
    simp [restricted]
  · have hsome : (∃ id, granted id) ↔ ¬ services.isEmpty = true := by
      rw [hempty, Classical.not_forall_not]
    rw [hsome]
    simp [restricted]

/-- A decision that opens one service only. -/
theorem RestrictsTo.eq_of_sole {d : Decision} {source : Source} {granted : String → Prop}
    {reason : DenyReason} {id : String} (h : d.RestrictsTo source granted reason)
    (hsole : ∀ x, granted x ↔ x = id) : d = ⟨source, .restricted (.ofList [id]), none⟩ := by
  obtain ⟨services, haccess, hopens⟩ := h.opens
  have hservices : services = .ofList [id] :=
    NameSet.ext fun x => by rw [hopens, hsole, NameSet.mem_ofList, List.mem_singleton]
  have hdenied : d.denyReason = none := h.allowed.2 ⟨id, (hsole id).2 rfl⟩
  obtain ⟨dsource, access, denyReason⟩ := d
  cases h.fromSource
  cases haccess
  cases hdenied
  rw [hservices]

end Decision

end ScopedAccess
