import ScopedAccess.Proofs.Catalog
import ScopedAccess.Query

/-!
# ScopedAccess.Proofs.Query

What a caller sees who compiles a decision into the condition of a query, and that the check of one
service agrees with it.

* `ServiceFilter.shows`: such a caller runs no query where everything is denied, and otherwise sees
  the runs that meet the constraint, if there is one.
* `shows_eq_admitsRun`: that is what the filter says of each run, with or without a constraint.
* `admits_iff_admitsRun`: a decision within the catalog admits a name if the filter admits the
  catalog's spelling of it.
* `query_agrees_with_point_check`: both, and the form of the constraint.
-/

namespace ScopedAccess

/-- The values of a run's properties, as a query sees them. -/
abbrev RunProperties := String → Option String

namespace Predicate

/-- Whether a run meets a condition. -/
def holds : Predicate → RunProperties → Bool
  | .equal property value, run => run property == some value
  | .among property values, run => values.any fun value => run property == some value

end Predicate

/-- Whether a run meets all conditions. -/
def Constraint.holds (c : Constraint) (run : RunProperties) : Bool :=
  c.predicates.all fun p => p.holds run

namespace ServiceFilter

/-- Whether a caller sees a run who runs no query where everything is denied, and otherwise applies
the constraint, if there is one. -/
def shows (f : ServiceFilter) (run : RunProperties) : Bool :=
  if f.isDenyAll then false
  else
    match f.constraint? with
    | some c => c.holds run
    | none => true

/-- The condition that a list of services makes. -/
def condition : List String → Predicate
  | [service] => .equal serviceProperty service
  | services => .among serviceProperty services

theorem constraint?_among (services : List String) :
    (among services).constraint? = some ⟨[condition services]⟩ := by
  match services with
  | [] => rfl
  | [_] => rfl
  | _ :: _ :: _ => rfl

theorem holds_condition {run : RunProperties} {service : String}
    (h : run serviceProperty = some service) (services : List String) :
    (condition services).holds run = services.any fun s => s == service := by
  have hmeets : ∀ s, (run serviceProperty == some s) = (s == service) := by
    intro s
    rw [h, Bool.eq_iff_iff, beq_iff_eq, beq_iff_eq, Option.some.injEq]
    exact eq_comm
  match services with
  | [] => rfl
  | [s] => simp only [condition, Predicate.holds, hmeets, List.any_cons, List.any_nil, Bool.or_false]
  | _ :: _ :: _ => simp only [condition, Predicate.holds, hmeets]

/-- A caller sees the runs that the filter admits. -/
theorem shows_eq_admitsRun (f : ServiceFilter) {run : RunProperties} {service : String}
    (h : run serviceProperty = some service) : f.shows run = f.admitsRun service := by
  cases f with
  | unfiltered => rfl
  | denyAll => rfl
  | among services =>
    have hholds : (Constraint.mk [condition services]).holds run =
        (condition services).holds run := by
      simp only [Constraint.holds, List.all_cons, List.all_nil, Bool.and_true]
    simp only [shows, isDenyAll, Bool.false_eq_true, if_false, constraint?_among, hholds,
      holds_condition h, admitsRun]

end ServiceFilter

namespace Decision

open ServiceFilter (ofDecision)

/-- A restriction opens only services of the catalog, in its spelling. -/
def Listed (d : Decision) (catalog : Catalog) : Prop :=
  ∀ services, d.access = .restricted services → ∀ id ∈ services, id ∈ catalog.ids

section Filters

variable {d : Decision} {services : NameSet}

theorem ofDecision_of_unrestricted (h : d.access = .unrestricted) :
    ofDecision d = .unfiltered := by
  simp only [ofDecision, h]

theorem ofDecision_of_empty (h : d.access = .restricted services)
    (hs : services.isEmpty = true) : ofDecision d = .denyAll := by
  simp only [ofDecision, h, hs, if_true]

theorem ofDecision_of_nonempty (h : d.access = .restricted services)
    (hs : ¬ services.isEmpty = true) : ofDecision d = .among services.toList := by
  simp only [ofDecision, h]
  exact if_neg hs

theorem admitsRun_of_restricted (h : d.access = .restricted services) (service : String) :
    (ofDecision d).admitsRun service = true ↔ service ∈ services := by
  by_cases hs : services.isEmpty = true
  · rw [ofDecision_of_empty h hs]
    exact iff_of_false Bool.false_ne_true (NameSet.isEmpty_iff.1 hs service)
  · rw [ofDecision_of_nonempty h hs, NameSet.mem_iff]
    simp [ServiceFilter.admitsRun]

theorem isDenyAll_ofDecision (d : Decision) : (ofDecision d).isDenyAll = d.isDenyAll := by
  cases ha : d.access with
  | unrestricted =>
    rw [ofDecision_of_unrestricted ha, isDenyAll, ha]
    rfl
  | restricted services =>
    by_cases hs : services.isEmpty = true
    · rw [ofDecision_of_empty ha hs, isDenyAll, ha]
      exact hs.symm
    · rw [ofDecision_of_nonempty ha hs, isDenyAll, ha]
      exact (Bool.eq_false_iff.2 hs).symm

/-- Only an unrestricted decision leaves a query without a constraint that is run all the same. -/
theorem unconstrained_iff (d : Decision) :
    (ofDecision d).isDenyAll = false ∧ (ofDecision d).constraint? = none ↔
      d.access = .unrestricted := by
  cases ha : d.access with
  | unrestricted =>
    rw [ofDecision_of_unrestricted ha]
    exact iff_of_true ⟨rfl, rfl⟩ rfl
  | restricted services =>
    refine iff_of_false ?_ Access.noConfusion
    rintro ⟨hdeny, hnone⟩
    by_cases hs : services.isEmpty = true
    · rw [ofDecision_of_empty ha hs] at hdeny
      cases hdeny
    · rw [ofDecision_of_nonempty ha hs, ServiceFilter.constraint?_among] at hnone
      cases hnone

theorem services_of_constraint? {c : Constraint} (h : (ofDecision d).constraint? = some c) :
    ∃ services, d.access = .restricted services ∧ services.toList ≠ [] ∧
      c = ⟨[ServiceFilter.condition services.toList]⟩ := by
  cases ha : d.access with
  | unrestricted =>
    rw [ofDecision_of_unrestricted ha] at h
    cases h
  | restricted services =>
    by_cases hs : services.isEmpty = true
    · rw [ofDecision_of_empty ha hs] at h
      cases h
    · rw [ofDecision_of_nonempty ha hs, ServiceFilter.constraint?_among] at h
      refine ⟨services, rfl, ?_, (Option.some.inj h).symm⟩
      simpa [NameSet.isEmpty] using hs

end Filters

theorem admits_iff_admitsRun {d : Decision} {catalog : Catalog} (h : d.Listed catalog)
    (name : String) :
    d.admits name catalog = true ↔
      ∃ id, catalog.resolve name = some id ∧ (ofDecision d).admitsRun id = true := by
  cases hid : catalog.resolve name with
  | none => simp [admits, hid]
  | some id =>
    have hlisted : id ∈ catalog.ids := List.mem_of_find?_eq_some hid
    have honly : (∃ id', some id = some id' ∧ (ofDecision d).admitsRun id' = true) ↔
        (ofDecision d).admitsRun id = true := by simp
    rw [honly]
    cases ha : d.access with
    | unrestricted =>
      rw [ofDecision_of_unrestricted ha]
      simp [admits, hid, ha, ServiceFilter.admitsRun]
    | restricted services =>
      -- the key of an admitted service is the key of one that the restriction opens
      rw [admitsRun_of_restricted ha]
      simp only [admits, hid, ha, List.any_eq_true, beq_iff_eq]
      constructor
      · rintro ⟨id', hmem, hkey⟩
        rwa [← Catalog.eq_of_serviceKey_eq (h services ha id' hmem) hlisted hkey]
      · intro hmem
        exact ⟨id, hmem, rfl⟩

/-- A decision within the catalog admits a name exactly if the catalog has a spelling of it that the
filter admits. Of any decision, a caller who compiles it sees the runs that the filter admits:
none if it opens nothing, and without a constraint only where access is unrestricted. A constraint
names the services in increasing order, one by equality and more by membership. -/
theorem query_agrees_with_point_check (d : Decision) :
    let filter := ofDecision d
    (∀ catalog, d.Listed catalog → ∀ name, d.admits name catalog = true ↔
      ∃ id, catalog.resolve name = some id ∧ filter.admitsRun id = true) ∧
    (∀ run service, run "service" = some service →
      filter.shows run = filter.admitsRun service) ∧
    filter.isDenyAll = d.isDenyAll ∧
    (∀ services, d.access = .restricted services → services.toList = [] →
      ∀ run, filter.shows run = false) ∧
    (filter.isDenyAll = false ∧ filter.constraint? = none ↔ d.access = .unrestricted) ∧
    ∀ c, filter.constraint? = some c →
      ∃ services : NameSet, d.access = .restricted services ∧
        services.toList.Pairwise (· < ·) ∧
        ((∃ service, services.toList = [service] ∧ c = ⟨[.equal "service" service]⟩) ∨
          2 ≤ services.toList.length ∧ c = ⟨[.among "service" services.toList]⟩) := by
  intro filter
  refine ⟨fun catalog h name => admits_iff_admitsRun h name,
    fun run service h => filter.shows_eq_admitsRun h, isDenyAll_ofDecision d, ?_,
    unconstrained_iff d, ?_⟩
  · intro services ha hs run
    have hempty : services.isEmpty = true := List.isEmpty_iff.2 hs
    have hfilter : filter = .denyAll := ofDecision_of_empty ha hempty
    rw [hfilter]
    rfl
  · intro c hc
    obtain ⟨services, ha, hne, rfl⟩ := services_of_constraint? hc
    refine ⟨services, ha, services.increasing, ?_⟩
    match hs : services.toList with
    | [] => exact absurd hs hne
    | [service] => exact .inl ⟨service, rfl, rfl⟩
    | _ :: _ :: _ => exact .inr ⟨Nat.le_add_left _ _, rfl⟩

/-- Two of three services are open, and one of them is asked for in another spelling. -/
theorem query_agrees_with_point_check_of_spelling :
    let catalog := Catalog.ofIds ["config-manager", "tasks", "remediations"]
    let services : NameSet := .ofList ["tasks", "config-manager"]
    let d : Decision := .restricted .relationship services .noRelationshipGrant
    let run : RunProperties := fun property =>
      if property = "service" then some "config-manager" else none
    d.Listed catalog ∧ run "service" = some "config-manager" ∧
      d.admits " Config_Manager " catalog = true ∧
      (ofDecision d).shows run = true ∧
      (ofDecision d).constraint? = some ⟨[.among "service" ["config-manager", "tasks"]]⟩ := by
  intro catalog services d run
  have hlisted : d.Listed catalog := by
    rintro own hown id hid
    cases hown
    have hall : ∀ id ∈ services.toList, id ∈ catalog.ids := by decide +kernel
    exact hall id hid
  have hrun : run "service" = some "config-manager" := rfl
  have hadmits : (ofDecision d).admitsRun "config-manager" = true := by decide +kernel
  obtain ⟨hpoint, hquery, _⟩ := query_agrees_with_point_check d
  refine ⟨hlisted, hrun, ?_, ?_, by decide +kernel⟩
  · exact (hpoint catalog hlisted " Config_Manager ").2
      ⟨"config-manager", by decide +kernel, hadmits⟩
  · rw [hquery run "config-manager" hrun]
    exact hadmits

end Decision

end ScopedAccess
