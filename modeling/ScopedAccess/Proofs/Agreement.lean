import ScopedAccess.Proofs.Catalog
import ScopedAccess.Proofs.Query

/-!
# ScopedAccess.Proofs.Agreement

What it means that two decisions agree.

* `agrees_iff`: decisions agree if they open the same services (`scope?`), whatever their spelling.
* `admits_iff`: a name is admitted if the catalog lists its service and the decision opens it.
* `agrees_iff_admits`: within a catalog, restrictions agree if they admit the same names.
* `agreement_is_equal_access`: all of it, and where agreement is finer than admission.
-/

namespace ScopedAccess.Decision

/-- The keys of the services that access is restricted to. -/
def scope? (d : Decision) : Option NameSet := d.allowed?.map keys

variable {d e : Decision} {services services' : NameSet}

theorem mem_keys {key : String} : key ∈ keys services ↔ ∃ id ∈ services, serviceKey id = key := by
  rw [keys, NameSet.mem_ofList, List.mem_map]
  rfl

theorem scope?_of_unrestricted (h : d.access = .unrestricted) : d.scope? = none := by
  rw [scope?, allowed?, h]
  rfl

theorem scope?_of_restricted (h : d.access = .restricted services) :
    d.scope? = some (keys services) := by
  rw [scope?, allowed?, h]
  rfl

/-! ## Agreement -/

/-- Decisions agree if and only if they open the same services. -/
theorem agrees_iff : d.agrees e = true ↔ d.scope? = e.scope? := by
  unfold agrees scope? allowed?
  cases d.access <;> cases e.access <;> simp

theorem equivalence_agrees : Equivalence fun d e : Decision => d.agrees e = true where
  refl _ := agrees_iff.2 rfl
  symm h := agrees_iff.2 (agrees_iff.1 h).symm
  trans h h' := agrees_iff.2 ((agrees_iff.1 h).trans (agrees_iff.1 h'))

theorem isUnrestricted_eq (d : Decision) : d.isUnrestricted = d.scope?.isNone := by
  unfold isUnrestricted scope? allowed?
  cases d.access <;> rfl

theorem isUnrestricted_of_agrees (h : d.agrees e = true) : d.isUnrestricted = e.isUnrestricted := by
  rw [isUnrestricted_eq, isUnrestricted_eq, agrees_iff.1 h]

/-! ## Admission -/

theorem admits_iff {catalog : Catalog} {service : String} :
    d.admits service catalog = true ↔
      serviceKey service ∈ catalog.ids.map serviceKey ∧
        ∀ keys, d.scope? = some keys → serviceKey service ∈ keys := by
  unfold admits
  cases hr : catalog.resolve service with
  | none =>
    have hlisted : serviceKey service ∉ catalog.ids.map serviceKey := by
      intro hmem
      obtain ⟨id, hid, hkey⟩ := List.mem_map.1 hmem
      rw [Catalog.resolve_eq_some.2 ⟨hid, hkey⟩] at hr
      cases hr
    simp [hlisted]
  | some id =>
    obtain ⟨hid, hkey⟩ := Catalog.resolve_eq_some.1 hr
    have hlisted : serviceKey service ∈ catalog.ids.map serviceKey :=
      hkey ▸ List.mem_map_of_mem hid
    cases ha : d.access with
    | unrestricted => simp [hlisted, scope?_of_unrestricted ha]
    | restricted services =>
      simp only [hlisted, true_and, scope?_of_restricted ha, Option.some.injEq, forall_eq',
        mem_keys, hkey, List.any_eq_true, beq_iff_eq]
      rfl

/-- Decisions that agree admit the same names. -/
theorem admits_eq_of_agrees (h : d.agrees e = true) (catalog : Catalog) (service : String) :
    d.admits service catalog = e.admits service catalog := by
  rw [Bool.eq_iff_iff, admits_iff, admits_iff, agrees_iff.1 h]

theorem admits_of_mem {catalog : Catalog} (h : d.access = .restricted services) {id : String}
    (hid : id ∈ services) (hlisted : id ∈ catalog.ids) : d.admits id catalog = true := by
  refine admits_iff.2 ⟨List.mem_map_of_mem hlisted, fun scope hscope => ?_⟩
  rw [scope?_of_restricted h] at hscope
  exact Option.some.inj hscope ▸ mem_keys.2 ⟨id, hid, rfl⟩

/-- What a restriction within the catalog opens is opened by all that admit the same names. -/
theorem mem_keys_of_admits {catalog : Catalog} (hd : d.access = .restricted services)
    (he : e.access = .restricted services') (hlisted : d.Listed catalog)
    (hadmits : ∀ service, d.admits service catalog = e.admits service catalog) {key : String}
    (hkey : key ∈ keys services) : key ∈ keys services' := by
  obtain ⟨id, hid, rfl⟩ := mem_keys.1 hkey
  have hopen : e.admits id catalog = true := by
    rw [← hadmits]
    exact admits_of_mem hd hid (hlisted services hd id hid)
  exact (admits_iff.1 hopen).2 _ (scope?_of_restricted he)

/-- Restrictions within the catalog agree if they admit the same names. -/
theorem agrees_of_admits {catalog : Catalog} (hd : d.access = .restricted services)
    (he : e.access = .restricted services') (hlisted : d.Listed catalog)
    (hlisted' : e.Listed catalog)
    (hadmits : ∀ service, d.admits service catalog = e.admits service catalog) :
    d.agrees e = true := by
  rw [agrees_iff, scope?_of_restricted hd, scope?_of_restricted he, Option.some.injEq]
  exact NameSet.ext fun _ => ⟨mem_keys_of_admits hd he hlisted hadmits,
    mem_keys_of_admits he hd hlisted' fun service => (hadmits service).symm⟩

theorem exists_restricted (h : d.isUnrestricted = false) :
    ∃ services, d.access = .restricted services := by
  unfold isUnrestricted at h
  cases ha : d.access with
  | unrestricted => simp [ha] at h
  | restricted services => exact ⟨services, rfl⟩

theorem agrees_iff_admits {catalog : Catalog} (hd : d.isUnrestricted = false)
    (he : e.isUnrestricted = false) (hlisted : d.Listed catalog) (hlisted' : e.Listed catalog) :
    d.agrees e = true ↔ ∀ service, d.admits service catalog = e.admits service catalog := by
  obtain ⟨services, hservices⟩ := exists_restricted hd
  obtain ⟨services', hservices'⟩ := exists_restricted he
  exact ⟨fun h => admits_eq_of_agrees h catalog,
    agrees_of_admits hservices hservices' hlisted hlisted'⟩

theorem not_agrees (hd : d.isUnrestricted = true) (he : e.isUnrestricted = false) :
    d.agrees e = false := by
  refine Bool.eq_false_iff.2 fun h => ?_
  rw [isUnrestricted_of_agrees h, he] at hd
  cases hd

/-- A restriction to the whole catalog admits what an unrestricted decision does. -/
theorem admits_whole_catalog (catalog : Catalog) (source source' : Source) (reason : DenyReason)
    (service : String) :
    (restricted source' (.ofList catalog.ids) reason).admits service catalog =
      (unrestricted source).admits service catalog := by
  have hwhole : (restricted source' (.ofList catalog.ids) reason).scope? =
      some (keys (.ofList catalog.ids)) := rfl
  have hopen : (unrestricted source).scope? = none := rfl
  have hkeys : serviceKey service ∈ keys (.ofList catalog.ids) ↔
      serviceKey service ∈ catalog.ids.map serviceKey := by
    simp only [mem_keys, NameSet.mem_ofList, List.mem_map]
  rw [Bool.eq_iff_iff, admits_iff, admits_iff, hwhole, hopen]
  simp only [Option.some.injEq, forall_eq', hkeys, and_self, reduceCtorEq, IsEmpty.forall_iff,
    implies_true, and_true]

/-- Agreement is an equivalence that looks at access alone. Decisions that agree are restricted or
unrestricted alike and admit the same names under every catalog; restrictions within a catalog
agree exactly if they admit the same names under it. An unrestricted decision and a restricted one
never agree, although the one to the whole catalog admits the same names. -/
theorem agreement_is_equal_access :
    (Equivalence fun d e : Decision => d.agrees e = true) ∧
    (∀ (d e : Decision) (source source' : Source) (reason reason' : Option DenyReason),
      Decision.agrees { d with source := source, denyReason := reason }
        { e with source := source', denyReason := reason' } = d.agrees e) ∧
    (∀ d e : Decision, d.agrees e = true → d.isUnrestricted = e.isUnrestricted ∧
      ∀ catalog service, d.admits service catalog = e.admits service catalog) ∧
    (∀ (catalog : Catalog) (d e : Decision), d.isUnrestricted = false → e.isUnrestricted = false →
      d.Listed catalog → e.Listed catalog →
      (d.agrees e = true ↔ ∀ service, d.admits service catalog = e.admits service catalog)) ∧
    (∀ d e : Decision, d.isUnrestricted = true → e.isUnrestricted = false →
      d.agrees e = false ∧ e.agrees d = false) ∧
    ∀ (catalog : Catalog) (source source' : Source) (reason : DenyReason),
      (unrestricted source).agrees (restricted source' (.ofList catalog.ids) reason) = false ∧
      ∀ service, (restricted source' (.ofList catalog.ids) reason).admits service catalog =
        (unrestricted source).admits service catalog := by
  refine ⟨equivalence_agrees, fun _ _ _ _ _ _ => rfl,
    fun d e h => ⟨isUnrestricted_of_agrees h, admits_eq_of_agrees h⟩,
    fun _ _ _ hd he hlisted hlisted' => agrees_iff_admits hd he hlisted hlisted',
    fun d e hd he => ⟨not_agrees hd he, ?_⟩,
    fun catalog source source' reason => ⟨rfl, admits_whole_catalog catalog source source' reason⟩⟩
  exact Bool.eq_false_iff.2 fun h =>
    Bool.eq_false_iff.1 (not_agrees hd he) (equivalence_agrees.symm h)

/-- Two spellings of a service agree, a service and the whole catalog do not, and neither agrees with
unrestricted access. -/
theorem agreement_is_equal_access_of_spelling :
    let catalog := Catalog.ofIds ["config-manager", "tasks"]
    let own := restricted .attribute (.ofList ["config-manager"]) .emptyServiceScope
    let spelled := restricted .relationship (.ofList ["Config_Manager"]) .noRelationshipGrant
    let whole := restricted .relationship (.ofList catalog.ids) .noRelationshipGrant
    own.agrees spelled = true ∧
      own.admits "CONFIG-manager" catalog = spelled.admits "CONFIG-manager" catalog ∧
      own.isUnrestricted = false ∧ whole.isUnrestricted = false ∧
      own.Listed catalog ∧ whole.Listed catalog ∧
      (¬ ∀ service, own.admits service catalog = whole.admits service catalog) ∧
      (unrestricted .attribute).isUnrestricted = true ∧
      (unrestricted .attribute).agrees whole = false := by
  intro catalog own spelled whole
  obtain ⟨-, -, hsame, hlisted, hnever, -⟩ := agreement_is_equal_access
  have hspelled : own.agrees spelled = true := by decide +kernel
  have hown : own.Listed catalog := by
    rintro services hservices id hid
    cases hservices
    rw [NameSet.mem_ofList, List.mem_singleton] at hid
    subst hid
    decide +kernel
  have hwhole : whole.Listed catalog := by
    rintro services hservices id hid
    cases hservices
    exact NameSet.mem_ofList.1 hid
  have hdiffer : own.agrees whole ≠ true := by decide +kernel
  refine ⟨hspelled, (hsame _ _ hspelled).2 catalog _, rfl, rfl, hown, hwhole, ?_, rfl,
    (hnever (unrestricted .attribute) whole rfl rfl).1⟩
  rwa [ne_eq, hlisted catalog own whole rfl rfl hown hwhole] at hdiffer

end ScopedAccess.Decision
