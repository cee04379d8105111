import ScopedAccess.Config
import ScopedAccess.Proofs.Catalog
import ScopedAccess.Proofs.RelationshipSide
import ScopedAccess.Proofs.Text

/-!
# ScopedAccess.Proofs.RelationNaming

Relations are named so that a grant on one service does not open another.

* `hasHole_of_validate`: the template of a consistent configuration has a hole for the service.
* `relationFor_eq_iff`: services without overrides share a relation only if they are one service.
* `grant_opens_one_service`: the same, and that a check service that allows the relation of one
  service opens this service and no other.
-/

namespace ScopedAccess

namespace RelationNaming

/-- The template has a hole for the service, at one place or several. -/
def HasHole (n : RelationNaming) : Prop := serviceHole.toList <:+: n.template.toList

/-- One of the overrides spells the service. -/
def Overrides (n : RelationNaming) (service : String) : Prop :=
  ∃ e ∈ n.overrides.entries, serviceKey e.1 = serviceKey service

variable {n : RelationNaming} {a b : String}

theorem hasHole_of_validate {c : Config} (h : c.validate = .ok ()) : c.naming.HasHole := by
  have hnone : c.objection? = none := by
    unfold Config.validate at h
    split at h
    · assumption
    · cases h
  -- the template is the third setting that is looked at
  unfold Config.objection? at hnone
  split at hnone
  · cases hnone
  · split at hnone
    · cases hnone
    · split at hnone
      · cases hnone
      · rename_i hcontains
        exact Text.contains_iff.1 (by simpa using hcontains)

theorem relationFor_congr (h : serviceKey a = serviceKey b) :
    n.relationFor a = n.relationFor b := by
  simp only [relationFor, overrideFor?, h]

theorem overrideFor?_eq_none : n.overrideFor? a = none ↔ ¬ n.Overrides a := by
  simp [overrideFor?, Overrides]

theorem relationFor_of_not_overrides (h : ¬ n.Overrides a) :
    n.relationFor a = Text.fill serviceHole (serviceKey a) n.template := by
  rw [relationFor, overrideFor?_eq_none.2 h]

/-- Services without overrides have one relation exactly if they are one service. -/
theorem relationFor_eq_iff (h : n.HasHole) (ha : ¬ n.Overrides a) (hb : ¬ n.Overrides b) :
    n.relationFor a = n.relationFor b ↔ serviceKey a = serviceKey b := by
  refine ⟨fun hsame => ?_, relationFor_congr⟩
  rw [relationFor_of_not_overrides ha, relationFor_of_not_overrides hb] at hsame
  exact Text.fill_injective (by decide) h hsame

end RelationNaming

namespace RelationshipSide

/-- The relation of a service belongs to no other service of a catalog without overrides. -/
theorem eq_of_relationFor_eq {n : RelationNaming} (h : n.HasHole) {catalog : Catalog}
    (hplain : ∀ id ∈ catalog.ids, ¬ n.Overrides id) {id id' : String} (hid : id ∈ catalog.ids)
    (hid' : id' ∈ catalog.ids) (hsame : n.relationFor id = n.relationFor id') : id = id' :=
  Catalog.eq_of_serviceKey_eq hid hid'
    ((RelationNaming.relationFor_eq_iff h (hplain id hid) (hplain id' hid')).1 hsame)

/-- Services are known apart by the names of their relations: the name depends on the service alone
and not on its spelling, and services without overrides have different names. So where only the
relation of one service is allowed, and the organization is not, only this service is open. -/
theorem grant_opens_one_service (n : RelationNaming) :
    (∀ c : Config, c.validate = .ok () → c.naming.HasHole) ∧
    (∀ a b, serviceKey a = serviceKey b → n.relationFor a = n.relationFor b) ∧
    (n.HasHole → ∀ a b, ¬ n.Overrides a → ¬ n.Overrides b → serviceKey a ≠ serviceKey b →
      n.relationFor a ≠ n.relationFor b) ∧
    ∀ (s : RelationshipSide) (world : RelationshipWorld) (principal : Principal) (tenant : String)
      (catalog : Catalog) (workspace : Workspace) (granted : String),
      s.naming = n → n.HasHole → (∀ id ∈ catalog.ids, ¬ n.Overrides id) →
      s.workspaceInTime world = .ok workspace →
      let answer := s.checkInTime world principal workspace
      ¬ s.OrgAllows answer → granted ∈ catalog.ids →
      (∀ id ∈ catalog.ids,
        answer (s.serviceTarget id) = .ok true ↔ n.relationFor id = n.relationFor granted) →
      (s.resolve world principal tenant catalog).value? =
        some (.ok ⟨⟨.relationship, .restricted (.ofList [granted]), none⟩,
          s.failures catalog answer⟩) := by
  refine ⟨fun _ => RelationNaming.hasHole_of_validate, fun _ _ => RelationNaming.relationFor_congr,
    ?_, ?_⟩
  · intro h a b ha hb hne hsame
    exact hne ((RelationNaming.relationFor_eq_iff h ha hb).1 hsame)
  · intro s world principal tenant catalog workspace granted hn h hplain hworkspace answer horg
      hgranted hanswer
    have hanswered : answer (s.serviceTarget granted) = .ok true := (hanswer granted hgranted).2 rfl
    have hout : ¬ s.Outage catalog answer := by
      rintro ⟨-, hfailed⟩
      obtain ⟨fault, hfault⟩ := hfailed granted hgranted
      rw [hanswered] at hfault
      cases hfault
    obtain ⟨decision, hok, hrestricts⟩ := s.ofAnswers_of_services catalog answer horg hout
    have hsole : ∀ id, (id ∈ catalog.ids ∧ answer (s.serviceTarget id) = .ok true) ↔
        id = granted := by
      refine fun id => ⟨fun ⟨hid, htrue⟩ => ?_, fun e => ?_⟩
      · exact eq_of_relationFor_eq h hplain hid hgranted ((hanswer id hid).1 htrue)
      · subst e
        exact ⟨hgranted, hanswered⟩
    rw [value?_resolve, conclusion_of_workspace hworkspace, hok, hrestricts.eq_of_sole hsole]

/-- The template has two holes, and one service is spelled like a hole. The check of another service
alone is allowed; the organization's is not answered. -/
theorem grant_opens_one_service_of_two_holes :
    let n : RelationNaming :=
      ⟨"\x7bservice\x7d_\x7bservice\x7d_run", .empty, some "run_view"⟩
    let s : RelationshipSide := ⟨n, .ofMillis 500, .ofMillis 200⟩
    let world : RelationshipWorld :=
      ⟨.asked (.after 40 (.ok ⟨"ws-1"⟩)), fun _ query =>
        if query.relation = "run_view" then .silent
        else .after 10 (.ok (query.relation == "config_manager_config_manager_run"))⟩
    let catalog := Catalog.ofIds ["\x7bservice\x7d", "Config-Manager", "tasks"]
    n.HasHole ∧ (∀ id ∈ catalog.ids, ¬ n.Overrides id) ∧
      n.relationFor "Config-Manager" ≠ n.relationFor "\x7bservice\x7d" ∧
      (s.resolve world ⟨.user, "alice"⟩ "1000" catalog).value? =
        some (.ok ⟨⟨.relationship, .restricted (.ofList ["Config-Manager"]), none⟩,
          [⟨⟨none, "run_view"⟩, .timedOut 200⟩]⟩) := by
  intro n s world catalog
  have hhole : n.HasHole := Text.contains_iff.1 (by decide +kernel)
  have hplain : ∀ service, ¬ n.Overrides service := by
    rintro service ⟨e, he, -⟩
    cases he
  have hworkspace : s.workspaceInTime world = .ok ⟨"ws-1"⟩ := by
    have hin : 40 ≤ s.lookupPatience.ticks := by decide +kernel
    simp only [workspaceInTime, world, Reply.within?, hin, if_true]
  let answer := s.checkInTime world ⟨.user, "alice"⟩ ⟨"ws-1"⟩
  have horg : ¬ s.OrgAllows answer := by
    rintro ⟨t, ht, hok⟩
    cases ht
    simp [answer, checkInTime, world, Reply.within?] at hok
  have hanswer : ∀ id ∈ catalog.ids, answer (s.serviceTarget id) = .ok true ↔
      n.relationFor id = n.relationFor "Config-Manager" := by
    decide +kernel
  have hfailures : s.failures catalog answer = [⟨⟨none, "run_view"⟩, .timedOut 200⟩] := by
    decide +kernel
  obtain ⟨-, -, hapart, hopens⟩ := grant_opens_one_service n
  refine ⟨hhole, fun id _ => hplain id, ?_, ?_⟩
  · exact hapart hhole _ _ (hplain _) (hplain _) (by decide +kernel)
  · rw [← hfailures]
    exact hopens s world ⟨.user, "alice"⟩ "1000" catalog ⟨"ws-1"⟩ "Config-Manager" rfl hhole
      (fun id _ => hplain id) hworkspace horg (by decide +kernel) hanswer

end RelationshipSide

end ScopedAccess
