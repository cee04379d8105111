import Mathlib.Data.List.Forall2
import Mathlib.Data.List.Nodup
import ScopedAccess.Proofs.Agreement
import ScopedAccess.Proofs.AttributeSide
import ScopedAccess.Proofs.Catalog
import ScopedAccess.Proofs.Degradation
import ScopedAccess.Proofs.Engine
import ScopedAccess.Proofs.RelationNaming
import ScopedAccess.Proofs.Shadow

/-!
# ScopedAccess.Proofs.Spelling

Calls under two catalogs that list the same services, each in its own order and spelling.

* `Catalog.Alike`: the catalogs list the same services. `Decision.Alike`: two decisions agree and
  give the same reason.
* `AttributeResolution.resolve_alike` and `RelationshipSide.conclusion_alike`: each side comes to
  the same under both catalogs, an error up to its wording.
* `Engine.ending_authorize_alike`: so does a call, at the same instant.
* `Catalog.spelling_irrelevant`: all of it, and that the values of filters may be respelled too.
-/

namespace ScopedAccess

/-! ## Catalogs -/

namespace Catalog

/-- Two catalogs list the same services, in any order and any spelling. -/
def Alike (c c' : Catalog) : Prop :=
  ∀ key, key ∈ c.ids.map serviceKey ↔ key ∈ c'.ids.map serviceKey

variable {c c' : Catalog}

theorem Alike.of_listed (h : ∀ key ∈ c.ids.map serviceKey, key ∈ c'.ids.map serviceKey)
    (h' : ∀ key ∈ c'.ids.map serviceKey, key ∈ c.ids.map serviceKey) : c.Alike c' :=
  fun key => ⟨h key, h' key⟩

theorem Alike.symm (h : c.Alike c') : c'.Alike c := fun key => (h key).symm

/-- A service of the one catalog is in the other, in some spelling. -/
theorem Alike.exists_id (h : c.Alike c') {id : String} (hid : id ∈ c.ids) :
    ∃ id' ∈ c'.ids, serviceKey id' = serviceKey id :=
  List.mem_map.1 ((h _).1 (List.mem_map_of_mem hid))

theorem Alike.size_eq (h : c.Alike c') : c.size = c'.size := by
  have hperm : (c.ids.map serviceKey).Perm (c'.ids.map serviceKey) :=
    (List.perm_ext_iff_of_nodup c.distinct.1 c'.distinct.1).2 h
  simpa [size] using hperm.length_eq

/-- The services that some names stand for in a catalog, by their keys. -/
theorem exists_resolve {names : List String} {key : String} :
    (∃ id, (∃ name ∈ names, c.resolve name = some id) ∧ serviceKey id = key) ↔
      key ∈ c.ids.map serviceKey ∧ ∃ name ∈ names, serviceKey name = key := by
  simp only [resolve_eq_some, List.mem_map]
  constructor
  · rintro ⟨id, ⟨name, hname, hid, hkey⟩, rfl⟩
    exact ⟨⟨id, hid, rfl⟩, name, hname, hkey.symm⟩
  · rintro ⟨⟨id, hid, rfl⟩, name, hname, hkey⟩
    exact ⟨id, ⟨name, hname, hid, hkey.symm⟩, rfl⟩

end Catalog

/-! ## Decisions -/

namespace Decision

/-- Two decisions of one model agree, and give the same reason for a denial. -/
structure Alike (d d' : Decision) : Prop where
  source : d.source = d'.source
  agrees : d.agrees d' = true
  denyReason : d.denyReason = d'.denyReason

variable {d d' : Decision}

theorem Alike.refl (d : Decision) : d.Alike d :=
  ⟨rfl, equivalence_agrees.refl d, rfl⟩

/-- Restrictions to the same services are alike. -/
theorem RestrictsTo.alike {source : Source} {granted granted' : String → Prop}
    {reason : DenyReason} (h : d.RestrictsTo source granted reason)
    (h' : d'.RestrictsTo source granted' reason)
    (hkeys : ∀ key, (∃ id, granted id ∧ serviceKey id = key) ↔
      ∃ id, granted' id ∧ serviceKey id = key) : d.Alike d' := by
  refine ⟨h.fromSource.trans h'.fromSource.symm, ?_, ?_⟩
  · obtain ⟨services, haccess, hopens⟩ := h.opens
    obtain ⟨services', haccess', hopens'⟩ := h'.opens
    have hsame : keys services = keys services' :=
      NameSet.ext fun key => by simp only [mem_keys, hopens, hopens', hkeys]
    simp only [agrees, haccess, haccess', hsame, beq_self_eq_true]
  · have hany : (∃ id, granted id) ↔ ∃ id, granted' id := by
      constructor
      · rintro ⟨id, hid⟩
        obtain ⟨id', hid', -⟩ := (hkeys _).1 ⟨id, hid, rfl⟩
        exact ⟨id', hid'⟩
      · rintro ⟨id, hid⟩
        obtain ⟨id', hid', -⟩ := (hkeys _).2 ⟨id, hid, rfl⟩
        exact ⟨id', hid'⟩
    by_cases hsome : ∃ id, granted id
    · rw [h.allowed.2 hsome, h'.allowed.2 (hany.1 hsome)]
    · rw [h.denied.2 (not_exists.1 hsome), h'.denied.2 (not_exists.1 (mt hany.2 hsome))]

/-- Alike decisions admit the same names under catalogs that list the same services. -/
theorem Alike.admits_eq {catalog catalog' : Catalog} (hc : catalog.Alike catalog')
    (h : d.Alike d') (service : String) :
    d.admits service catalog = d'.admits service catalog' := by
  rw [Bool.eq_iff_iff, admits_iff, admits_iff, hc, agrees_iff.1 h.agrees]

end Decision

/-! ## Results -/

namespace AuthzError

/-- The number of failed checks that an error reports. -/
def failedChecks? : AuthzError → Option Nat
  | serviceUnavailable failedChecks _ => some failedChecks
  | _ => none

/-- Errors of one kind that report equally many failed checks. -/
structure Alike (error error' : AuthzError) : Prop where
  kind : error.kind = error'.kind
  failedChecks : error.failedChecks? = error'.failedChecks?

theorem Alike.refl (error : AuthzError) : error.Alike error := ⟨rfl, rfl⟩

end AuthzError

/-- Both work out with alike values, or both fail with alike errors. -/
inductive SameResult (A : α → α → Prop) : Except AuthzError α → Except AuthzError α → Prop where
  | ok {a a' : α} (h : A a a') : SameResult A (.ok a) (.ok a')
  | error {error error' : AuthzError} (h : error.Alike error') :
      SameResult A (.error error) (.error error')

theorem SameResult.map {A : α → α → Prop} {B : β → β → Prop} {f : α → β}
    {r r' : Except AuthzError α} (h : SameResult A r r')
    (hf : ∀ a a', A a a' → B (f a) (f a')) : SameResult B (r.map f) (r'.map f) := by
  cases h with
  | ok h => exact .ok (hf _ _ h)
  | error h => exact .error h

theorem SameResult.imp {A B : α → α → Prop} {r r' : Except AuthzError α} (h : SameResult A r r')
    (hAB : ∀ a a', A a a' → B a a') : SameResult B r r' := by
  cases h with
  | ok h => exact .ok (hAB _ _ h)
  | error h => exact .error h

/-- Work ends at the same instant with the same result, or in both cases never. -/
def SameEnding (A : α → α → Prop) :
    Option (Nat × Except AuthzError α) → Option (Nat × Except AuthzError α) → Prop :=
  Option.Rel fun x x' => x.1 = x'.1 ∧ SameResult A x.2 x'.2

theorem SameEnding.map {A : α → α → Prop} {B : β → β → Prop}
    {f g : Nat × Except AuthzError α → Nat × Except AuthzError β}
    {x x' : Option (Nat × Except AuthzError α)} (h : SameEnding A x x')
    (hf : ∀ t r r', SameResult A r r' →
      (f (t, r)).1 = (g (t, r')).1 ∧ SameResult B (f (t, r)).2 (g (t, r')).2) :
    SameEnding B (x.map f) (x'.map g) := by
  cases h with
  | none => exact .none
  | @some y y' h =>
    obtain ⟨t, r⟩ := y
    obtain ⟨t', r'⟩ := y'
    obtain ⟨rfl, hr⟩ := h
    exact .some (hf t r r' hr)

theorem SameEnding.imp {A B : α → α → Prop} {x x' : Option (Nat × Except AuthzError α)}
    (h : SameEnding A x x') (hAB : ∀ a a', A a a' → B a a') : SameEnding B x x' := by
  cases h with
  | none => exact .none
  | some h => exact .some ⟨h.1, h.2.imp hAB⟩

theorem SameEnding.endsBefore_eq {A : α → α → Prop} {r r' : Run ε (Except AuthzError α)}
    (h : SameEnding A r.ending r'.ending) (limit : Nat) :
    r.endsBefore limit = r'.endsBefore limit := by
  obtain ⟨trace, ending⟩ := r
  obtain ⟨trace', ending'⟩ := r'
  cases h with
  | none => rfl
  | some h => simp only [Run.endsBefore, h.1]

/-- Interrupted alike, work still ends alike. -/
theorem SameEnding.guarded {A : α → α → Prop} {r r' : Run ε (Except AuthzError α)}
    (h : SameEnding A r.ending r'.ending) (stop : Option Interruption) :
    SameEnding A (r.guarded stop (.error .canceled)).ending
      (r'.guarded stop (.error .canceled)).ending := by
  cases stop with
  | none => exact h
  | some i =>
    simp only [Run.guarded, Run.ending_stoppedBefore, h.endsBefore_eq]
    split
    · exact h
    · exact .some ⟨rfl, .error (.refl _)⟩

/-! ## The attribute side -/

/-- The same filter with its values in other spellings. -/
inductive AttributeFilter.Respelled : AttributeFilter → AttributeFilter → Prop where
  | equal (key : String) {v v' : String} (h : serviceKey v = serviceKey v') :
      Respelled (.equal key v) (.equal key v')
  | oneOf (key : String) {vs vs' : NameSet}
      (h : ∀ k, (∃ v ∈ vs, serviceKey v = k) ↔ ∃ v ∈ vs', serviceKey v = k) :
      Respelled (.oneOf key vs) (.oneOf key vs')
  | unrecognized : Respelled .unrecognized .unrecognized

namespace AttributeFilter

variable {f g : AttributeFilter}

/-- One of the values of a filter is replaced by another spelling of it. -/
theorem Respelled.of_replaced (key : String) (before after : List String) {v v' : String}
    (h : serviceKey v = serviceKey v') :
    Respelled (.oneOf key (.ofList (before ++ v :: after)))
      (.oneOf key (.ofList (before ++ v' :: after))) := by
  refine .oneOf key fun k => ?_
  simp only [NameSet.mem_ofList, List.mem_append, List.mem_cons, or_and_right, exists_or,
    exists_eq_left, h]

theorem Respelled.isOnServices_eq (h : f.Respelled g) : f.isOnServices = g.isOnServices := by
  cases h <;> rfl

theorem Respelled.exists_value (h : f.Respelled g) {v : String} (hv : v ∈ f.values) :
    ∃ w ∈ g.values, serviceKey w = serviceKey v := by
  cases h with
  | equal key h =>
    rw [List.mem_singleton.1 hv]
    exact ⟨_, List.mem_singleton_self _, h.symm⟩
  | oneOf key h => exact (h _).1 ⟨v, hv, rfl⟩
  | unrecognized => cases hv

theorem Respelled.symm (h : f.Respelled g) : g.Respelled f := by
  cases h with
  | equal key h => exact .equal key h.symm
  | oneOf key h => exact .oneOf key fun k => (h k).symm
  | unrecognized => exact .unrecognized

theorem Respelled.exists_granted (h : f.Respelled g) {catalog : Catalog} {id : String}
    (hid : ∃ v ∈ f.serviceValues, catalog.resolve v = some id) :
    ∃ w ∈ g.serviceValues, catalog.resolve w = some id := by
  obtain ⟨v, hv, hresolve⟩ := hid
  rw [serviceValues_eq] at hv ⊢
  rw [← h.isOnServices_eq]
  split at hv
  · rename_i hservice
    obtain ⟨w, hw, hkey⟩ := h.exists_value hv
    rw [if_pos hservice]
    exact ⟨w, hw, (Catalog.resolve_congr hkey).trans hresolve⟩
  · cases hv

/-- Values in other spellings grant the same. -/
theorem Respelled.grantsAlike (h : f.Respelled g) (catalog : Catalog) : f.GrantsAlike catalog g :=
  fun _ => ⟨h.exists_granted, h.symm.exists_granted⟩

end AttributeFilter

/-- The same permission with the values of its filters in other spellings. -/
structure Permission.Respelled (p q : Permission) : Prop where
  name : p.name = q.name
  filters : List.Forall₂ AttributeFilter.Respelled p.filters q.filters

namespace AttributeResolution

/-- The attribute side comes to the same under both catalogs. -/
theorem resolve_alike {c c' : Catalog} (h : c.Alike c') (permissions : List Permission)
    (required : String) :
    (resolve permissions required c).decision.Alike (resolve permissions required c').decision := by
  simp only [resolve]
  split
  · exact .refl _
  · split
    · exact .refl _
    · refine (ofFilters_restrictsTo _ c).alike (ofFilters_restrictsTo _ c') fun key => ?_
      rw [Catalog.exists_resolve, Catalog.exists_resolve, h]

/-- Values in other spellings grant the same. -/
theorem resolve_respelled {ps qs : List Permission}
    (h : List.Forall₂ Permission.Respelled ps qs) (required : String) (catalog : Catalog) :
    (resolve ps required catalog).decision = (resolve qs required catalog).decision := by
  refine resolve_grantsAlike (h.imp fun p q hpq => ?_) required
  exact ⟨hpq.name, hpq.filters.imp fun _ _ hfg => hfg.grantsAlike catalog⟩

end AttributeResolution

/-! ## The relationship side -/

/-- The answers of services that know a check by its query alone. -/
def RelationshipWorld.ofQueries (workspace : WorkspaceAnswer)
    (check : CheckQuery → Reply (Except CheckFault Bool)) : RelationshipWorld :=
  ⟨workspace, fun _ query => check query⟩

namespace RelationshipSide

theorem le_foldr_max {xs : List Nat} {x : Nat} (hx : x ∈ xs) : x ≤ xs.foldr max 0 := by
  induction xs with
  | nil => cases hx
  | cons y ys ih =>
    rcases List.mem_cons.1 hx with rfl | hx
    · exact Nat.le_max_left _ _
    · exact Nat.le_trans (ih hx) (Nat.le_max_right _ _)

theorem foldr_max_eq {xs ys : List Nat} (h : ∀ x, x ∈ xs ↔ x ∈ ys) :
    xs.foldr max 0 = ys.foldr max 0 :=
  Nat.le_antisymm (foldr_max_le fun x hx => le_foldr_max ((h x).1 hx))
    (foldr_max_le fun x hx => le_foldr_max ((h x).2 hx))

/-- The answers to the checks of services depend on which services they are, not on their
spelling. -/
def ByService (s : RelationshipSide) (answer : CheckTarget → α) : Prop :=
  ∀ id id', serviceKey id = serviceKey id' →
    answer (s.serviceTarget id) = answer (s.serviceTarget id')

section Answers

variable {s : RelationshipSide} {c c' : Catalog} {answer : CheckTarget → Except CheckFault Bool}

theorem Outage.alike (h : c.Alike c') (hanswer : s.ByService answer) (hout : s.Outage c answer) :
    s.Outage c' answer := by
  obtain ⟨id, hid⟩ := List.exists_mem_of_ne_nil _ hout.1
  obtain ⟨id', hid', -⟩ := h.exists_id hid
  refine ⟨List.ne_nil_of_mem hid', fun id' hid' => ?_⟩
  obtain ⟨id, hid, hkey⟩ := h.symm.exists_id hid'
  obtain ⟨fault, hfault⟩ := hout.2 id hid
  exact ⟨fault, (hanswer _ _ hkey).symm.trans hfault⟩

theorem exists_granted_alike (h : c.Alike c') (hanswer : s.ByService answer) {key : String}
    (hid : ∃ id, (id ∈ c.ids ∧ answer (s.serviceTarget id) = .ok true) ∧ serviceKey id = key) :
    ∃ id, (id ∈ c'.ids ∧ answer (s.serviceTarget id) = .ok true) ∧ serviceKey id = key := by
  obtain ⟨id, ⟨hmem, hok⟩, rfl⟩ := hid
  obtain ⟨id', hid', hkey⟩ := h.exists_id hmem
  exact ⟨id', ⟨hid', (hanswer _ _ hkey).trans hok⟩, hkey⟩

theorem ofAnswers_alike (h : c.Alike c') (hanswer : s.ByService answer) :
    SameResult (fun r r' => r.decision.Alike r'.decision)
      (RelationshipResolution.ofAnswers (s.answersOf c answer))
      (RelationshipResolution.ofAnswers (s.answersOf c' answer)) := by
  by_cases horg : s.OrgAllows answer
  · rw [s.ofAnswers_of_orgAllows c answer horg, s.ofAnswers_of_orgAllows c' answer horg]
    exact .ok (.refl _)
  · by_cases hout : s.Outage c answer
    · obtain ⟨_, _, _, _, _, herror⟩ := s.ofAnswers_of_outage c answer horg hout
      obtain ⟨_, _, _, _, _, herror'⟩ :=
        s.ofAnswers_of_outage c' answer horg (hout.alike h hanswer)
      rw [herror, herror', h.size_eq]
      exact .error ⟨rfl, rfl⟩
    · have hout' : ¬ s.Outage c' answer := fun hout' => hout (hout'.alike h.symm hanswer)
      obtain ⟨d, hok, hrestricts⟩ := s.ofAnswers_of_services c answer horg hout
      obtain ⟨d', hok', hrestricts'⟩ := s.ofAnswers_of_services c' answer horg hout'
      rw [hok, hok']
      exact .ok (hrestricts.alike hrestricts' fun key =>
        ⟨exists_granted_alike h hanswer, exists_granted_alike h.symm hanswer⟩)

theorem mem_instants_alike {instant : CheckTarget → Nat} (h : c.Alike c')
    (hinstant : s.ByService instant) {x : Nat} (hx : x ∈ (s.targets c).map instant) :
    x ∈ (s.targets c').map instant := by
  simp only [targets_eq, List.map_append, List.map_map, List.mem_append] at hx ⊢
  refine hx.imp_right fun hx => ?_
  obtain ⟨id, hid, rfl⟩ := List.mem_map.1 hx
  obtain ⟨id', hid', hkey⟩ := h.exists_id hid
  exact List.mem_map.2 ⟨id', hid', hinstant _ _ hkey⟩

end Answers

section Resolutions

variable {c c' : Catalog} (s : RelationshipSide) (workspace : WorkspaceAnswer)
  (check : CheckQuery → Reply (Except CheckFault Bool)) (principal : Principal)

/-- The relationship side comes to the same under both catalogs. -/
theorem conclusion_alike (h : c.Alike c') (tenant : String) :
    SameResult (fun r r' => r.decision.Alike r'.decision)
      (s.conclusion (.ofQueries workspace check) principal tenant c)
      (s.conclusion (.ofQueries workspace check) principal tenant c') := by
  unfold conclusion
  split
  · exact .error (.refl _)
  · refine ofAnswers_alike h fun id id' hkey => ?_
    simp only [checkInTime, serviceTarget, RelationNaming.relationFor_congr hkey,
      RelationshipWorld.ofQueries]

theorem resolveInstant_alike (h : c.Alike c') :
    s.resolveInstant (.ofQueries workspace check) principal c =
      s.resolveInstant (.ofQueries workspace check) principal c' := by
  unfold resolveInstant
  split
  · rfl
  · rename_i found _
    have hinstant : s.ByService
        (s.checkInstant (.ofQueries workspace check) principal found) :=
      fun id id' hkey => by
        simp only [checkInstant, serviceTarget, RelationNaming.relationFor_congr hkey,
          RelationshipWorld.ofQueries]
    rw [foldr_max_eq fun x =>
      ⟨mem_instants_alike h hinstant, mem_instants_alike h.symm hinstant⟩]

end Resolutions

end RelationshipSide

/-! ## Calls -/

/-- Alike decisions that both or neither stand in for the relationship side. -/
structure Resolved.Alike (r r' : Resolved) : Prop where
  decision : r.decision.Alike r'.decision
  fallbackApplied : r.fallbackApplied = r'.fallbackApplied

/-- Outcomes that differ in the spelling of services at most. -/
structure Outcome.Alike (o o' : Outcome) : Prop where
  decision : o.decision.Alike o'.decision
  mode : o.mode = o'.mode
  fallbackApplied : o.fallbackApplied = o'.fallbackApplied
  policyVersion : o.policyVersion = o'.policyVersion

namespace Engine

variable {e e' : Engine}

/-- Two engines are set up alike, save that their catalogs list the same services in another order
or spelling. -/
structure Alike (e e' : Engine) : Prop where
  catalog : e.catalog.Alike e'.catalog
  relationships : e.relationships = e'.relationships
  fallback : e.fallback = e'.fallback

theorem verdict_alike (hfallback : e.fallback = e'.fallback) (mode : Mode) {a a' r r' : Side}
    (ha : SameResult Decision.Alike a a') (hr : SameResult Decision.Alike r r') :
    SameResult Resolved.Alike (e.verdict mode a r) (e'.verdict mode a' r') := by
  unfold verdict
  rcases mode.authoritative with _ | _
  · exact ha.map fun _ _ h => ⟨h, rfl⟩
  · cases hr with
    | ok h => exact .ok ⟨h, rfl⟩
    | error houtage =>
      rw [hfallback]
      cases e'.fallback with
      | false => exact .error houtage
      | true =>
        cases ha with
        | ok h => exact .ok ⟨h, rfl⟩
        | error _ => exact .error houtage

section Calls

variable (h : e.Alike e') (permissions : Reply (Except DirectoryFault (List Permission)))
  (workspace : WorkspaceAnswer) (check : CheckQuery → Reply (Except CheckFault Bool))
  (request : Request)

include h

theorem attributeResult_alike (world : World) :
    SameEnding Decision.Alike (e.attributeResult world request)
      (e'.attributeResult world request) := by
  unfold attributeResult
  cases world.permissions.ending with
  | none => exact .none
  | some x =>
    obtain ⟨t, answer⟩ := x
    refine .some ⟨rfl, ?_⟩
    cases answer with
    | ok permissions => exact .ok (AttributeResolution.resolve_alike h.catalog _ _)
    | error fault => exact .error (.refl _)

theorem relationshipResult_alike :
    SameResult Decision.Alike
      (e.relationshipResult ⟨permissions, .ofQueries workspace check⟩ request)
      (e'.relationshipResult ⟨permissions, .ofQueries workspace check⟩ request) := by
  unfold relationshipResult
  rw [h.relationships]
  exact (e'.relationships.conclusion_alike workspace check request.principal h.catalog
    request.tenant).map fun _ _ hd => hd

theorem relationshipInstant_alike :
    e.relationshipInstant ⟨permissions, .ofQueries workspace check⟩ request =
      e'.relationshipInstant ⟨permissions, .ofQueries workspace check⟩ request := by
  unfold relationshipInstant
  rw [h.relationships]
  exact e'.relationships.resolveInstant_alike workspace check request.principal h.catalog

theorem waitsForAttribute_alike (mode : Mode) :
    e.waitsForAttribute ⟨permissions, .ofQueries workspace check⟩ request mode =
      e'.waitsForAttribute ⟨permissions, .ofQueries workspace check⟩ request mode := by
  cases mode with
  | attributeOnly => rfl
  | dualValidate => rfl
  | dualEnforceNew => rfl
  | relationshipOnly =>
    have hsides := relationshipResult_alike h permissions workspace check request
    unfold waitsForAttribute
    cases hr : e.relationshipResult ⟨permissions, .ofQueries workspace check⟩ request with
    | ok d =>
      rw [hr] at hsides
      cases hr' : e'.relationshipResult ⟨permissions, .ofQueries workspace check⟩ request with
      | ok d' => rfl
      | error error' =>
        rw [hr'] at hsides
        cases hsides
    | error error =>
      rw [hr] at hsides
      cases hr' : e'.relationshipResult ⟨permissions, .ofQueries workspace check⟩ request with
      | ok d' =>
        rw [hr'] at hsides
        cases hsides
      | error error' => exact h.fallback

theorem ending_resolve_alike (mode : Mode) :
    SameEnding Resolved.Alike
      (e.resolve ⟨permissions, .ofQueries workspace check⟩ none request mode).ending
      (e'.resolve ⟨permissions, .ofQueries workspace check⟩ none request mode).ending := by
  have hr := relationshipResult_alike h permissions workspace check request
  rw [ending_resolve, ending_resolve,
    waitsForAttribute_alike h permissions workspace check request mode,
    relationshipInstant_alike h permissions workspace check request]
  split
  · exact (attributeResult_alike h request _).map fun t a a' ha =>
      ⟨rfl, verdict_alike h.fallback mode ha hr⟩
  · exact .some ⟨rfl, hr.map fun _ _ hd => ⟨hd, rfl⟩⟩

/-- A call ends at the same instant with the same outcome, up to the spelling of services and the
wording of an error. -/
theorem ending_authorize_alike (policy : PolicySnapshot) (context : CallContext)
    (operation : Operation) :
    SameEnding Outcome.Alike
      (e.authorize ⟨permissions, .ofQueries workspace check⟩ policy context request
        operation).ending
      (e'.authorize ⟨permissions, .ofQueries workspace check⟩ policy context request
        operation).ending := by
  rw [ending_authorize, ending_authorize]
  have hresolve := ending_resolve_alike h permissions workspace check request
    (policy.policy.select request.tenant)
  exact (SameEnding.guarded hresolve context.interruption?).map fun t r r' hr =>
    ⟨rfl, hr.map fun _ _ hd => ⟨hd.decision, rfl, hd.fallbackApplied, rfl⟩⟩

theorem ending_hasServiceAccess_alike (policy : PolicySnapshot) (context : CallContext)
    (service : String) :
    SameEnding Eq
      (e.hasServiceAccess ⟨permissions, .ofQueries workspace check⟩ policy context request
        service).ending
      (e'.hasServiceAccess ⟨permissions, .ofQueries workspace check⟩ policy context request
        service).ending := by
  rw [hasServiceAccess, hasServiceAccess, Run.ending_map, Run.ending_map]
  refine (ending_authorize_alike h permissions workspace check request policy context
    .hasServiceAccess).map fun t r r' hr => ⟨rfl, ?_⟩
  cases hr with
  | ok ho => exact .ok (ho.decision.admits_eq h.catalog service)
  | error herror => exact .error herror

end Calls

end Engine

/-! ## The whole -/

namespace Catalog

/-- Order and spelling of a catalog do not matter. Under two catalogs that list the same services
the attribute decisions agree, with the same reason; the relationship resolutions agree, or fail
with errors of one kind that count equally many failed checks; and in every mode, under every
interruption, calls end at the same instant alike and admit the same names. The spelling of granted
values does not matter either. -/
theorem spelling_irrelevant {c c' : Catalog} (h : c.Alike c') :
    (∀ permissions required,
      (AttributeResolution.resolve permissions required c).decision.Alike
        (AttributeResolution.resolve permissions required c').decision) ∧
    (∀ (s : RelationshipSide) workspace check principal tenant,
      ∃ r r', (s.resolve (.ofQueries workspace check) principal tenant c).value? = some r ∧
        (s.resolve (.ofQueries workspace check) principal tenant c').value? = some r' ∧
        SameResult (fun a a' => a.decision.Alike a'.decision) r r') ∧
    (∀ s fallback permissions workspace check policy context request operation,
      let e : Engine := ⟨c, s, fallback⟩
      let e' : Engine := ⟨c', s, fallback⟩
      let world : World := ⟨permissions, .ofQueries workspace check⟩
      SameEnding (fun o o' => o.Alike o' ∧
          ∀ service, o.decision.admits service c = o'.decision.admits service c')
        (e.authorize world policy context request operation).ending
        (e'.authorize world policy context request operation).ending ∧
      ∀ service, SameEnding Eq (e.hasServiceAccess world policy context request service).ending
        (e'.hasServiceAccess world policy context request service).ending) ∧
    ∀ ps qs required, List.Forall₂ Permission.Respelled ps qs →
      (AttributeResolution.resolve ps required c).decision =
        (AttributeResolution.resolve qs required c).decision := by
  refine ⟨AttributeResolution.resolve_alike h, ?_, ?_, fun ps qs required hps =>
    AttributeResolution.resolve_respelled hps required c⟩
  · intro s workspace check principal tenant
    exact ⟨_, _, s.value?_resolve _ principal tenant c, s.value?_resolve _ principal tenant c',
      s.conclusion_alike workspace check principal h tenant⟩
  · intro s fallback permissions workspace check policy context request operation e e' world
    have he : e.Alike e' := ⟨h, rfl, rfl⟩
    refine ⟨?_, fun service => Engine.ending_hasServiceAccess_alike he permissions workspace check
      request policy context service⟩
    exact (Engine.ending_authorize_alike he permissions workspace check request policy context
      operation).imp fun o o' ho => ⟨ho, ho.decision.admits_eq h⟩

/-- One catalog lists two services in the order and spelling that the other does not. The check of
the one is granted and that of the other is never answered. -/
theorem spelling_irrelevant_of_reordered :
    let c := Catalog.ofIds ["remediations", "config-manager"]
    let c' := Catalog.ofIds [" Config_Manager", "REMEDIATIONS"]
    let s : RelationshipSide := ⟨.standard, .ofMillis 500, .ofMillis 200⟩
    let permissions : List Permission := [⟨"run:read", [.equal "service" "config-manager"]⟩]
    let respelled : List Permission := [⟨"run:read", [.equal "service" "Config_Manager "]⟩]
    let check (query : CheckQuery) : Reply (Except CheckFault Bool) :=
      if query.relation = "playbook_dispatcher_config_manager_run_view" then .after 10 (.ok true)
      else .silent
    let world : World :=
      ⟨.after 5 (.ok permissions), .ofQueries (.asked (.after 40 (.ok ⟨"ws-1"⟩))) check⟩
    let request : Request := ⟨"alice", .user, "1000", "run:read"⟩
    let call (catalog : Catalog) := (Engine.mk catalog s true).authorize world
      ⟨.fixed .dualEnforceNew, 3⟩ .background request .authorize
    let outcome (id : String) : Outcome :=
      ⟨.restricted .relationship (.ofList [id]) .noRelationshipGrant, .dualEnforceNew, false, 3⟩
    c.Alike c' ∧ List.Forall₂ Permission.Respelled permissions respelled ∧
      (call c).ending = some (240, .ok (outcome "config-manager")) ∧
      (call c').ending = some (240, .ok (outcome "Config_Manager")) ∧
      (outcome "config-manager").Alike (outcome "Config_Manager") ∧
      (AttributeResolution.resolve permissions "run:read" c).decision =
        (AttributeResolution.resolve respelled "run:read" c).decision := by
  intro c c' s permissions respelled check world request call outcome
  have halike : c.Alike c' := .of_listed (by decide +kernel) (by decide +kernel)
  have hrespelled : List.Forall₂ Permission.Respelled permissions respelled :=
    .cons ⟨rfl, .cons (.equal _ (by decide +kernel)) .nil⟩ .nil
  have hsame := spelling_irrelevant halike
  have hend : (call c).ending = some (240, .ok (outcome "config-manager")) :=
    Run.ending_of_toOption (by decide +kernel)
  have hend' : (call c').ending = some (240, .ok (outcome "Config_Manager")) :=
    Run.ending_of_toOption (by decide +kernel)
  have hcalls := (hsame.2.2.1 s true (.after 5 (.ok permissions)) (.asked (.after 40 (.ok ⟨"ws-1"⟩)))
    check ⟨.fixed .dualEnforceNew, 3⟩ .background request .authorize).1
  refine ⟨halike, hrespelled, hend, hend', ?_, hsame.2.2.2 _ _ "run:read" hrespelled⟩
  change SameEnding _ (call c).ending (call c').ending at hcalls
  rw [hend, hend'] at hcalls
  cases hcalls with
  | some hcalls =>
    cases hcalls.2 with
    | ok houtcomes => exact houtcomes.1

end Catalog

end ScopedAccess
