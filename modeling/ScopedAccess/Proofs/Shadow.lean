import ScopedAccess.Proofs.Interruption

/-!
# ScopedAccess.Proofs.Shadow

Calls that run both permission models, and what the side that is only compared costs them.

* `ending_resolve_dual`: a decision of the authoritative side is returned once the other side is
  over too, whatever that came to.
* `relationshipInstant_le`: the relationship side is over once both its patiences are.
* `shadow_costs_decision`: a call is canceled although its decision has been there for long.
* `shadow_costs_only_time`: as long as the other side is over in time, it costs time and no more.
-/

namespace ScopedAccess

namespace Source

def other : Source → Source
  | .attribute => .relationship
  | .relationship => .attribute

/-- The mode that asks one model only. -/
def only : Source → Mode
  | .attribute => .attributeOnly
  | .relationship => .relationshipOnly

end Source

theorem Reply.waited_le {α : Type} (limit : Nat) (reply : Reply α) :
    reply.waited limit ≤ limit := by
  unfold waited
  split
  · exact Nat.min_le_right _ _
  · exact Nat.le_refl _

namespace RelationshipSide

theorem foldr_max_le {xs : List Nat} {bound : Nat} (h : ∀ x ∈ xs, x ≤ bound) :
    xs.foldr max 0 ≤ bound := by
  induction xs with
  | nil => exact Nat.zero_le _
  | cons x xs ih =>
    exact Nat.max_le.2 ⟨h x List.mem_cons_self, ih fun y hy => h y (List.mem_cons_of_mem _ hy)⟩

theorem resolveInstant_le (s : RelationshipSide) (world : RelationshipWorld)
    (principal : Principal) (catalog : Catalog) :
    s.resolveInstant world principal catalog ≤
      s.lookupPatience.ticks + s.checkPatience.ticks := by
  refine Nat.add_le_add ?_ ?_
  · unfold lookupInstant
    split
    · exact Nat.zero_le _
    · exact Reply.waited_le _ _
  · split
    · exact Nat.zero_le _
    · refine foldr_max_le fun x hx => ?_
      obtain ⟨target, _, rfl⟩ := List.mem_map.1 hx
      exact Reply.waited_le _ _

end RelationshipSide

namespace Engine

/-- One side of a call on its own. -/
def side (e : Engine) (world : World) (request : Request) : Source → Run Effect Side
  | .attribute => e.attributeSide world none request
  | .relationship => e.relationshipSide world none request

section Endings

variable {e : Engine} {world : World} {request : Request} {mode : Mode} {t : Nat}
  {decision : Decision}

/-- A call that runs both sides returns the decision of the authoritative one once the other is over
too, whatever that came to. -/
theorem ending_resolve_dual (hdual : mode.isDual = true)
    (h : (e.side world request mode.authoritative).ending = some (t, .ok decision)) :
    (e.resolve world none request mode).ending =
      (e.side world request mode.authoritative.other).ending.map fun x =>
        (max t x.1, .ok ⟨decision, false⟩) := by
  rw [ending_resolve]
  cases mode with
  | attributeOnly => cases hdual
  | relationshipOnly => cases hdual
  | dualValidate =>
    have ha : e.attributeResult world request = some (t, .ok decision) := by
      rw [← ending_attributeSide]
      exact h
    have hr : (e.side world request Mode.dualValidate.authoritative.other).ending =
        some (e.relationshipInstant world request, e.relationshipResult world request) :=
      e.ending_relationshipSide world request
    rw [ha, hr]
    rfl
  | dualEnforceNew =>
    have hr : some (e.relationshipInstant world request, e.relationshipResult world request) =
        some (t, .ok decision) := by
      rw [← ending_relationshipSide]
      exact h
    obtain ⟨rfl, hdecision⟩ := Prod.mk.inj (Option.some.inj hr)
    have ha : (e.side world request Mode.dualEnforceNew.authoritative.other).ending =
        e.attributeResult world request := e.ending_attributeSide world request
    rw [ha, hdecision]
    cases e.attributeResult world request with
    | none => rfl
    | some x =>
      simp only [waitsForAttribute, if_true, Option.map_some, lastInstant, Nat.max_comm x.1]
      rfl

theorem ending_resolve_only {source : Source}
    (h : (e.side world request source).ending = some (t, .ok decision)) :
    (e.resolve world none request source.only).ending = some (t, .ok ⟨decision, false⟩) := by
  rw [ending_resolve]
  rcases source with _ | _
  · have ha : e.attributeResult world request = some (t, .ok decision) := by
      rw [← ending_attributeSide]
      exact h
    rw [Source.only, ha]
    rfl
  · have hr : some (e.relationshipInstant world request, e.relationshipResult world request) =
        some (t, .ok decision) := by
      rw [← ending_relationshipSide]
      exact h
    obtain ⟨rfl, hdecision⟩ := Prod.mk.inj (Option.some.inj hr)
    simp only [Source.only, waitsForAttribute, hdecision]
    rfl

end Endings

/-- The relationship side decides at 20 ms, but the permissions never come. The call waits for them
until its deadline at 100 ms, where the single mode has long returned. -/
theorem shadow_costs_decision :
    let e : Engine :=
      ⟨.ofIds ["tasks", "remediations"], ⟨⟨"\x7bservice\x7d_reader", .empty, none⟩,
        .ofMillis 2000, .ofMillis 1000⟩, false⟩
    let world : World :=
      ⟨.silent,
        ⟨.asked (.after 10 (.ok ⟨"ws-1000"⟩)), fun t _ =>
          if t.relation = "tasks_reader" then .after 10 (.ok true) else .after 0 (.ok false)⟩⟩
    let context : CallContext := { CallContext.background with deadline := some 100 }
    let request : Request := ⟨"alice", .user, "1000", "run:read"⟩
    let decision : Decision := ⟨.relationship, .restricted (.ofList ["tasks"]), none⟩
    (∀ n, context.InterruptedAt n → 20 < n) ∧
      (e.side world request Mode.dualEnforceNew.authoritative).ending = some (20, .ok decision) ∧
      (e.authorize world ⟨.fixed .relationshipOnly, 1⟩ context request .authorize).ending =
        some (20, .ok ⟨decision, .relationshipOnly, false, 1⟩) ∧
      (e.authorize world ⟨.fixed .dualEnforceNew, 1⟩ context request .authorize).ending =
        some (100, .error .canceled) := by
  intro e world context request decision
  have htime : ∀ n, context.InterruptedAt n → 20 < n := by
    rintro n (hn | hn) <;> cases hn
    decide
  have hside : (e.side world request .relationship).ending = some (20, .ok decision) := by
    have hinstant : e.relationshipInstant world request = 20 := by decide +kernel
    have hresult : (e.relationshipResult world request).toOption = some decision := by
      decide +kernel
    have hend : (e.side world request .relationship).ending =
        some (e.relationshipInstant world request, e.relationshipResult world request) :=
      e.ending_relationshipSide world request
    rw [hend, hinstant]
    cases hr : e.relationshipResult world request with
    | error error =>
      rw [hr] at hresult
      cases hresult
    | ok own =>
      rw [hr] at hresult
      cases hresult
      rfl
  have hsingle : (e.resolve world none request .relationshipOnly).ending =
      some (20, .ok ⟨decision, false⟩) := ending_resolve_only hside
  have hdual : (e.resolve world none request .dualEnforceNew).ending =
      (e.side world request .attribute).ending.map fun x => (max 20 x.1, .ok ⟨decision, false⟩) :=
    ending_resolve_dual rfl hside
  have hsilent : (e.side world request .attribute).ending = none :=
    e.ending_attributeSide world request
  have hlate : ¬ (e.undisturbed world ⟨.fixed .dualEnforceNew, 1⟩ request).endsBefore 100 = true := by
    intro hends
    obtain ⟨u, result, hu, _⟩ := Run.endsBefore_iff.1 hends
    rw [hsilent] at hdual
    cases hdual.symm.trans hu
  have hreturned : (e.authorize world ⟨.fixed .relationshipOnly, 1⟩ context request
      .authorize).ending = some (20, returned .relationshipOnly 1 (.ok ⟨decision, false⟩)) :=
    ending_authorize_of_over hsingle htime
  exact ⟨htime, hside, hreturned,
    ending_authorize_of_interrupted (i := ⟨100, 100⟩) rfl hlate⟩

/-- A decision of the authoritative side is what the mode that asks this side alone returns. With
both sides running it is returned as soon as the other side is over too, whatever that came to. The
call is canceled if the other side is not over by the interruption, and without one it waits for
good. The relationship side is over once both its patiences are. -/
theorem shadow_costs_only_time (e : Engine) (world : World) (policy : PolicySnapshot)
    (context : CallContext) (request : Request) (operation : Operation) :
    let mode := policy.policy.select request.tenant
    let call := e.authorize world policy context request operation
    let shadow := e.side world request mode.authoritative.other
    (mode.isDual = true → ∀ t decision,
      (e.side world request mode.authoritative).ending = some (t, .ok decision) →
      (∀ n, context.InterruptedAt n → t < n) →
        (∀ policy', policy'.policy.select request.tenant = mode.authoritative.only →
          (e.authorize world policy' context request operation).ending =
            some (t, .ok ⟨decision, mode.authoritative.only, false, policy'.version⟩)) ∧
        (∀ u result, shadow.ending = some (u, result) → (∀ n, context.InterruptedAt n → u < n) →
          call.ending = some (max t u, .ok ⟨decision, mode, false, policy.version⟩)) ∧
        (∀ n, context.InterruptedAt n →
          (∀ u result, shadow.ending = some (u, result) → n < u) → CanceledBy n call) ∧
        (context.interruption? = none → shadow.ending = none → call.ending = none)) ∧
    ∃ u result, (e.side world request .relationship).ending = some (u, result) ∧
      u ≤ e.relationships.lookupPatience.ticks + e.relationships.checkPatience.ticks := by
  intro mode call shadow
  refine ⟨fun hdual t decision h htime => ?_, ?_⟩
  · have hresolve : (e.resolve world none request mode).ending =
        shadow.ending.map fun x => (max t x.1, .ok ⟨decision, false⟩) :=
      ending_resolve_dual hdual h
    refine ⟨?_, ?_, ?_, ?_⟩
    · intro policy' hpolicy
      have hsingle := ending_resolve_only h
      rw [← hpolicy] at hsingle ⊢
      exact ending_authorize_of_over hsingle htime
    · intro u result hshadow hu
      rw [hshadow] at hresolve
      exact ending_authorize_of_over hresolve fun n hn => Nat.max_lt.2 ⟨htime n hn, hu n hn⟩
    · intro n hn hlate
      refine canceledBy_of_not_over hn fun v result hv => ?_
      obtain ⟨⟨u, side⟩, hside, hx⟩ := Option.map_eq_some_iff.1 (hresolve.symm.trans hv)
      obtain rfl : max t u = v := congrArg Prod.fst hx
      exact Nat.lt_of_lt_of_le (hlate u side hside) (Nat.le_max_right t u)
    · intro hnone hshadow
      rw [hshadow] at hresolve
      rw [ending_authorize, hnone, Run.guarded, undisturbed, hresolve]
      rfl
  · exact ⟨_, _, e.ending_relationshipSide world request,
      e.relationships.resolveInstant_le world.relationships request.principal e.catalog⟩

/-- A check without answer puts the attribute decision off, but does not change it. -/
theorem shadow_costs_only_time_of_silent_check :
    let e : Engine := ⟨.ofIds ["tasks"], ⟨.standard, .ofMillis 500, .ofMillis 200⟩, false⟩
    let world : World :=
      ⟨.after 5 (.ok [⟨"run:read", []⟩]),
        ⟨.asked (.after 40 (.ok ⟨"ws-1"⟩)), fun _ _ => .silent⟩⟩
    let policy : PolicySnapshot := ⟨.fixed .dualValidate, 1⟩
    let context : CallContext := { CallContext.background with deadline := some 1000 }
    let request : Request := ⟨"alice", .user, "1000", "run:read"⟩
    (e.side world request .attribute).ending = some (5, .ok (.unrestricted .attribute)) ∧
      (∀ n, context.InterruptedAt n → 240 < n) ∧
      (e.authorize world policy context request .authorize).ending =
        some (240, .ok ⟨.unrestricted .attribute, .dualValidate, false, 1⟩) := by
  intro e world policy context request
  have htime : ∀ n, context.InterruptedAt n → 240 < n := by
    rintro n (hn | hn) <;> cases hn
    decide
  have hattribute : (e.side world request .attribute).ending =
      some (5, .ok (.unrestricted .attribute)) := by
    have hdecision : (AttributeResolution.resolve [⟨"run:read", []⟩] "run:read"
        e.catalog).decision = .unrestricted .attribute := by decide +kernel
    rw [← hdecision]
    exact e.ending_attributeSide world request
  have hrelationship : (e.side world request .relationship).ending =
      some (240, e.relationshipResult world request) := by
    have hinstant : e.relationshipInstant world request = 240 := by decide +kernel
    rw [← hinstant]
    exact e.ending_relationshipSide world request
  have hcosts := (e.shadow_costs_only_time world policy context request .authorize).1 rfl 5
    (.unrestricted .attribute) hattribute fun n hn => Nat.lt_trans (by decide) (htime n hn)
  exact ⟨hattribute, htime, hcosts.2.1 240 _ hrelationship htime⟩

end Engine

end ScopedAccess
