import ScopedAccess.Proofs.Verdict

/-!
# ScopedAccess.Proofs.Interruption

What becomes of a call whose caller cancels it or whose deadline passes.

* `lastAnswer` is the last instant a call waits for; an interruption before it cancels the call.
* `before_resolve_only`: until then the call has done nothing but what one of its sides does.
* `interrupted_call_canceled`: the canceled call, and that no other call is canceled.
-/

namespace ScopedAccess

namespace Effect

def asksService : Effect → Bool
  | fetch _ _ => true
  | lookup _ => true
  | check _ => true
  | fetchPolicy => true
  | _ => false

def isCanceledReport : Effect → Bool
  | offer (.error .canceled _) => true
  | _ => false

def isComparison : Effect → Bool
  | offer (.comparison _) => true
  | _ => false

/-- Whether a side of a call may do this on its own. -/
def isOneSided (effect : Effect) : Bool := !effect.isComparison && !effect.isCanceledReport

theorem isOneSided_iff {effect : Effect} :
    effect.isOneSided = true ↔ effect.isComparison = false ∧ effect.isCanceledReport = false := by
  rw [isOneSided, Bool.and_eq_true, Bool.not_eq_true', Bool.not_eq_true']

end Effect

namespace Engine

/-- The last instant a call waits for an answer, if that does not stay away for good. An answer that
is given up counts from then on. -/
def lastAnswer (e : Engine) (world : World) (request : Request) (mode : Mode) : Option Nat :=
  if e.waitsForAttribute world request mode then
    world.permissions.ending.map fun x =>
      lastInstant x.1 (e.relationshipInstant world request) mode
  else some (e.relationshipInstant world request)

/-- A call is canceled at an instant or earlier. It reports that once and compares nothing. -/
structure CanceledBy (n : Nat) (call : Run Effect (Except AuthzError Outcome)) : Prop where
  ending : ∃ t ≤ n, call.ending = some (t, .error .canceled)
  report : call.effects.filter Effect.isCanceledReport =
    [.offer (.error .canceled AuthzError.canceled.message)]
  uncompared : ∀ effect ∈ call.effects, effect.isComparison = false

/-! ## What sides do -/

section Sides

variable (e : Engine) (world : World) (request : Request)

theorem attributeSide_only :
    (e.attributeSide world none request).Only fun x => x.isOneSided = true :=
  only_attributeSide _ e world request rfl (fun _ => rfl) fun _ => rfl

theorem relationshipSide_only :
    (e.relationshipSide world none request).Only fun x => x.isOneSided = true :=
  only_relationshipSide _ e world request rfl (fun _ => rfl) (fun _ => rfl) (fun _ => rfl)
    fun _ => rfl

theorem resolveRelationship_only :
    (e.resolveRelationship world none request).Only fun x => x.isOneSided = true :=
  only_resolveRelationship (e.attributeSide_only world request)
    (e.relationshipSide_only world request) fun _ => rfl

/-- Until a call is over, it has only done what one of its sides does. -/
theorem before_resolve_only {mode : Mode} {limit : Nat}
    (h : ¬ (e.resolve world none request mode).endsBefore limit = true) :
    ∀ x ∈ Run.before limit (e.resolve world none request mode).trace,
      x.2.isOneSided = true := by
  have hboth (authoritative : Source)
      (h : ¬ (e.resolveBoth world none request authoritative).endsBefore limit = true) :
      ∀ x ∈ Run.before limit (e.resolveBoth world none request authoritative).trace,
        x.2.isOneSided = true := by
    -- the sides are compared only when the call is over
    have hsides : ¬ ((e.attributeSide world none request).beside
        (e.relationshipSide world none request)).endsBefore limit = true := by
      rw [resolveBoth, Run.endsBefore_andThen (e.ending_concludeBoth_zero request _)] at h
      exact h
    rw [resolveBoth, Run.andThen, Run.before_andThenAt_of_not hsides]
    intro x hx
    exact ((e.attributeSide_only world request).beside (e.relationshipSide_only world request)) x
      (List.mem_filter.1 hx).1
  cases mode with
  | attributeOnly =>
    intro x hx
    exact (e.attributeSide_only world request) x (List.mem_filter.1 hx).1
  | relationshipOnly =>
    intro x hx
    exact (e.resolveRelationship_only world request) x (List.mem_filter.1 hx).1
  | dualValidate => exact hboth _ h
  | dualEnforceNew => exact hboth _ h

end Sides

/-! ## When a call is over -/

theorem lastAnswer_eq (e : Engine) (world : World) (request : Request) (mode : Mode) :
    e.lastAnswer world request mode =
      (e.resolve world none request mode).ending.map Prod.fst := by
  rw [lastAnswer, ending_resolve, attributeResult]
  cases e.waitsForAttribute world request mode with
  | true => cases world.permissions.ending <;> rfl
  | false => rfl

theorem not_endsBefore_of_lastAnswer {e : Engine} {world : World} {request : Request}
    {mode : Mode} {n limit : Nat} (hl : limit ≤ n + 1)
    (h : ∀ t, e.lastAnswer world request mode = some t → n < t) :
    ¬ (e.resolve world none request mode).endsBefore limit = true := by
  intro hb
  obtain ⟨t, a, ht, hlt⟩ := Run.endsBefore_iff.1 hb
  have hn := h t (by rw [lastAnswer_eq, ht]; rfl)
  omega

theorem resolve_ne_canceled (e : Engine) (world : World) (request : Request) (mode : Mode)
    (t : Nat) : (e.resolve world none request mode).ending ≠ some (t, .error .canceled) := by
  intro h
  rw [ending_resolve] at h
  cases hw : e.waitsForAttribute world request mode with
  | true =>
    rw [hw, if_pos rfl] at h
    obtain ⟨⟨u, side⟩, hside, hv⟩ := Option.map_eq_some_iff.1 h
    rcases verdict_error (congrArg Prod.snd hv) with ⟨_, ha⟩ | ⟨_, hr⟩
    · obtain rfl : side = .error .canceled := ha
      obtain ⟨reason, hreason⟩ := fetchFailed_of_attributeResult hside
      cases hreason
    · cases isOutage_of_relationshipResult hr
  | false =>
    rw [hw] at h
    cases hr : e.relationshipResult world request with
    | ok decision =>
      rw [hr] at h
      cases h
    | error error =>
      rw [hr] at h
      cases h
      cases isOutage_of_relationshipResult hr

/-! ## Canceled calls -/

section Calls

variable {e : Engine} {world : World} {policy : PolicySnapshot} {context : CallContext}
  {request : Request} {operation : Operation} {i : Interruption}

theorem ending_authorize_of_interrupted (hi : context.interruption? = some i)
    (h : ¬ (e.undisturbed world policy request).endsBefore i.limit = true) :
    (e.authorize world policy context request operation).ending =
      some (i.instant, .error .canceled) := by
  rw [ending_authorize, hi, Run.guarded, Run.stoppedBefore_of_not h]
  rfl

theorem ending_authorize_of_over {t : Nat} {result : Except AuthzError Resolved}
    (h : (e.resolve world none request (policy.policy.select request.tenant)).ending =
      some (t, result)) (htime : ∀ n, context.InterruptedAt n → t < n) :
    (e.authorize world policy context request operation).ending =
      some (t, returned (policy.policy.select request.tenant) policy.version result) := by
  rw [ending_authorize, undisturbed]
  cases hi : context.interruption? with
  | none =>
    rw [Run.guarded, h]
    rfl
  | some i =>
    have hlt : t < i.instant := htime _ (CallContext.interruptedAt_of_interruption? hi)
    have hends : (e.resolve world none request
        (policy.policy.select request.tenant)).endsBefore i.limit = true := by
      rw [Run.endsBefore_of_ending h, decide_eq_true_eq]
      exact Nat.lt_of_lt_of_le hlt (CallContext.proper_of_interruption? hi).lower
    rw [Run.guarded, Run.stoppedBefore_of_endsBefore hends, h]
    rfl

theorem effects_authorize_of_interrupted (hi : context.interruption? = some i)
    (h : ¬ (e.undisturbed world policy request).endsBefore i.limit = true) :
    (e.authorize world policy context request operation).effects =
      .log (modeLog request (policy.policy.select request.tenant)) ::
        ((Run.before i.limit (e.undisturbed world policy request).trace).map Prod.snd ++
          [.offer (.error .canceled AuthzError.canceled.message),
            .log (errorLog operation .canceled)]) := by
  rw [authorize_eq, hi, Run.guarded, Run.stoppedBefore_of_not h, Run.effects_andThen rfl,
    Run.effects_andThen rfl]
  rfl

theorem canceledBy_of_interrupted (hi : context.interruption? = some i)
    (h : ¬ (e.undisturbed world policy request).endsBefore i.limit = true) :
    CanceledBy i.instant (e.authorize world policy context request operation) := by
  have hsides : ∀ x ∈ (Run.before i.limit (e.undisturbed world policy request).trace).map
      Prod.snd, x.isOneSided = true := by
    intro x hx
    obtain ⟨y, hy, rfl⟩ := List.mem_map.1 hx
    exact e.before_resolve_only world request h y hy
  refine ⟨⟨i.instant, Nat.le_refl _, ending_authorize_of_interrupted hi h⟩, ?_, ?_⟩
  · have hnone : ((Run.before i.limit (e.undisturbed world policy request).trace).map
        Prod.snd).filter Effect.isCanceledReport = [] := by
      refine List.filter_eq_nil_iff.2 fun x hx => ?_
      rw [(Effect.isOneSided_iff.1 (hsides x hx)).2]
      exact Bool.false_ne_true
    rw [effects_authorize_of_interrupted hi h, List.filter_cons_of_neg Bool.false_ne_true,
      List.filter_append, hnone]
    rfl
  · intro effect hmem
    rw [effects_authorize_of_interrupted hi h] at hmem
    rcases List.mem_cons.1 hmem with rfl | hmem
    · rfl
    · rcases List.mem_append.1 hmem with hmem | hmem
      · exact (Effect.isOneSided_iff.1 (hsides effect hmem)).1
      · simp only [List.mem_cons, List.not_mem_nil, or_false] at hmem
        rcases hmem with rfl | rfl <;> rfl

theorem canceledBy_of_not_over {n : Nat} (hn : context.InterruptedAt n)
    (h : ∀ u result, (e.resolve world none request
      (policy.policy.select request.tenant)).ending = some (u, result) → n < u) :
    CanceledBy n (e.authorize world policy context request operation) := by
  obtain ⟨i, hi, hlimit, hinstant⟩ := CallContext.interruption?_of_interruptedAt hn
  have hlate : ¬ (e.undisturbed world policy request).endsBefore i.limit = true := by
    intro hends
    obtain ⟨u, result, hu, hlt⟩ := Run.endsBefore_iff.1 hends
    have := h u result hu
    omega
  have hcanceled : CanceledBy i.instant (e.authorize world policy context request operation) :=
    canceledBy_of_interrupted hi hlate
  obtain ⟨u, hu, hend⟩ := hcanceled.ending
  exact ⟨⟨u, Nat.le_trans hu hinstant, hend⟩, hcanceled.report, hcanceled.uncompared⟩

theorem asks_nobody (hi : context.interruption? = some i) (hl : i.limit = 0) :
    ∀ effect ∈ (e.authorize world policy context request operation).effects,
      effect.asksService = false := by
  have h : ¬ (e.undisturbed world policy request).endsBefore i.limit = true := by
    rw [hl]
    exact Run.not_endsBefore_zero _
  have hnone : Run.before i.limit (e.undisturbed world policy request).trace = [] := by
    rw [hl]
    exact Run.before_eq_nil fun x _ => Nat.zero_le x.1
  rw [effects_authorize_of_interrupted hi h, hnone]
  intro effect hmem
  simp only [List.map_nil, List.nil_append, List.mem_cons, List.not_mem_nil, or_false] at hmem
  rcases hmem with rfl | rfl | rfl <;> rfl

/-- A call is canceled by an interruption that comes before its end. -/
theorem stopped_of_canceled {t : Nat}
    (h : (e.authorize world policy context request operation).ending =
      some (t, .error .canceled)) :
    ∃ i, context.interruption? = some i ∧ i.instant = t ∧
      ¬ (e.undisturbed world policy request).endsBefore i.limit = true := by
  rw [ending_authorize, Option.map_eq_some_iff] at h
  obtain ⟨⟨u, result⟩, hend, hx⟩ := h
  obtain rfl : result = .error .canceled :=
    error_of_returned (congrArg Prod.snd hx).symm
  obtain rfl : u = t := congrArg Prod.fst hx
  have hwork := e.resolve_ne_canceled world request (policy.policy.select request.tenant) u
  cases hi : context.interruption? with
  | none =>
    rw [hi] at hend
    exact absurd hend hwork
  | some i =>
    rw [hi, Run.guarded] at hend
    by_cases hb : (e.undisturbed world policy request).endsBefore i.limit = true
    · rw [Run.stoppedBefore_of_endsBefore hb] at hend
      exact absurd hend hwork
    · rw [Run.stoppedBefore_of_not hb] at hend
      exact ⟨i, rfl, congrArg Prod.fst (Option.some.inj hend), hb⟩

/-- A call is canceled at its interruption and at no other instant. -/
theorem interruption?_of_canceled {t : Nat}
    (h : (e.authorize world policy context request operation).ending =
      some (t, .error .canceled)) : ∃ i, context.interruption? = some i ∧ i.instant = t := by
  obtain ⟨i, hi, hinstant, _⟩ := stopped_of_canceled h
  exact ⟨i, hi, hinstant⟩

/-- A canceled call compares nothing. -/
theorem uncompared_of_canceled {effect : Effect}
    (h : (e.authorize world policy context request operation).value? = some (.error .canceled))
    (hmem : effect ∈ (e.authorize world policy context request operation).effects) :
    effect.isComparison = false := by
  obtain ⟨⟨t, result⟩, hend, hresult⟩ := Option.map_eq_some_iff.1 h
  obtain rfl : result = .error .canceled := hresult
  obtain ⟨i, hi, _, hlate⟩ := stopped_of_canceled hend
  exact (canceledBy_of_interrupted hi hlate).uncompared effect hmem

end Calls

/-- A call that is interrupted before the last answer it waits for is canceled: neither a decision
nor another error is returned, the canceled call is reported once, and nothing is compared. A call
that is canceled on entry asks nobody. Calls are canceled by interruptions only. -/
theorem interrupted_call_canceled (e : Engine) (world : World) (policy : PolicySnapshot)
    (context : CallContext) (request : Request) (operation : Operation) :
    let mode := policy.policy.select request.tenant
    let call := e.authorize world policy context request operation
    (∀ n, context.InterruptedAt n → (∀ t, e.lastAnswer world request mode = some t → n < t) →
      CanceledBy n call) ∧
    (context.isCanceled = true →
      CanceledBy 0 call ∧ ∀ effect ∈ call.effects, effect.asksService = false) ∧
    ∀ t, call.ending = some (t, .error .canceled) → ∃ n ≤ t, context.InterruptedAt n := by
  intro mode call
  refine ⟨?_, ?_, ?_⟩
  · intro n hn hlast
    obtain ⟨i, hi, hlimit, hinstant⟩ := CallContext.interruption?_of_interruptedAt hn
    have hcanceled : CanceledBy i.instant call :=
      canceledBy_of_interrupted hi (not_endsBefore_of_lastAnswer hlimit hlast)
    obtain ⟨t, ht, hend⟩ := hcanceled.ending
    exact ⟨⟨t, Nat.le_trans ht hinstant, hend⟩, hcanceled.report, hcanceled.uncompared⟩
  · intro hentry
    obtain ⟨i, hi, hl, hn⟩ := CallContext.interruption?_of_isCanceled hentry
    have hcanceled : CanceledBy i.instant call :=
      canceledBy_of_interrupted hi (by rw [hl]; exact Run.not_endsBefore_zero _)
    rw [hn] at hcanceled
    exact ⟨hcanceled, asks_nobody hi hl⟩
  · intro t ht
    obtain ⟨i, hi, rfl⟩ := interruption?_of_canceled ht
    exact ⟨i.instant, Nat.le_refl _, CallContext.interruptedAt_of_interruption? hi⟩

/-- A deadline passes while a check is still waited for, long after the other side was over. -/
theorem interrupted_call_canceled_of_silent_check :
    let e : Engine :=
      ⟨.ofIds ["tasks", "remediations"], ⟨.standard, .ofMillis 500, .ofMillis 200⟩, true⟩
    let world : World :=
      ⟨.after 5 (.ok [⟨"run:read", []⟩]),
        ⟨.asked (.after 40 (.ok ⟨"ws-1"⟩)), fun t _ =>
          if t.service = some "tasks" then .silent else .after 10 (.ok true)⟩⟩
    let policy : PolicySnapshot := ⟨.fixed .dualEnforceNew, 1⟩
    let context : CallContext := { CallContext.background with deadline := some 100 }
    let request : Request := ⟨"alice", .user, "1000", "run:read"⟩
    context.InterruptedAt 100 ∧ e.lastAnswer world request .dualEnforceNew = some 240 ∧
      CanceledBy 100 (e.authorize world policy context request .authorize) := by
  intro e world policy context request
  have hlast : e.lastAnswer world request .dualEnforceNew = some 240 := by decide +kernel
  refine ⟨.inr rfl, hlast, ?_⟩
  refine (e.interrupted_call_canceled world policy context request .authorize).1 100 (.inr rfl) ?_
  intro t ht
  cases hlast.symm.trans ht
  decide

end Engine

end ScopedAccess
