import Mathlib.Data.List.Basic
import ScopedAccess.CommandLine
import ScopedAccess.Proofs.Session

/-!
# ScopedAccess.Proofs.Directory

What calls can see of a fixed directory.

* `Directory.AgreesOn`: two directories agree on what concerns a request: its subject's
  permissions, its tenant's workspace, and the relations its principal holds on that workspace.
* `Engine.authorize_congr`: a call depends on the permissions, the workspace and the checks of its
  principal on that workspace alone.
* `Instance.play_serving`: so does what an instance does in a call, all of its state included.
* `Directory.noninterference`: a call under one of the directories is the same call under the other.
-/

namespace ScopedAccess

namespace Run

theorem andThen_congr {r : Run ε α} {next next' : α → Run ε β}
    (h : ∀ t a, r.ending = some (t, a) → next a = next' a) :
    r.andThen next = r.andThen next' := by
  unfold andThen andThenAt
  cases hr : r.ending with
  | none => rfl
  | some x => simp only [h x.1 x.2 hr]

end Run

/-! ## Calls -/

namespace RelationshipSide

theorem workspaceInTime_of_asked {s : RelationshipSide} {world : RelationshipWorld}
    {reply : Reply (Except LookupFault Workspace)} (h : world.workspace = .asked reply) :
    s.workspaceInTime world = (reply.within? s.lookupPatience.ticks).elim
      (.error ("timed out after " ++ Text.Decimal.text s.lookupPatience.wholeMillis ++ "ms"))
      (Except.mapError LookupFault.message) := by
  unfold workspaceInTime
  rw [h]
  dsimp only
  cases reply.within? s.lookupPatience.ticks with
  | none => rfl
  | some answer => cases answer <;> rfl

/-- An answer that is there at once is in time, however long it is waited for. -/
theorem workspaceInTime_of_atOnce {s : RelationshipSide} {world : RelationshipWorld}
    {answer : Except LookupFault Workspace} (h : world.workspace = .asked (.atOnce answer)) :
    s.workspaceInTime world = answer.mapError LookupFault.message := by
  have hin (limit : Nat) : (Reply.atOnce answer).within? limit = some answer := by
    rw [Reply.atOnce, Reply.within?, if_pos (Nat.zero_le limit)]
  rw [workspaceInTime_of_asked h, hin]
  rfl

theorem lookupInstant_of_asked {s : RelationshipSide} {world : RelationshipWorld}
    {reply : Reply (Except LookupFault Workspace)} (h : world.workspace = .asked reply) :
    s.lookupInstant world = reply.waited s.lookupPatience.ticks := by
  unfold lookupInstant
  rw [h]

theorem lookupInstant_of_atOnce {s : RelationshipSide} {world : RelationshipWorld}
    {answer : Except LookupFault Workspace} (h : world.workspace = .asked (.atOnce answer)) :
    s.lookupInstant world = 0 := by
  have hin (limit : Nat) : (Reply.atOnce answer).waited limit = 0 := Nat.zero_min limit
  rw [lookupInstant_of_asked h, hin]

/-- What a resolution comes to depends on whether its workspace arrives in time, not on when. -/
theorem conclusion_congr {s : RelationshipSide} {world world' : RelationshipWorld}
    (hworkspace : s.workspaceInTime world' = s.workspaceInTime world)
    (hcheck : world'.check = world.check) (principal : Principal) (tenant : String)
    (catalog : Catalog) :
    s.conclusion world' principal tenant catalog = s.conclusion world principal tenant catalog := by
  have hanswer : s.checkInTime world' = s.checkInTime world := by
    funext principal workspace target
    simp only [checkInTime, hcheck]
  simp only [conclusion, hworkspace, hanswer]

theorem resolveInstant_congr {s : RelationshipSide} {world world' : RelationshipWorld}
    (hlookup : s.lookupInstant world' = s.lookupInstant world)
    (hworkspace : s.workspaceInTime world' = s.workspaceInTime world)
    (hcheck : world'.check = world.check) (principal : Principal) (catalog : Catalog) :
    s.resolveInstant world' principal catalog = s.resolveInstant world principal catalog := by
  have hinstant : s.checkInstant world' = s.checkInstant world := by
    funext principal workspace target
    simp only [checkInstant, hcheck]
  simp only [resolveInstant, hlookup, hworkspace, hinstant]

end RelationshipSide

theorem RelationshipSide.resolve_congr (s : RelationshipSide) {world world' : RelationshipWorld}
    {principal : Principal} (hworkspace : world'.workspace = world.workspace)
    (hcheck : ∀ workspace, s.workspaceInTime world = .ok workspace → ∀ target,
      world'.check target ⟨workspace, principal, target.relation⟩ =
        world.check target ⟨workspace, principal, target.relation⟩)
    (tenant : String) (catalog : Catalog) :
    s.resolve world' principal tenant catalog = s.resolve world principal tenant catalog := by
  have hfind : s.findWorkspace world' tenant = s.findWorkspace world tenant := by
    unfold findWorkspace
    rw [hworkspace]
  unfold resolve
  rw [hfind]
  refine Run.andThen_congr fun t found hend => ?_
  rw [ending_findWorkspace] at hend
  cases hw : s.workspaceInTime world with
  | error reason =>
    rw [hw] at hend
    cases hend
    rfl
  | ok workspace =>
    rw [hw] at hend
    cases hend
    have hchecks : s.runCheck world' principal workspace =
        s.runCheck world principal workspace := by
      funext target
      simp only [runCheck, hcheck workspace hw target]
    show s.runChecks world' principal catalog workspace =
      s.runChecks world principal catalog workspace
    unfold runChecks
    rw [hchecks]

namespace Engine

/-- Two worlds give the same answers to all that a call can ask. -/
structure SameAnswers (e : Engine) (request : Request) (world world' : World) : Prop where
  permissions : world'.permissions = world.permissions
  workspace : world'.relationships.workspace = world.relationships.workspace
  check : ∀ workspace, e.relationships.workspaceInTime world.relationships = .ok workspace →
    ∀ target,
      world'.relationships.check target ⟨workspace, request.principal, target.relation⟩ =
        world.relationships.check target ⟨workspace, request.principal, target.relation⟩

variable {e : Engine} {request : Request} {world world' : World}

theorem waitsForAttribute_congr
    (h : e.relationshipResult world' request = e.relationshipResult world request) (mode : Mode) :
    e.waitsForAttribute world' request mode = e.waitsForAttribute world request mode := by
  cases mode <;> simp only [waitsForAttribute, h]

/-- A call is the same where it gets the same answers and is interrupted alike. -/
theorem authorize_congr (h : e.SameAnswers request world world') {context context' : CallContext}
    (hstop : context'.interruption? = context.interruption?) (policy : PolicySnapshot)
    (operation : Operation) :
    e.authorize world' policy context' request operation =
      e.authorize world policy context request operation := by
  have hattribute : ∀ stop,
      e.attributeSide world' stop request = e.attributeSide world stop request := by
    intro stop
    unfold attributeSide fetchPermissions
    rw [h.permissions]
  have hrelationship : ∀ stop,
      e.relationshipSide world' stop request = e.relationshipSide world stop request := by
    intro stop
    unfold relationshipSide
    rw [e.relationships.resolve_congr h.workspace h.check]
  have hresolve : ∀ stop mode,
      e.resolve world' stop request mode = e.resolve world stop request mode := by
    intro stop mode
    cases mode <;>
      simp only [resolve, resolveAttribute, resolveRelationship, resolveBoth, hattribute,
        hrelationship]
  simp only [authorize, hstop, hresolve]

end Engine

/-- Whether an effect is a question about another subject or another tenant. -/
def Effect.isForeign (request : Request) : Effect → Bool
  | .fetch subject _ => subject != request.subject
  | .lookup tenant => tenant != request.tenant
  | _ => false

/-- A call asks about its own subject and tenant only. -/
theorem Engine.not_foreign {e : Engine} {world : World} {policy : PolicySnapshot}
    {context : CallContext} {request : Request} {operation : Operation} {effect : Effect}
    (h : effect ∈ (e.authorize world policy context request operation).effects) :
    effect.isForeign request = false := by
  refine none_of_part_undisturbed (p := Effect.isForeign request) (fun _ => rfl)
    (fun _ _ => rfl) (Run.part_eq_nil ?_) h
  refine only_resolve (only_attributeSide _ e world request ?_ (fun _ => rfl) fun _ => rfl)
    (only_relationshipSide _ e world request ?_ (fun _ => rfl) (fun _ => rfl) (fun _ => rfl)
      fun _ => rfl) (fun _ => rfl) (fun _ => rfl) _
  · exact bne_self_eq_false _
  · exact bne_self_eq_false _

/-! ## Directories -/

/-- What a service answers to a question. -/
inductive Answer where
  | permissions (answer : Except DirectoryFault (List Permission))
  | workspace (answer : Except LookupFault Workspace)
  | check (answer : Except CheckFault Bool)

namespace Directory

/-- The answer to a question, if an effect is one. -/
def answer? (d : Directory) : Effect → Option Answer
  | .fetch subject _ => some (.permissions (d.permissionsOf subject))
  | .lookup tenant => some (.workspace (d.workspaceOf tenant))
  | .check query => some (.check (d.check query))
  | _ => none

/-- The permissions of a subject. One that is not listed has none. -/
def listed (d : Directory) (subject : String) : List Permission :=
  (d.permissions.find? subject).getD []

/-- A principal is granted a relation on a workspace. -/
def Holds (d : Directory) (principal : Principal) (workspace : Workspace) (relation : String) :
    Prop :=
  ⟨principal.id, principal.kind, workspace.id, relation⟩ ∈ d.grants

/-- Two directories agree on what concerns a request. What they say of other subjects, other kinds
of subjects, other tenants and other workspaces is left open, and so are the order and the number
of the grants. -/
structure AgreesOn (d : Directory) (request : Request) (d' : Directory) : Prop where
  mode : d.mode = d'.mode
  outage : d.outage = d'.outage
  permissions : d.listed request.subject = d'.listed request.subject
  workspace : ∀ workspace, d.workspaceOf request.tenant = .ok workspace ↔
    d'.workspaceOf request.tenant = .ok workspace
  grants : ∀ workspace, d.workspaceOf request.tenant = .ok workspace → ∀ relation,
    d.Holds request.principal workspace relation ↔ d'.Holds request.principal workspace relation

variable {d d' : Directory} {request : Request}

theorem allows_iff {query : CheckQuery} :
    d.allows query = true ↔ d.mode = .allowAll ∨
      d.mode = .grants ∧ d.Holds query.principal query.workspace query.relation := by
  unfold allows
  cases d.mode with
  | allowAll => simp
  | denyAll => simp
  | grants =>
    simp only [reduceCtorEq, true_and, false_or, List.any_eq_true, covers, Bool.and_eq_true,
      beq_iff_eq, Holds]
    constructor
    · rintro ⟨⟨subject, kind, workspace, relation⟩, hmem, ⟨⟨rfl, rfl⟩, rfl⟩, rfl⟩
      exact hmem
    · intro hmem
      exact ⟨_, hmem, ⟨⟨rfl, rfl⟩, rfl⟩, rfl⟩

/-- There is one way for a tenant to have no workspace. -/
theorem fault_of_workspaceOf {tenant : String} {fault : LookupFault}
    (h : d.workspaceOf tenant = .error fault) :
    fault = if d.outage.workspaces then .transport "simulated workspace service outage"
      else .noWorkspace tenant := by
  unfold workspaceOf at h
  split at h
  · rename_i hout
    cases h
    rw [if_pos hout]
  · rename_i hout
    rw [if_neg hout]
    split at h
    · cases h
    · split at h
      · cases h
        rfl
      · cases h

namespace AgreesOn

variable (h : d.AgreesOn request d')

include h

theorem permissionsOf_eq : d'.permissionsOf request.subject = d.permissionsOf request.subject := by
  have hlisted := h.permissions
  unfold listed at hlisted
  unfold permissionsOf
  rw [h.outage, hlisted]

theorem workspaceOf_eq : d'.workspaceOf request.tenant = d.workspaceOf request.tenant := by
  cases hw : d.workspaceOf request.tenant with
  | ok workspace => exact (h.workspace workspace).1 hw
  | error fault =>
    cases hw' : d'.workspaceOf request.tenant with
    | ok workspace =>
      rw [(h.workspace workspace).2 hw'] at hw
      cases hw
    | error fault' => rw [fault_of_workspaceOf hw, fault_of_workspaceOf hw', h.outage]

theorem check_eq {workspace : Workspace} (hw : d.workspaceOf request.tenant = .ok workspace)
    (relation : String) :
    d'.check ⟨workspace, request.principal, relation⟩ =
      d.check ⟨workspace, request.principal, relation⟩ := by
  have hallows : d'.allows ⟨workspace, request.principal, relation⟩ =
      d.allows ⟨workspace, request.principal, relation⟩ := by
    rw [Bool.eq_iff_iff, allows_iff, allows_iff, h.mode, h.grants workspace hw relation]
  unfold check
  rw [h.outage, hallows]

end AgreesOn

/-- A remembered workspace is the one that the directory assigns to the tenant. -/
def Confirms (d : Directory) (tenant : String) (remembered : Option Workspace) : Prop :=
  ∀ workspace, remembered = some workspace → d.workspaceOf tenant = .ok workspace

theorem workspaceOf_of_workspaceInTime {s : RelationshipSide} {remembered : Option Workspace}
    {workspace : Workspace} (hremembered : d.Confirms request.tenant remembered)
    (hw : s.workspaceInTime (d.services.world remembered request).relationships = .ok workspace) :
    d.workspaceOf request.tenant = .ok workspace := by
  cases remembered with
  | some own =>
    cases hw
    exact hremembered workspace rfl
  | none =>
    rw [RelationshipSide.workspaceInTime_of_atOnce rfl] at hw
    cases hd : d.workspaceOf request.tenant with
    | ok own =>
      rw [hd] at hw
      cases hw
      rfl
    | error fault =>
      rw [hd] at hw
      cases hw

theorem AgreesOn.sameAnswers (h : d.AgreesOn request d') {remembered : Option Workspace}
    (hremembered : d.Confirms request.tenant remembered) (e : Engine) :
    e.SameAnswers request (d.services.world remembered request)
      (d'.services.world remembered request) where
  permissions := congrArg Reply.atOnce h.permissionsOf_eq
  workspace := by
    cases remembered with
    | some own => rfl
    | none => exact congrArg (fun a => WorkspaceAnswer.asked (.atOnce a)) h.workspaceOf_eq
  check := fun workspace hw target =>
    congrArg Reply.atOnce
      (h.check_eq (workspaceOf_of_workspaceInTime hremembered hw) target.relation)

/-- What is asked in a call has the same answer in both directories. -/
theorem AgreesOn.answer?_eq (h : d.AgreesOn request d') {remembered : Option Workspace}
    (hremembered : d.Confirms request.tenant remembered) {e : Engine} {policy : PolicySnapshot}
    {context : CallContext} {operation : Operation} {effect : Effect}
    (heffect : effect ∈ (e.authorize (d.services.world remembered request) policy context request
      operation).effects) : d'.answer? effect = d.answer? effect := by
  have hown := Engine.not_foreign heffect
  cases effect with
  | fetch subject tenant =>
    obtain rfl : subject = request.subject := by simpa [Effect.isForeign] using hown
    exact congrArg (fun a => some (Answer.permissions a)) h.permissionsOf_eq
  | lookup tenant =>
    obtain rfl : tenant = request.tenant := by simpa [Effect.isForeign] using hown
    exact congrArg (fun a => some (Answer.workspace a)) h.workspaceOf_eq
  | check query =>
    have hquery := Engine.mem_queries_of_check heffect
    unfold RelationshipSide.queries at hquery
    split at hquery
    · rename_i workspace hw
      obtain ⟨target, -, rfl⟩ := List.mem_map.1 hquery
      exact congrArg (fun a => some (Answer.check a))
        (h.check_eq (workspaceOf_of_workspaceInTime hremembered hw) target.relation)
    · cases hquery
  | _ => rfl

end Directory

/-! ## Instances -/

namespace Instance

variable {i : Instance} {services : Services} {context : CallContext}

/-- The same instance with other services. -/
def serving (i : Instance) (services : Services) : Instance := { i with services }

theorem act_serving {effect : Effect}
    (h : ∀ query, effect = .check query → services.checkLog query = i.services.checkLog query) :
    (i.serving services).act context effect = (i.act context effect).serving services := by
  cases effect with
  | check query =>
    have hlog := h query rfl
    simp only [act, serving, see, hlog]
  | _ => rfl

theorem actAll_serving (effects : List Effect)
    (h : ∀ effect ∈ effects, effect.isPolicyWork = true) :
    (i.serving services).actAll effects = (i.actAll effects).serving services := by
  induction effects generalizing i with
  | nil => rfl
  | cons effect rest ih =>
    have hact : (i.serving services).act .background effect =
        (i.act .background effect).serving services := by
      refine act_serving fun query heffect => ?_
      have hwork := h effect List.mem_cons_self
      rw [heffect] at hwork
      cases hwork
    have hrest := ih (i := i.act .background effect) fun x hx => h x (List.mem_cons_of_mem _ hx)
    rw [← hact] at hrest
    exact hrest

theorem refreshUntil_serving (target : Nat) :
    (i.serving services).refreshUntil target = (i.refreshUntil target).serving services :=
  actAll_serving (i := { i with rollout := (i.rollout.runUntil i.now target).1 }) _
    fun _ => Rollout.only_policyWork

theorem deliver_serving : (i.serving services).deliver = i.deliver.serving services := rfl

theorem settle_serving : (i.serving services).settle = i.settle.serving services := by
  unfold settle
  rw [← deliver_serving, ← refreshUntil_serving]
  rfl

theorem moveTo_serving (instant : Nat) :
    (i.serving services).moveTo instant = (i.moveTo instant).serving services := by
  unfold moveTo
  rw [show (i.serving services).now = i.now from rfl, settle_serving, refreshUntil_serving]
  split <;> rfl

theorem services_moveTo (i : Instance) (instant : Nat) :
    (i.moveTo instant).services = i.services := by
  have h : (i.serving i.services).moveTo instant = (i.moveTo instant).serving i.services :=
    moveTo_serving instant
  change i.moveTo instant = _ at h
  rw [h]
  rfl

theorem services_act (i : Instance) (context : CallContext) (effect : Effect) :
    (i.act context effect).services = i.services := by
  cases effect <;> rfl

theorem playTrace_serving (start : Nat) (trace : List (Nat × Effect))
    (h : ∀ query, .check query ∈ trace.map Prod.snd →
      services.checkLog query = i.services.checkLog query) :
    (i.serving services).playTrace context start trace =
      (i.playTrace context start trace).serving services := by
  induction trace generalizing i with
  | nil => rfl
  | cons x rest ih =>
    have hservices : ((i.moveTo (start + x.1)).act context x.2).services = i.services := by
      rw [services_act, services_moveTo]
    have hact : ((i.serving services).moveTo (start + x.1)).act context x.2 =
        ((i.moveTo (start + x.1)).act context x.2).serving services := by
      rw [moveTo_serving]
      refine act_serving fun query hquery => ?_
      rw [services_moveTo]
      exact h query (by rw [List.map_cons, hquery]; exact List.mem_cons_self)
    have hrest := ih (i := (i.moveTo (start + x.1)).act context x.2) fun query hquery => by
      rw [hservices]
      exact h query (List.mem_cons_of_mem _ hquery)
    rw [← hact] at hrest
    exact hrest

/-- Work that makes only checks of which the services log the same leaves the same behind. -/
theorem play_serving {α : Type} {r : Run Effect α}
    (h : ∀ query, .check query ∈ r.effects →
      services.checkLog query = i.services.checkLog query) :
    (i.serving services).play context r =
      ((i.play context r).1.serving services, (i.play context r).2) := by
  have hplayed : (i.serving services).playToEnd context r =
      (i.playToEnd context r).serving services := by
    unfold playToEnd
    rw [show (i.serving services).now = i.now from rfl, playTrace_serving i.now r.trace h]
    dsimp only
    split
    · rfl
    · exact moveTo_serving _
  rw [play, hplayed, settle_serving]
  rfl

theorem start_serving {c : Config} {own : Services} {source : Option PolicySource}
    {logsEvents : Bool} (h : start c own source logsEvents = .ok i) :
    start c services source logsEvents = .ok (i.serving services) := by
  unfold start at h ⊢
  split at h
  · cases h
  · cases h
    rw [← settle_serving]
    rfl

theorem start_error {c : Config} {own : Services} {source : Option PolicySource}
    {logsEvents : Bool} {error : ModuleError} (h : start c own source logsEvents = .error error) :
    start c services source logsEvents = .error error := by
  unfold start at h ⊢
  split at h
  · exact h
  · cases h

theorem services_settle (i : Instance) : i.settle.services = i.services := by
  have h : (i.serving i.services).settle = i.settle.serving i.services := settle_serving
  change i.settle = _ at h
  rw [h]
  rfl

theorem services_of_start {c : Config} {source : Option PolicySource} {logsEvents : Bool}
    (h : start c services source logsEvents = .ok i) : i.services = services := by
  unfold start at h
  split at h
  · cases h
  · cases h
    exact services_settle _

theorem remembered_of_start {c : Config} {source : Option PolicySource} {logsEvents : Bool}
    (h : start c services source logsEvents = .ok i) (tenant : String) :
    i.remembered tenant = none := by
  unfold remembered
  rw [(memory_of_start h).2, Config.cache]
  split <;> rename_i c' hc'
  · split at hc' <;> cases hc'
    rfl
  · rfl

end Instance

/-! ## Calls to instances -/

theorem Run.ending_guarded {r r' : Run ε α} (h : r'.ending = r.ending)
    (stop : Option Interruption) (a : α) :
    (r'.guarded stop a).ending = (r.guarded stop a).ending := by
  cases stop with
  | none => exact h
  | some i =>
    have hbefore : r'.endsBefore i.limit = r.endsBefore i.limit := by
      unfold endsBefore
      rw [h]
    simp only [guarded, ending_stoppedBefore, hbefore, h]

namespace Directory

variable {d d' : Directory} {request : Request} {remembered : Option Workspace}

/-- A directory answers at once, so that it does not matter to what a call comes to whether the
workspace is remembered or asked for. -/
theorem ending_authorize_remembered (h : d.Confirms request.tenant remembered) (e : Engine)
    (policy : PolicySnapshot) (context : CallContext) (operation : Operation) :
    (e.authorize (d.services.world remembered request) policy context request operation).ending =
      (e.authorize (d.services.world none request) policy context request operation).ending := by
  cases remembered with
  | none => rfl
  | some workspace =>
    have hasked : e.relationships.workspaceInTime
        (d.services.world none request).relationships = .ok workspace := by
      rw [RelationshipSide.workspaceInTime_of_atOnce rfl, h workspace rfl]
      rfl
    have hworkspace : e.relationships.workspaceInTime
        (d.services.world (some workspace) request).relationships =
          e.relationships.workspaceInTime (d.services.world none request).relationships :=
      hasked.symm
    have hlookup : e.relationships.lookupInstant
        (d.services.world (some workspace) request).relationships =
          e.relationships.lookupInstant (d.services.world none request).relationships :=
      (RelationshipSide.lookupInstant_of_atOnce rfl).symm
    have hresult : e.relationshipResult (d.services.world (some workspace) request) request =
        e.relationshipResult (d.services.world none request) request :=
      congrArg _ (RelationshipSide.conclusion_congr hworkspace rfl _ _ _)
    have hinstant : e.relationshipInstant (d.services.world (some workspace) request) request =
        e.relationshipInstant (d.services.world none request) request :=
      RelationshipSide.resolveInstant_congr hlookup hworkspace rfl _ _
    have hattribute : e.attributeResult (d.services.world (some workspace) request) request =
        e.attributeResult (d.services.world none request) request := rfl
    rw [Engine.ending_authorize, Engine.ending_authorize]
    refine congrArg _ (Run.ending_guarded ?_ _ _)
    rw [Engine.undisturbed, Engine.undisturbed, Engine.ending_resolve, Engine.ending_resolve,
      Engine.waitsForAttribute_congr hresult, hattribute, hresult, hinstant]

/-- What a session remembers under one directory, the directory confirms. -/
theorem confirms_of_reachable {s : Session} (h : s.Reachable)
    (hcalls : ∀ call ∈ s.calls, call.services = d.services) (tenant : String) :
    d.Confirms tenant (s.inst.remembered tenant) := by
  intro workspace hworkspace
  obtain ⟨c, hc, stored, hstored, rfl⟩ := Instance.mem_of_remembered hworkspace
  obtain ⟨j, call, hcall, -, ⟨t, hanswer⟩, -⟩ :=
    (Session.sound_of_reachable h).cached c hc _ hstored
  rw [hcalls call (List.mem_of_getElem? hcall)] at hanswer
  exact (Reply.after.inj hanswer).2

theorem Confirms.none (d : Directory) (tenant : String) : d.Confirms tenant none :=
  nofun

namespace AgreesOn

variable (h : d.AgreesOn request d')

include h

theorem authorize_eq (hremembered : d.Confirms request.tenant remembered)
    {context context' : CallContext} (hstop : context'.interruption? = context.interruption?)
    (e : Engine) (policy : PolicySnapshot) (operation : Operation) :
    e.authorize (d'.services.world remembered request) policy context' request operation =
      e.authorize (d.services.world remembered request) policy context request operation :=
  Engine.authorize_congr (h.sameAnswers hremembered e) hstop policy operation

/-- The same questions are answered alike, one by one. -/
theorem answers_eq (hremembered : d.Confirms request.tenant remembered) (e : Engine)
    (policy : PolicySnapshot) (context : CallContext) (operation : Operation) :
    (e.authorize (d'.services.world remembered request) policy context request
      operation).effects.filterMap d'.answer? =
      (e.authorize (d.services.world remembered request) policy context request
        operation).effects.filterMap d.answer? := by
  rw [h.authorize_eq hremembered rfl]
  exact List.filterMap_congr fun effect heffect => h.answer?_eq hremembered heffect

/-- What the services log of a check is the same for each check of a call. -/
theorem checkLog_eq (hremembered : d.Confirms request.tenant remembered) {e : Engine}
    {policy : PolicySnapshot} {context : CallContext} {operation : Operation} {query : CheckQuery}
    (hquery : .check query ∈ (e.authorize (d.services.world remembered request) policy context
      request operation).effects) : d'.checkLog query = d.checkLog query := by
  have hanswer : d'.check query = d.check query := by
    have hsome := h.answer?_eq hremembered hquery
    simp only [answer?, Option.some.injEq, Answer.check.injEq] at hsome
    exact hsome
  unfold checkLog
  rw [hanswer]

/-- Whatever two sessions have come through, each under one of the directories, the next call comes
to the same. -/
theorem ending_session {s s' : Session} (hs : s.Reachable) (hs' : s'.Reachable)
    (hcalls : ∀ call ∈ s.calls, call.services = d.services)
    (hcalls' : ∀ call ∈ s'.calls, call.services = d'.services)
    (hservices : s.inst.services = d.services) (hservices' : s'.inst.services = d'.services)
    (hengine : s'.inst.engine = s.inst.engine)
    (hpolicy : s'.inst.rollout.snapshot = s.inst.rollout.snapshot) (context : CallContext) :
    (s'.inst.authorize context request).2 = (s.inst.authorize context request).2 := by
  have hremembered := confirms_of_reachable hs hcalls request.tenant
  have hremembered' := confirms_of_reachable hs' hcalls' request.tenant
  calc (s'.inst.authorize context request).2
      = (s.inst.engine.authorize (d'.services.world (s'.inst.remembered request.tenant) request)
          s.inst.rollout.snapshot context request .authorize).ending := by
        rw [← hengine, ← hpolicy, ← hservices']
        rfl
    _ = (s.inst.engine.authorize (d'.services.world none request)
          s.inst.rollout.snapshot context request .authorize).ending :=
        ending_authorize_remembered hremembered' _ _ _ _
    _ = (s.inst.engine.authorize (d.services.world none request)
          s.inst.rollout.snapshot context request .authorize).ending :=
        congrArg Run.ending (h.authorize_eq (.none d _) rfl _ _ _)
    _ = (s.inst.engine.authorize (d.services.world (s.inst.remembered request.tenant) request)
          s.inst.rollout.snapshot context request .authorize).ending :=
        (ending_authorize_remembered hremembered _ _ _ _).symm
    _ = (s.inst.authorize context request).2 := by
        rw [← hservices]
        rfl

/-- A new instance does the same and is left the same. -/
theorem authorize_start {c : Config} {source : Option PolicySource} {logsEvents : Bool}
    {i : Instance} (hi : Instance.start c d.services source logsEvents = .ok i)
    {context context' : CallContext} (hstop : context'.interruption? = context.interruption?) :
    ((i.serving d'.services).authorize context' request).2 = (i.authorize context request).2 ∧
      (i.serving d'.services).authorize context request =
        ((i.authorize context request).1.serving d'.services, (i.authorize context request).2) := by
  have hworld : i.world request = d.services.world none request := by
    unfold Instance.world
    rw [Instance.services_of_start hi, Instance.remembered_of_start hi]
  have hworld' : (i.serving d'.services).world request = d'.services.world none request := by
    show d'.services.world (i.remembered request.tenant) request = _
    rw [Instance.remembered_of_start hi]
  have hwork {context' : CallContext} (hstop : context'.interruption? = context.interruption?) :
      i.engine.authorize ((i.serving d'.services).world request) i.rollout.snapshot context' request
        .authorize =
      i.engine.authorize (i.world request) i.rollout.snapshot context request .authorize := by
    rw [hworld, hworld']
    exact h.authorize_eq (.none d _) hstop _ _ _
  refine ⟨congrArg Run.ending (hwork hstop), ?_⟩
  show (i.serving d'.services).play context (i.engine.authorize
    ((i.serving d'.services).world request) i.rollout.snapshot context request .authorize) = _
  rw [hwork rfl]
  refine Instance.play_serving fun query hquery => ?_
  rw [hworld] at hquery
  rw [Instance.services_of_start hi]
  exact h.checkLog_eq (.none d _) hquery

theorem call_eq (v : Invocation) (id id' : String) {c : Config}
    (hrequest : CommandLine.request v c = request) :
    CommandLine.call v id' c d' = CommandLine.call v id c d := by
  unfold CommandLine.call
  cases hi : Instance.start c d.services none true with
  | error error => rw [Instance.start_error hi]
  | ok i =>
    rw [Instance.start_serving hi, hrequest]
    dsimp only
    let context (id : String) : CallContext :=
      ⟨some id, none, none, some (CommandLine.deadline v.timeout)⟩
    have hstop : (context id').interruption? = (context id).interruption? := rfl
    have hcall := (h.authorize_start hi hstop).1
    rw [hcall]

end AgreesOn

/-- Calls under two directories that agree on their request are the same. The same engine does the
same at the same instants and is given the same answers. A new instance is left in the same state,
with the same observations; and after any calls at all, to one instance under the one directory and
to another under the other, the next call comes to the same, as long as both have the same engine
and the same policy in force. The report of the program is the same too, however its settings files
are read and whatever the identifiers of the calls. -/
theorem noninterference (h : d.AgreesOn request d') :
    (∀ (e : Engine) remembered policy context operation, d.Confirms request.tenant remembered →
      let call := e.authorize (d.services.world remembered request) policy context request operation
      let call' :=
        e.authorize (d'.services.world remembered request) policy context request operation
      call' = call ∧ call'.effects.filterMap d'.answer? = call.effects.filterMap d.answer?) ∧
    (∀ c source logsEvents i context,
      Instance.start c d.services source logsEvents = .ok i →
        ∃ i', Instance.start c d'.services source logsEvents = .ok i' ∧
          (i'.authorize context request).2 = (i.authorize context request).2 ∧
          (i'.authorize context request).1 =
            (i.authorize context request).1.serving d'.services) ∧
    (∀ (s s' : Session) context, s.Reachable → s'.Reachable →
      (∀ call ∈ s.calls, call.services = d.services) →
      (∀ call ∈ s'.calls, call.services = d'.services) →
      s.inst.services = d.services → s'.inst.services = d'.services →
      s'.inst.engine = s.inst.engine → s'.inst.rollout.snapshot = s.inst.rollout.snapshot →
      (s'.inst.authorize context request).2 = (s.inst.authorize context request).2) ∧
    ∀ reader (v : Invocation) id id' sources sources' c,
      CommandLine.loadConfig reader v sources = .ok c →
      CommandLine.loadConfig reader v sources' = .ok c →
      CommandLine.loadDirectory reader sources = .ok d →
      CommandLine.loadDirectory reader sources' = .ok d' →
      CommandLine.request v c = request →
      CommandLine.run reader v id' sources' = CommandLine.run reader v id sources := by
  refine ⟨?_, ?_, ?_, ?_⟩
  · intro e remembered policy context operation hremembered
    exact ⟨h.authorize_eq hremembered rfl e policy operation,
      h.answers_eq hremembered e policy context operation⟩
  · intro c source logsEvents i context hi
    obtain ⟨hresult, hsame⟩ := h.authorize_start hi (rfl : context.interruption? = _)
    exact ⟨i.serving d'.services, Instance.start_serving hi, hresult, congrArg Prod.fst hsame⟩
  · intro s s' context hs hs' hcalls hcalls' hservices hservices' hengine hpolicy
    exact h.ending_session hs hs' hcalls hcalls' hservices hservices' hengine hpolicy context
  · intro reader v id id' sources sources' c hc hc' hd hd' hrequest
    unfold CommandLine.run
    rw [hc, hc', hd, hd']
    exact h.call_eq v id id' hrequest

/-- The second directory grants more to others and lists the grants of the subject twice and in
another order, and it assigns the workspace by its pattern. -/
theorem noninterference_of_other_grants :
    let permissions : List Permission := [⟨"run:read", [.equal "service" "tasks"]⟩]
    let d : Directory :=
      { mode := .grants, pattern := "", workspaces := .ofList [("1000", "ws-1")],
        grants := [⟨"alice", .user, "ws-1", "tasks_view"⟩, ⟨"alice", .user, "ws-1", "drift_view"⟩],
        permissions := .ofList [("alice", permissions)], outage := ⟨false, false, false⟩ }
    let d' : Directory :=
      { mode := .grants, pattern := " ws-1 ", workspaces := .ofList [("2000", "ws-2")],
        grants := [⟨"bob", .user, "ws-1", "advisor_view"⟩,
          ⟨"alice", .serviceAccount, "ws-1", "advisor_view"⟩,
          ⟨"alice", .user, "ws-2", "advisor_view"⟩, ⟨"alice", .user, "ws-1", "drift_view"⟩,
          ⟨"alice", .user, "ws-1", "tasks_view"⟩, ⟨"alice", .user, "ws-1", "drift_view"⟩],
        permissions := .ofList [("alice", permissions), ("bob", [⟨"run:read", []⟩])],
        outage := ⟨false, false, false⟩ }
    let request : Request := ⟨"alice", .user, "1000", "run:read"⟩
    let e : Engine := ⟨.ofIds ["advisor", "drift", "tasks"],
      ⟨⟨"\x7bservice\x7d_view", .empty, none⟩, .ofMillis 500, .ofMillis 200⟩, false⟩
    let call (d : Directory) := e.authorize (d.services.world none request)
      ⟨.fixed .dualEnforceNew, 3⟩ .background request .authorize
    let outcome : Outcome :=
      ⟨.restricted .relationship (.ofList ["drift", "tasks"]) .noRelationshipGrant,
        .dualEnforceNew, false, 3⟩
    d.AgreesOn request d' ∧ (call d).value? = some (.ok outcome) ∧
      (call d').value? = some (.ok outcome) := by
  intro permissions d d' request e call outcome
  have hw : d.workspaceOf "1000" = .ok ⟨"ws-1"⟩ :=
    eq_ok_of_toOption (by decide +kernel)
  have hw' : d'.workspaceOf "1000" = .ok ⟨"ws-1"⟩ :=
    eq_ok_of_toOption (by decide +kernel)
  have hagrees : d.AgreesOn request d' := by
    refine ⟨rfl, rfl, by decide +kernel, fun workspace => ?_,
      fun workspace hworkspace relation => ?_⟩
    · show d.workspaceOf "1000" = _ ↔ d'.workspaceOf "1000" = _
      rw [hw, hw']
    · obtain rfl : ⟨"ws-1"⟩ = workspace := Except.ok.inj (hw.symm.trans hworkspace)
      have hiff : (relation = "tasks_view" ∨ relation = "drift_view") ↔
          (relation = "drift_view" ∨ relation = "tasks_view" ∨ relation = "drift_view") := by
        grind
      simpa [Holds, Request.principal, request, d, d'] using hiff
  have hvalue : (call d).value? = some (.ok outcome) := Run.value?_of_toOption (by decide +kernel)
  have hsame := ((noninterference hagrees).1 e none ⟨.fixed .dualEnforceNew, 3⟩ .background
    .authorize (.none d _)).1
  exact ⟨hagrees, hvalue, (congrArg Run.value? hsame).trans hvalue⟩

end Directory

end ScopedAccess
