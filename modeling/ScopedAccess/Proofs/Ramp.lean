import ScopedAccess.Proofs.Deployment

/-!
# ScopedAccess.Proofs.Ramp

A policy that is rolled out to more and more tenants: its percentage is raised, and nothing else in
it changes.

* `Ramp.stage` is the policy with one of the percentages. `select_stage_of_le`: raising the
  percentage takes the mode from nobody. `select_stage_zero`, `select_stage_all`: the two ends.
* `Ramp.Climbs`: operations that install stages one after another, with percentages that never
  fall. `Climbs.apply` is what one operation keeps, `Climbs.after` what any number keep.
* `Engine.authorize_eq_fixed`: of its policy, a call sees the mode of its tenant and the version.
* `Ramp.keeps_tenants`: a tenant that is given the mode keeps it, in all calls of all its subjects.
-/

namespace ScopedAccess

/-- What stays the same while a percentage is raised. -/
structure Ramp where
  mode : Mode
  otherwise : Mode
  seed : UInt64

namespace Ramp

/-- The policy with one of the percentages. -/
def stage (r : Ramp) (percent : UInt8) : RolloutPolicy :=
  ⟨r.mode, .percentage percent r.seed r.otherwise⟩

/-- The policy in force is a stage, and the operations install further ones, one after another,
with percentages that never fall. -/
def Climbs (r : Ramp) (s : PolicySnapshot) (ops : List PolicyOperation) : Prop :=
  ∃ percents : List UInt8, percents.Pairwise (· ≤ ·) ∧
    s.policy :: ops.filterMap PolicyOperation.policy? = percents.map r.stage

variable {r : Ramp} {tenant : String}

/-! ## One policy -/

theorem select_stage (r : Ramp) (percent : UInt8) (tenant : String) :
    (r.stage percent).select tenant =
      if bucket r.seed tenant < percent.toNat then r.mode else r.otherwise :=
  rfl

/-- A tenant is given the mode by its bucket, or because nobody is given another one. -/
theorem select_stage_eq_mode_iff {percent : UInt8} :
    (r.stage percent).select tenant = r.mode ↔
      bucket r.seed tenant < percent.toNat ∨ r.otherwise = r.mode := by
  rw [select_stage]
  split
  · next hin => exact iff_of_true rfl (.inl hin)
  · next hout => exact ⟨.inr, fun h => h.resolve_left hout⟩

theorem select_stage_of_le {low high : UInt8} (h : low ≤ high)
    (hgiven : (r.stage low).select tenant = r.mode) : (r.stage high).select tenant = r.mode := by
  rw [select_stage_eq_mode_iff] at hgiven ⊢
  exact hgiven.imp_left fun hin => Nat.lt_of_lt_of_le hin (UInt8.le_iff_toNat_le.1 h)

theorem select_stage_zero (r : Ramp) :
    (r.stage 0).select = (RolloutPolicy.fixed r.otherwise).select := by
  funext tenant
  have hnone : ¬ bucket r.seed tenant < UInt8.toNat 0 := Nat.not_lt_zero _
  rw [select_stage, if_neg hnone]
  rfl

theorem select_stage_all (r : Ramp) {percent : UInt8} (h : 100 ≤ percent) :
    (r.stage percent).select = (RolloutPolicy.fixed r.mode).select := by
  funext tenant
  have hall : 100 ≤ percent.toNat := UInt8.le_iff_toNat_le.1 h
  rw [select_stage, if_pos (Nat.lt_of_lt_of_le (bucket_lt r.seed tenant) hall)]
  rfl

/-! ## Operations -/

section Operations

variable {s : PolicySnapshot} {op : PolicyOperation} {ops rest : List PolicyOperation}

/-- One operation keeps the ramp going and takes the mode from nobody. -/
theorem Climbs.apply (h : r.Climbs s (op :: rest)) :
    r.Climbs (op.apply s) rest ∧ ∀ tenant, s.policy.select tenant = r.mode →
      (op.apply s).policy.select tenant = r.mode := by
  obtain ⟨percents, hrising, hstages⟩ := h
  cases hp : op.policy? with
  | none =>
    rw [(PolicySnapshot.apply_of_no_policy hp).1]
    rw [List.filterMap_cons_none hp] at hstages
    exact ⟨⟨percents, hrising, hstages⟩, fun _ hgiven => hgiven⟩
  | some policy =>
    rw [(PolicySnapshot.apply_of_policy hp).1, PolicySnapshot.replace_eq]
    rw [List.filterMap_cons_some hp] at hstages
    obtain ⟨low, percents, rfl, hlow, hstages⟩ := List.map_eq_cons_iff.1 hstages.symm
    obtain ⟨high, others, rfl, hhigh, -⟩ := List.map_eq_cons_iff.1 hstages
    obtain ⟨hleast, hrising⟩ := List.pairwise_cons.1 hrising
    refine ⟨⟨high :: others, hrising, hstages.symm⟩, fun tenant hgiven => ?_⟩
    rw [← hlow] at hgiven
    rw [← hhigh]
    exact select_stage_of_le (hleast high List.mem_cons_self) hgiven

/-- So do any number of operations, one after another. -/
theorem Climbs.after (h : r.Climbs s (ops ++ rest)) :
    r.Climbs (s.after ops) rest ∧ ∀ tenant, s.policy.select tenant = r.mode →
      (s.after ops).policy.select tenant = r.mode := by
  induction ops generalizing s with
  | nil => exact ⟨h, fun _ hgiven => hgiven⟩
  | cons op ops ih =>
    obtain ⟨hnext, hkept⟩ := h.apply
    obtain ⟨hclimbs, hafter⟩ := ih hnext
    exact ⟨hclimbs, fun tenant hgiven => hafter tenant (hkept tenant hgiven)⟩

end Operations

end Ramp

/-! ## Calls -/

/-- Of its policy, a call sees the mode of its tenant and the version. -/
theorem Engine.authorize_eq_fixed (e : Engine) (world : World) {s : PolicySnapshot}
    (context : CallContext) {request : Request} (operation : Operation) {mode : Mode}
    (h : s.policy.select request.tenant = mode) :
    e.authorize world s context request operation =
      e.authorize world ⟨.fixed mode, s.version⟩ context request operation := by
  rw [← h]
  rfl

/-- A call is given a mode. -/
structure Call.IsGiven (call : Call) (e : Engine) (mode : Mode) : Prop where
  mode_eq : call.mode = mode
  outcome : ∀ outcome, (call.work e).value? = some (.ok outcome) → outcome.mode = mode
  /-- It does and returns what it would if everyone were given the mode. -/
  work_eq : call.work e = e.authorize call.world ⟨.fixed mode, call.policy.version⟩ call.context
    call.request call.operation

theorem Call.isGiven {call : Call} {mode : Mode} (e : Engine) (h : call.mode = mode) :
    call.IsGiven e mode where
  mode_eq := h
  outcome := fun _ houtcome => (Deployment.outcome_of_work houtcome).2.trans h
  work_eq := e.authorize_eq_fixed call.world call.context call.operation h

/-! ## Deployments -/

namespace Deployment

/-- The operations after the first `n`, up to the first `m`. -/
def between (d : Deployment) (n m : Nat) : List PolicyOperation :=
  (d.operations.drop n).take (m - n)

variable {p₀ : RolloutPolicy} {d : Deployment} {n m : Nat}

theorem between_append (d : Deployment) {ended : Nat} (h : n ≤ m) (hended : m ≤ ended) :
    d.between n m ++ d.between m ended = d.between n ended := by
  obtain ⟨i, rfl⟩ := Nat.exists_eq_add_of_le h
  obtain ⟨j, rfl⟩ := Nat.exists_eq_add_of_le hended
  rw [between, between, between, Nat.add_sub_cancel_left, Nat.add_sub_cancel_left, Nat.add_assoc,
    Nat.add_sub_cancel_left, List.take_add, List.drop_drop]

theorem after_between (p₀ : RolloutPolicy) (d : Deployment) (h : n ≤ m) :
    (d.snapshotAt p₀ n).after (d.between n m) = d.snapshotAt p₀ m := by
  obtain ⟨i, rfl⟩ := Nat.exists_eq_add_of_le h
  rw [between, Nat.add_sub_cancel_left, snapshotAt, snapshotAt, List.take_add,
    PolicySnapshot.after_append]

end Deployment

namespace Ramp

/-- What is left of a ramp later on still takes the mode from nobody. -/
theorem Climbs.select_later {r : Ramp} {p₀ : RolloutPolicy} {d : Deployment}
    {begun n m ended : Nat} {tenant : String}
    (h : r.Climbs (d.snapshotAt p₀ begun) (d.between begun ended)) (hn : begun ≤ n) (hm : n ≤ m)
    (hended : m ≤ ended) (hgiven : (d.snapshotAt p₀ n).policy.select tenant = r.mode) :
    (d.snapshotAt p₀ m).policy.select tenant = r.mode := by
  rw [← d.between_append hn (Nat.le_trans hm hended)] at h
  have hleft : r.Climbs (d.snapshotAt p₀ n) (d.between n ended) := d.after_between p₀ hn ▸ h.after.1
  rw [← d.between_append hm hended] at hleft
  have hkept := hleft.after.2 tenant hgiven
  rwa [d.after_between p₀ hm] at hkept

/-- While operations raise a percentage, from some number of them on to another, a tenant that has
been given the mode keeps it: so does every call of any of its subjects, whenever it begins. A
percentage of zero gives everyone the other mode, and one of a hundred or more gives everyone the
mode, because a bucket is the hash modulo a hundred and never what a number beyond all bytes
becomes. -/
theorem keeps_tenants (r : Ramp) :
    (∀ {p₀ : RolloutPolicy} {d : Deployment} {begun ended : Nat},
      r.Climbs (d.snapshotAt p₀ begun) (d.between begun ended) →
      ∀ (tenant : String) (n m : Nat), begun ≤ n → n ≤ m → m ≤ ended →
        (d.snapshotAt p₀ n).policy.select tenant = r.mode →
        (d.snapshotAt p₀ m).policy.select tenant = r.mode ∧
        (d.Reachable p₀ → ∀ (k : Nat) (call : Call), d.session.calls[k]? = some call →
          d.starts[k]? = some m → call.request.tenant = tenant →
          call.IsGiven d.session.inst.engine r.mode)) ∧
    (r.stage 0).select = (RolloutPolicy.fixed r.otherwise).select ∧
    (∀ percent, 100 ≤ percent → (r.stage percent).select = (RolloutPolicy.fixed r.mode).select) ∧
    ∀ tenant, bucket r.seed tenant = (Hash.Xxh3.hash r.seed tenant).toNat % 100 ∧
      bucket r.seed tenant < 100 := by
  refine ⟨?_, r.select_stage_zero, fun _ => r.select_stage_all,
    fun tenant => ⟨bucket_eq r.seed tenant, bucket_lt r.seed tenant⟩⟩
  intro p₀ d begun ended hclimbs tenant n m hn hm hended hgiven
  have hkept := hclimbs.select_later hn hm hended hgiven
  refine ⟨hkept, fun hreach k call hcall hstart htenant => call.isGiven _ ?_⟩
  obtain ⟨m', _, hstart', hpolicy⟩ := (Deployment.coherent_of_reachable hreach).begun_at hcall
  obtain rfl : m = m' := Option.some.inj (hstart.symm.trans hstart')
  rw [Call.mode, hpolicy, htenant]
  exact hkept

/-- A tenant that the second of three stages gives the mode, and a call of its under the third. -/
theorem keeps_tenants_of_three_stages :
    let r : Ramp := ⟨.dualEnforceNew, .attributeOnly, 0⟩
    let p₀ : RolloutPolicy := .fixed .attributeOnly
    let ops : List PolicyOperation :=
      [.replace (r.stage 25), .replace (r.stage 75), .refresh none, .replace (r.stage 200)]
    ∃ (d : Deployment) (bob : Call), d.Reachable p₀ ∧ d.operations = ops ∧
      r.Climbs (d.snapshotAt p₀ 1) (d.between 1 4) ∧
      (d.snapshotAt p₀ 1).policy.select "1000" = r.otherwise ∧
      (d.snapshotAt p₀ 2).policy.select "1000" = r.mode ∧
      d.session.calls[0]? = some bob ∧ d.starts[0]? = some 4 ∧ bob.request.tenant = "1000" ∧
      bob.IsGiven d.session.inst.engine r.mode := by
  intro r p₀ ops
  let c : Config := .standard
  let i : Instance :=
    ⟨c.engine, ⟨fun _ _ => .silent, fun _ => .silent, fun _ => .silent, fun _ => []⟩,
      .create p₀ ⟨[]⟩, c.cache, .create 8 .running, false, 0, []⟩
  have hstarts : Deployment.Reachable p₀ ⟨⟨i, [], []⟩, [], []⟩ := .starts c rfl rfl rfl
  obtain ⟨rollout, _, hinstalled⟩ := hstarts.operate ops
  let j : Instance := { i with rollout := rollout }
  let bob := j.call .background ⟨"bob", .user, "1000", "run:read"⟩ .authorize
  let d : Deployment := ⟨⟨j, [bob], []⟩, ops, [4]⟩
  have hcalled : d.Reachable p₀ :=
    hinstalled.step (.begins _ .background bob.request .authorize)
  have hclimbs : r.Climbs (d.snapshotAt p₀ 1) (d.between 1 4) := ⟨[25, 75, 200], by decide, rfl⟩
  have hnotYet : (r.stage 25).select "1000" = r.otherwise := by decide +kernel
  have hgiven : (r.stage 75).select "1000" = r.mode := by decide +kernel
  obtain ⟨-, hcalls⟩ := r.keeps_tenants.1 hclimbs "1000" 2 4 (by decide) (by decide) (by decide)
    hgiven
  exact ⟨d, bob, hcalled, rfl, hclimbs, hnotYet, hgiven, rfl, rfl, rfl,
    hcalls hcalled 0 bob rfl rfl rfl⟩

end Ramp

end ScopedAccess
