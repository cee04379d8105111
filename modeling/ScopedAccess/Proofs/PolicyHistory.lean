import ScopedAccess.Rollout.Source
import ScopedAccess.Rollout.Store

/-!
# ScopedAccess.Proofs.PolicyHistory

The policy in force and its version, whatever callers do to it.

* `PolicyOperation`: a replacement, or a refresh that is over. An operation touches the snapshot at
  one instant, so that those of any number of callers make one list.
* `PolicySnapshot.after` is the snapshot after some operations, and `PolicySnapshot.changes` counts
  those that installed a policy other than the one then in force.
* `version_after`: the version counts the changes; `after_of_no_changes`: without one the snapshot
  is the same.
* `policy_history`: versions tell policies apart and never decrease.
-/

namespace ScopedAccess

/-- What callers do to the policy in force. -/
inductive PolicyOperation where
  | replace (policy : RolloutPolicy)
  /-- A refresh that is over: with the answer of its source, or abandoned before there was one. -/
  | refresh (answer : Option FetchedPolicy)

namespace PolicyOperation

/-- The policy that is installed, whatever the one in force is. -/
def policy? : PolicyOperation → Option RolloutPolicy
  | replace policy => some policy
  | refresh (some (.ok policy)) => if policy.isValid then some policy else none
  | refresh _ => none

def isRefresh : PolicyOperation → Bool
  | replace _ => false
  | refresh _ => true

theorem policy?_refresh {answer : Option FetchedPolicy} {policy : RolloutPolicy}
    (h : (refresh answer).policy? = some policy) :
    answer = some (.ok policy) ∧ policy.isValid = true := by
  unfold policy? at h
  split at h
  · contradiction
  · rename_i own hanswer
    split at h
    · rename_i hvalid
      cases h
      exact ⟨PolicyOperation.refresh.inj hanswer, hvalid⟩
    · cases h
  · cases h

def apply (s : PolicySnapshot) : PolicyOperation → PolicySnapshot
  | replace policy => s.replace policy
  | refresh (some fetched) => s.refresh fetched
  | refresh none => s

/-- What the caller is told, unless it has abandoned the operation. -/
def result? (s : PolicySnapshot) : PolicyOperation → Option (Except PolicyFault UInt64)
  | replace policy => some (.ok (s.replace policy).version)
  | refresh answer => answer.map s.refreshResult

/-- Whether a policy is installed that is not the one in force. -/
def changes (s : PolicySnapshot) (op : PolicyOperation) : Bool :=
  op.policy?.any fun policy => s.policy != policy

end PolicyOperation

namespace PolicySnapshot

/-- The snapshot after some operations, one after another. -/
def after (s : PolicySnapshot) (ops : List PolicyOperation) : PolicySnapshot :=
  ops.foldl (fun s op => op.apply s) s

/-- How many of the operations install a policy other than the one then in force. -/
def changes : PolicySnapshot → List PolicyOperation → Nat
  | _, [] => 0
  | s, op :: rest => (op.changes s).toNat + changes (op.apply s) rest

section Operations

variable {s : PolicySnapshot} {policy : RolloutPolicy} {op : PolicyOperation}

theorem replace_eq (s : PolicySnapshot) (policy : RolloutPolicy) :
    s.replace policy = ⟨policy, (s.replace policy).version⟩ := by
  unfold replace
  split
  · rename_i hsame
    rw [← hsame]
  · rfl

theorem checked_of_isValid (h : policy.isValid = true) : checked (.ok policy) = .ok policy := by
  unfold RolloutPolicy.isValid at h
  unfold checked
  split at h
  · rename_i hvalid
    simp only [hvalid]
  · cases h

theorem checked_of_not_isValid (h : ¬ policy.isValid = true) :
    ∃ fault, checked (.ok policy) = .error fault := by
  unfold RolloutPolicy.isValid at h
  unfold checked
  split at h
  · exact absurd rfl h
  · rename_i fault hinvalid
    exact ⟨fault, by simp only [hinvalid]⟩

/-- An operation that installs a policy replaces the one in force, and tells the version. -/
theorem apply_of_policy (h : op.policy? = some policy) :
    op.apply s = s.replace policy ∧ op.result? s = some (.ok (s.replace policy).version) := by
  cases op with
  | replace own =>
    cases h
    exact ⟨rfl, rfl⟩
  | refresh answer =>
    obtain ⟨rfl, hvalid⟩ := PolicyOperation.policy?_refresh h
    have hchecked := checked_of_isValid hvalid
    simp [PolicyOperation.apply, PolicyOperation.result?, refresh, refreshResult, hchecked]

/-- Any other operation leaves the snapshot as it is, and does not succeed. -/
theorem apply_of_no_policy (h : op.policy? = none) :
    op.apply s = s ∧ ∀ version, op.result? s ≠ some (.ok version) := by
  cases op with
  | replace own => cases h
  | refresh answer =>
    cases answer with
    | none => exact ⟨rfl, nofun⟩
    | some fetched =>
      have hrefused : ∃ fault, checked fetched = .error fault := by
        cases fetched with
        | error fault => exact ⟨fault, rfl⟩
        | ok own =>
          refine checked_of_not_isValid fun hvalid => ?_
          rw [PolicyOperation.policy?, if_pos hvalid] at h
          cases h
      obtain ⟨fault, hfault⟩ := hrefused
      simp [PolicyOperation.apply, PolicyOperation.result?, refresh, refreshResult, hfault]

theorem apply_of_unchanged (h : op.changes s = false) : op.apply s = s := by
  cases hp : op.policy? with
  | none => exact (apply_of_no_policy hp).1
  | some policy =>
    have hsame : s.policy = policy := by
      simpa [PolicyOperation.changes, hp] using h
    rw [(apply_of_policy hp).1, replace, if_pos hsame]

theorem version_apply (s : PolicySnapshot) (op : PolicyOperation) :
    (op.apply s).version = s.version + UInt64.ofNat (op.changes s).toNat := by
  cases hc : op.changes s with
  | false =>
    rw [apply_of_unchanged hc]
    exact (UInt64.add_zero _).symm
  | true =>
    cases hp : op.policy? with
    | none =>
      rw [PolicyOperation.changes, hp] at hc
      cases hc
    | some policy =>
      have hother : s.policy ≠ policy := by
        simpa [PolicyOperation.changes, hp] using hc
      rw [(apply_of_policy hp).1, replace, if_neg hother]
      rfl

theorem isValid_apply (h : op.isRefresh = true) (hs : s.policy.isValid = true) :
    (op.apply s).policy.isValid = true := by
  cases hp : op.policy? with
  | none =>
    rw [(apply_of_no_policy hp).1]
    exact hs
  | some policy =>
    rw [(apply_of_policy hp).1, replace_eq]
    cases op with
    | replace own => cases h
    | refresh answer => exact (PolicyOperation.policy?_refresh hp).2

end Operations

/-! ## Any number of operations -/

section Histories

variable {s : PolicySnapshot} {ops earlier later : List PolicyOperation}

theorem after_append (s : PolicySnapshot) (xs ys : List PolicyOperation) :
    s.after (xs ++ ys) = (s.after xs).after ys :=
  List.foldl_append

theorem changes_append (s : PolicySnapshot) (xs ys : List PolicyOperation) :
    s.changes (xs ++ ys) = s.changes xs + (s.after xs).changes ys := by
  induction xs generalizing s with
  | nil => exact (Nat.zero_add _).symm
  | cons op rest ih =>
    rw [List.cons_append, changes, changes, ih, Nat.add_assoc]
    rfl

theorem version_after (s : PolicySnapshot) (ops : List PolicyOperation) :
    (s.after ops).version = s.version + UInt64.ofNat (s.changes ops) := by
  induction ops generalizing s with
  | nil => exact (UInt64.add_zero _).symm
  | cons op rest ih =>
    have hrest : (s.after (op :: rest)).version =
        (op.apply s).version + UInt64.ofNat ((op.apply s).changes rest) := ih _
    rw [hrest, version_apply, changes, UInt64.ofNat_add, UInt64.add_assoc]

theorem after_of_no_changes (h : s.changes ops = 0) : s.after ops = s := by
  induction ops generalizing s with
  | nil => rfl
  | cons op rest ih =>
    obtain ⟨hop, hrest⟩ := Nat.add_eq_zero_iff.1 h
    have hsame : op.apply s = s := apply_of_unchanged (by simpa using hop)
    rw [hsame] at hrest
    have hafter : s.after (op :: rest) = (op.apply s).after rest := rfl
    rw [hafter, hsame]
    exact ih hrest

theorem isValid_after (h : ∀ op ∈ ops, op.isRefresh = true) (hs : s.policy.isValid = true) :
    (s.after ops).policy.isValid = true := by
  induction ops generalizing s with
  | nil => exact hs
  | cons op rest ih =>
    exact ih (fun x hx => h x (List.mem_cons_of_mem _ hx))
      (isValid_apply (h op List.mem_cons_self) hs)

theorem changes_mono (h : earlier <+: later) : s.changes earlier ≤ s.changes later := by
  obtain ⟨rest, rfl⟩ := h
  rw [changes_append]
  exact Nat.le_add_right _ _

theorem version_first (p₀ : RolloutPolicy) (ops : List PolicyOperation) :
    ((first p₀).after ops).version = 1 + UInt64.ofNat ((first p₀).changes ops) :=
  version_after _ _

theorem toNat_version_first {p₀ : RolloutPolicy} (h : (first p₀).changes ops + 1 < UInt64.size) :
    ((first p₀).after ops).version.toNat = 1 + (first p₀).changes ops := by
  rw [version_first, UInt64.toNat_add, UInt64.toNat_ofNat_of_lt' (by omega)]
  refine Nat.mod_eq_of_lt ?_
  have hone : UInt64.toNat 1 = 1 := rfl
  have hsize : UInt64.size = 2 ^ 64 := rfl
  omega

/-- Of fewer than `2^64` changes, none leads back to a version. -/
theorem after_eq_of_version_eq (hbefore : earlier <+: later)
    (hfew : s.changes later < UInt64.size)
    (h : (s.after earlier).version = (s.after later).version) :
    s.after earlier = s.after later := by
  obtain ⟨rest, rfl⟩ := hbefore
  rw [changes_append] at hfew
  rw [after_append] at h ⊢
  have hnone : (s.after earlier).changes rest = 0 := by
    rw [version_after (s.after earlier)] at h
    have hzero := congrArg UInt64.toNat (UInt64.add_eq_left.1 h.symm)
    rw [UInt64.toNat_ofNat_of_lt' (by omega)] at hzero
    exact hzero
  exact (after_of_no_changes hnone).symm

theorem policy_eq_of_version_eq (hearlier : earlier <+: ops) (hlater : later <+: ops)
    (hfew : s.changes ops < UInt64.size)
    (h : (s.after earlier).version = (s.after later).version) :
    (s.after earlier).policy = (s.after later).policy := by
  rcases List.prefix_or_prefix_of_prefix hearlier hlater with hle | hle
  · have hbound := Nat.lt_of_le_of_lt (changes_mono (s := s) hlater) hfew
    rw [after_eq_of_version_eq hle hbound h]
  · have hbound := Nat.lt_of_le_of_lt (changes_mono (s := s) hearlier) hfew
    rw [after_eq_of_version_eq hle hbound h.symm]

end Histories

/-- The policy in force after any operations on a first one. The version is one more than the number
of changes, modulo `2^64`. As long as the counter does not overflow, which takes `2^64 - 1` changes,
it is that number itself and never decreases; and up to `2^64 - 1` changes, the overflow included,
every policy that was in force has a version of its own. An operation that installs a policy tells
the version that the policy has then. A refresh that fails, brings an invalid policy or is
abandoned changes nothing, so that refreshes alone keep the policy valid. -/
theorem policy_history (p₀ : RolloutPolicy) (ops : List PolicyOperation) :
    let s := first p₀
    (s.after ops).version = 1 + UInt64.ofNat (s.changes ops) ∧
    (s.changes ops + 1 < UInt64.size →
      (s.after ops).version.toNat = 1 + s.changes ops ∧
      ∀ earlier later, earlier <+: later → later <+: ops →
        (s.after earlier).version ≤ (s.after later).version) ∧
    (s.changes ops < UInt64.size → ∀ earlier later, earlier <+: ops → later <+: ops →
      (s.after earlier).version = (s.after later).version →
      (s.after earlier).policy = (s.after later).policy) ∧
    (∀ before op, before ++ [op] <+: ops →
      (∀ policy, op.policy? = some policy → ∃ version,
        op.result? (s.after before) = some (.ok version) ∧
        s.after (before ++ [op]) = ⟨policy, version⟩) ∧
      (op.policy? = none →
        s.after (before ++ [op]) = s.after before ∧
        ∀ version, op.result? (s.after before) ≠ some (.ok version))) ∧
    (p₀.isValid = true → (∀ op ∈ ops, op.isRefresh = true) →
      ∀ earlier, earlier <+: ops → (s.after earlier).policy.isValid = true) := by
  intro s
  refine ⟨version_first p₀ ops, fun hroom => ⟨toNat_version_first hroom, ?_⟩, ?_, ?_, ?_⟩
  · intro earlier later hle hlater
    have hfewer : s.changes earlier ≤ s.changes later := changes_mono hle
    have hlast : s.changes later + 1 < UInt64.size :=
      Nat.lt_of_le_of_lt (Nat.succ_le_succ (changes_mono hlater)) hroom
    rw [UInt64.le_iff_toNat_le, toNat_version_first hlast,
      toNat_version_first (Nat.lt_of_le_of_lt (Nat.succ_le_succ hfewer) hlast)]
    exact Nat.add_le_add_left hfewer 1
  · intro hfew earlier later hearlier hlater
    exact policy_eq_of_version_eq hearlier hlater hfew
  · intro before op _
    have hlast : s.after (before ++ [op]) = op.apply (s.after before) := after_append s before [op]
    rw [hlast]
    refine ⟨fun policy hp => ?_, apply_of_no_policy⟩
    obtain ⟨happly, hresult⟩ := apply_of_policy (s := s.after before) hp
    exact ⟨_, hresult, happly.trans (replace_eq _ policy)⟩
  · intro hvalid hrefreshes earlier hearlier
    exact isValid_after (fun op hop => hrefreshes op (hearlier.subset hop)) hvalid

/-- Two changes among six operations: a policy is installed twice, and three refreshes come to
nothing. -/
theorem policy_history_of_refused_refreshes :
    let dual : RolloutPolicy := .fixed .dualValidate
    let invalid : RolloutPolicy := ⟨.relationshipOnly, .percentage 120 0 .attributeOnly⟩
    let ops : List PolicyOperation :=
      [.refresh (some (.ok dual)), .refresh (some (.ok invalid)), .replace dual,
        .refresh (some (.error (.unavailable "flag service down"))), .refresh none,
        .replace (.fixed .attributeOnly)]
    let s := first (.fixed .attributeOnly)
    s.changes ops + 1 < UInt64.size ∧ (s.after ops).version.toNat = 1 + 2 ∧
      s.after (ops.take 5) = ⟨dual, 2⟩ ∧ (s.after (ops.take 5)).version ≤ (s.after ops).version := by
  intro dual invalid ops s
  have hchanges : s.changes ops = 2 := by decide +kernel
  have hroom : s.changes ops + 1 < UInt64.size := by
    rw [hchanges]
    decide
  obtain ⟨hversion, hmonotone⟩ := (policy_history (.fixed .attributeOnly) ops).2.1 hroom
  refine ⟨hroom, ?_, by decide +kernel, hmonotone _ ops (List.take_prefix _ _) (List.prefix_refl _)⟩
  rw [hversion]
  exact congrArg _ hchanges

end PolicySnapshot

end ScopedAccess
