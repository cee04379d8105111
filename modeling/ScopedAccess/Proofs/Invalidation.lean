import ScopedAccess.Proofs.CacheHistory

/-!
# ScopedAccess.Proofs.Invalidation

What the invalidation of a tenant achieves for the lookups that begin after it.

* `UnderWay`: a lookup has asked the resolver and is not over yet.
* `refetched_unless_under_way`: an answer that is returned later was asked for after the
  invalidation, or by a lookup that was under way then.
* `stale_hit_after_invalidated`: such a lookup stores its answer all the same, and the next one is
  served with it.
-/

namespace ScopedAccess

section Lookups

variable {past before after : List CacheEvent} {l : Lookup} {e : CacheEvent}

/-- A lookup has asked the resolver and is not over yet. -/
def UnderWay (l : Lookup) (past : List CacheEvent) : Prop :=
  .asked l ∈ past ∧ ∃ e, lastOf l past = some e ∧ e.isLast = false

theorem exists_lastOf (he : e ∈ past) (hl : e.lookup? = some l) : ∃ p, lastOf l past = some p := by
  cases hlast : lastOf l past with
  | some p => exact ⟨p, rfl⟩
  | none =>
    have hnil := List.getLast?_eq_none_iff.1 hlast
    exact absurd hl (by simpa using List.filter_eq_nil_iff.1 hnil e he)

/-- A lookup that has asked and goes on to do something later is under way. -/
theorem underWay_of_later {mid : List CacheEvent} (h : Orderly (before ++ mid))
    (hasked : .asked l ∈ before) (he : e ∈ mid) (hl : e.lookup? = some l) : UnderWay l before := by
  obtain ⟨p, hp⟩ := exists_lastOf hasked rfl
  refine ⟨hasked, p, hp, ?_⟩
  obtain ⟨hmem, hpl⟩ := mem_of_lastOf hp
  obtain ⟨mid₁, mid₂, rfl⟩ := List.append_of_mem he
  have hpast : before ++ (mid₁ ++ e :: mid₂) = (before ++ mid₁) ++ e :: mid₂ :=
    (List.append_assoc _ _ _).symm
  have hfollows := h.follows hpast hl
  cases hlast : p.isLast with
  | false => rfl
  | true =>
    have hsame := lastOf_of_isLast (h.of_append hpast) (List.mem_append_left mid₁ hmem) hpl hlast
    rw [hsame] at hfollows
    exact hlast.symm.trans hfollows.not_isLast

theorem asked_of_answered {answer : Except LookupFault Workspace} (h : Orderly past)
    (hanswered : .answered l answer ∈ past) : .asked l ∈ past := by
  obtain ⟨before, after, hpast⟩ := List.append_of_mem hanswered
  have hfollows := h.follows hpast rfl
  cases hlast : lastOf l before with
  | none =>
    rw [hlast] at hfollows
    cases hfollows
  | some p =>
    rw [hlast] at hfollows
    cases hfollows
    rw [hpast]
    exact List.mem_append_left _ (mem_of_lastOf hlast).1

end Lookups

namespace CacheHistory

/-- An entry that an invalidation did not remove was stored after it. -/
theorem Stored.after_invalidated {before mid : List CacheEvent} {tenant : String}
    {stored : StoredWorkspace} (h : Stored (before ++ .invalidated tenant :: mid) tenant stored) :
    ∃ l, l.tenant = tenant ∧ .stored l stored.workspace stored.storedAt ∈ mid := by
  obtain ⟨l, before', after', hpast, htenant, hafter⟩ := h
  refine ⟨l, htenant, ?_⟩
  rcases List.append_eq_append_iff.1 hpast with ⟨rest, _, hrest⟩ | ⟨rest, _, hrest⟩
  · rcases List.cons_eq_append_iff.1 hrest with ⟨_, hne⟩ | ⟨rest', _, hmid⟩
    · cases hne
    · rw [hmid]
      exact List.mem_append_right _ List.mem_cons_self
  · -- it would have been invalidated since
    rcases List.cons_eq_append_iff.1 hrest with ⟨_, hne⟩ | ⟨rest', _, hmid⟩
    · cases hne
    · rw [hmid] at hafter
      exact absurd (List.mem_append_right _ List.mem_cons_self) hafter

/-- A lookup that begins after its tenant was invalidated returns an answer of the resolver that was
asked for after the invalidation, or by a lookup that was under way then. -/
theorem refetched_unless_under_way {lifetime : Duration} {s : CacheHistory}
    (h : s.Reachable lifetime) {before mid after : List CacheEvent} {tenant : String} {l : Lookup}
    {e : CacheEvent} {workspace : Workspace}
    (hpast : s.past = before ++ .invalidated tenant :: (mid ++ e :: after))
    (hl : e.lookup? = some l) (htenant : l.tenant = tenant)
    (hnew : ∀ e' ∈ before, e'.lookup? ≠ some l) (hresult : e.result? = some (.ok workspace)) :
    ∃ l', l'.tenant = tenant ∧ .answered l' (.ok workspace) ∈ before ++ .invalidated tenant :: mid ∧
      (.asked l' ∈ mid ∨ UnderWay l' before) := by
  have hsound := sound_of_reachable h
  have hsplit : s.past = (before ++ .invalidated tenant :: mid) ++ e :: after := by
    rw [hpast, List.append_assoc]
    rfl
  have horderly := hsound.orderly.of_append hsplit
  cases e with
  | hit own workspace' instant =>
    cases hl
    cases hresult
    obtain ⟨storedAt, hstored, _⟩ := hsound.hits _ _ _ _ _ hsplit
    rw [htenant] at hstored
    obtain ⟨l', htenant', hmem⟩ := hstored.after_invalidated
    have hanswered := answered_of_stored horderly
      (List.mem_append_right before (List.mem_cons_of_mem _ hmem))
    refine ⟨l', htenant', hanswered, ?_⟩
    rcases List.mem_append.1 (asked_of_answered horderly hanswered) with hasked | hasked
    · exact .inr (underWay_of_later horderly hasked (List.mem_cons_of_mem _ hmem) rfl)
    · exact .inl ((List.mem_cons.1 hasked).resolve_left nofun)
  | stored own workspace' instant =>
    cases hl
    cases hresult
    have hanswered := answered_of_result hsound.orderly hsplit rfl rfl nofun
    refine ⟨l, htenant, hanswered, .inl ?_⟩
    -- the lookup has not done anything before the invalidation
    rcases List.mem_append.1 (asked_of_answered horderly hanswered) with hasked | hasked
    · exact absurd rfl (hnew _ hasked)
    · exact (List.mem_cons.1 hasked).resolve_left nofun
  | _ => cases hresult

/-- A lookup that misses after an invalidation asks again, and the one after it is served with the
new answer. -/
theorem refetched_unless_under_way_of_hit :
    let lifetime := Duration.ofMillis 60000
    let first : Lookup := ⟨0, "7"⟩
    let second : Lookup := ⟨1, "7"⟩
    let third : Lookup := ⟨2, "7"⟩
    let before : List CacheEvent :=
      [.missed first, .asked first, .answered first (.ok ⟨"ws-old"⟩), .stored first ⟨"ws-old"⟩ 0]
    let mid : List CacheEvent :=
      [.missed second, .asked second, .answered second (.ok ⟨"ws-new"⟩),
        .stored second ⟨"ws-new"⟩ 0]
    ∃ s : CacheHistory, s.Reachable lifetime ∧
      s.past = before ++ .invalidated "7" :: (mid ++ [.hit third ⟨"ws-new"⟩ 0]) ∧
      ∃ l', l'.tenant = "7" ∧
        .answered l' (.ok ⟨"ws-new"⟩) ∈ before ++ .invalidated "7" :: mid ∧ .asked l' ∈ mid := by
  intro lifetime first second third before mid
  let empty := WorkspaceCache.create lifetime
  have hempty : empty.find? 0 "7" = none := rfl
  let full := empty.store 0 "7" ⟨"ws-old"⟩
  have hforgotten : (full.invalidate "7").find? 0 "7" = none := by decide +kernel
  let refilled := (full.invalidate "7").store 0 "7" ⟨"ws-new"⟩
  have hrefilled : refilled.find? 0 "7" = some ⟨"ws-new"⟩ := by decide +kernel
  have hstored : Reachable lifetime ⟨full, 0, 1, before⟩ :=
    ((((Reachable.starts 0).step (.misses _ hempty)).step (.asks (l := first) rfl)).step
      (.answers (l := first) (.ok ⟨"ws-old"⟩) rfl)).step (.stores (l := first) rfl)
  have hasked := ((hstored.step (.invalidates _ "7")).step (.misses _ hforgotten)).step
    (.asks (l := second) rfl)
  have hrestored : Reachable lifetime ⟨refilled, 0, 2, before ++ .invalidated "7" :: mid⟩ :=
    (hasked.step (.answers (l := second) (.ok ⟨"ws-new"⟩) rfl)).step (.stores (l := second) rfl)
  have hreach : Reachable lifetime ⟨refilled, 0, 3,
      before ++ .invalidated "7" :: (mid ++ [.hit third ⟨"ws-new"⟩ 0])⟩ :=
    hrestored.step (.hits _ hrefilled)
  refine ⟨_, hreach, rfl, ?_⟩
  have hnew : ∀ e ∈ before, e.lookup? ≠ some third := by
    simp [before, CacheEvent.lookup?, first, third]
  obtain ⟨l', htenant, hanswered, hasked | ⟨hasked, e, hlast, he⟩⟩ :=
    refetched_unless_under_way hreach rfl rfl rfl hnew rfl
  · exact ⟨l', htenant, hanswered, hasked⟩
  · -- the first lookup was over when the tenant was invalidated
    obtain rfl : l' = first := by simpa [before] using hasked
    cases hlast
    cases he

/-- A lookup that is under way at an invalidation stores its answer afterwards, and a lookup that
begins after the invalidation is served with it although nobody has been asked since. -/
theorem stale_hit_after_invalidated :
    let lifetime := Duration.ofMillis 60000
    let first : Lookup := ⟨0, "7"⟩
    let second : Lookup := ⟨1, "7"⟩
    let before : List CacheEvent := [.missed first, .asked first]
    let mid : List CacheEvent :=
      [.answered first (.ok ⟨"ws-old"⟩), .stored first ⟨"ws-old"⟩ 0]
    ∃ s : CacheHistory, s.Reachable lifetime ∧
      s.past = before ++ .invalidated "7" :: (mid ++ [.hit second ⟨"ws-old"⟩ 0]) ∧
      (∀ e ∈ before, e.lookup? ≠ some second) ∧
      ∀ l, .asked l ∈ s.past → .asked l ∈ before := by
  intro lifetime first second before mid
  let empty := WorkspaceCache.create lifetime
  have hempty : empty.find? 0 "7" = none := rfl
  let full := (empty.invalidate "7").store 0 "7" ⟨"ws-old"⟩
  have hfull : full.find? 0 "7" = some ⟨"ws-old"⟩ := by decide +kernel
  have hasked : Reachable lifetime ⟨empty, 0, 1, before⟩ :=
    ((Reachable.starts 0).step (.misses _ hempty)).step (.asks (l := first) rfl)
  have hanswered := (hasked.step (.invalidates _ "7")).step
    (.answers (l := first) (.ok ⟨"ws-old"⟩) rfl)
  have hstored : Reachable lifetime ⟨full, 0, 1, before ++ .invalidated "7" :: mid⟩ :=
    hanswered.step (.stores (l := first) rfl)
  refine ⟨_, hstored.step (.hits _ hfull), rfl, ?_, fun l hl => ?_⟩
  · simp [before, CacheEvent.lookup?, first, second]
  · simpa [before, mid] using hl

end CacheHistory

end ScopedAccess
