import ScopedAccess.Proofs.Instance

/-!
# ScopedAccess.Proofs.CacheHistory

Lookups of workspaces through one cache, any number of them at a time.

* `CacheHistory.Step`: a lookup finds its tenant in the cache or misses it, asks the resolver, is
  answered, and stores the answer or fails with it; it can be abandoned on the way. Meanwhile tenants
  are invalidated, expired entries are dropped, and time passes.
* `Orderly`: what one lookup does, it does in this order, and it ends once.
* `CacheHistory.Sound` is what every step preserves: an entry is what a lookup for its tenant stored
  at the instant the entry says, and was not invalidated since.
* `Reachable.lookup`, `Reachable.invalidate`, `Reachable.advance`: an instance at work has such a
  history, one lookup after another.
* `lookups_answered`: where the results of lookups come from, and what stays in the cache.
-/

namespace ScopedAccess

/-- A lookup. Its number tells it apart from the others. -/
structure Lookup where
  number : Nat
  tenant : String
deriving DecidableEq

/-- What happens to a cache and to the lookups through it. -/
inductive CacheEvent where
  /-- The cache answered the lookup at an instant. -/
  | hit (l : Lookup) (workspace : Workspace) (instant : Nat)
  | missed (l : Lookup)
  | asked (l : Lookup)
  /-- The resolver answered the lookup. -/
  | answered (l : Lookup) (answer : Except LookupFault Workspace)
  /-- The lookup stored its answer at an instant and returned it. -/
  | stored (l : Lookup) (workspace : Workspace) (instant : Nat)
  | failed (l : Lookup) (fault : LookupFault)
  | abandoned (l : Lookup)
  | invalidated (tenant : String)

namespace CacheEvent

/-- The lookup that does it. -/
def lookup? : CacheEvent → Option Lookup
  | hit l _ _ | missed l | asked l | answered l _ | stored l _ _ | failed l _ | abandoned l => some l
  | invalidated _ => none

/-- What the lookup returns with it. -/
def result? : CacheEvent → Option (Except LookupFault Workspace)
  | hit _ workspace _ => some (.ok workspace)
  | stored _ workspace _ => some (.ok workspace)
  | failed _ fault => some (.error fault)
  | _ => none

/-- Whether the lookup is over with it. -/
def isLast (e : CacheEvent) : Bool :=
  match e with
  | abandoned _ => true
  | _ => e.result?.isSome

/-- What a lookup may do, given what it did last. -/
inductive Follows : CacheEvent → Option CacheEvent → Prop where
  | hit (l : Lookup) (workspace : Workspace) (instant : Nat) :
      Follows (.hit l workspace instant) none
  | missed (l : Lookup) : Follows (.missed l) none
  | asked (l : Lookup) : Follows (.asked l) (some (.missed l))
  | answered (l : Lookup) (answer : Except LookupFault Workspace) :
      Follows (.answered l answer) (some (.asked l))
  | stored (l : Lookup) (workspace : Workspace) (instant : Nat) :
      Follows (.stored l workspace instant) (some (.answered l (.ok workspace)))
  | failed (l : Lookup) (fault : LookupFault) :
      Follows (.failed l fault) (some (.answered l (.error fault)))
  | abandoned {l : Lookup} {e : CacheEvent} (h : e.isLast = false) :
      Follows (.abandoned l) (some e)

theorem Follows.not_isLast {e e' : CacheEvent} (h : e.Follows (some e')) : e'.isLast = false := by
  cases h with
  | abandoned h => exact h
  | _ => rfl

end CacheEvent

/-! ## What one lookup does -/

section Lookups

variable {past : List CacheEvent} {l : Lookup} {e e' : CacheEvent}

/-- What a lookup has done last. -/
def lastOf (l : Lookup) (past : List CacheEvent) : Option CacheEvent :=
  (past.filter fun e => e.lookup? = some l).getLast?

theorem lastOf_snoc (l : Lookup) (past : List CacheEvent) (e : CacheEvent) :
    lastOf l (past ++ [e]) = if e.lookup? = some l then some e else lastOf l past := by
  unfold lastOf
  rw [List.filter_append]
  split
  · rename_i hl
    rw [List.filter_cons_of_pos (by simpa using hl)]
    exact List.getLast?_concat
  · rename_i hl
    rw [List.filter_cons_of_neg (by simpa using hl), List.filter_nil, List.append_nil]

theorem lastOf_snoc_of_own (hl : e.lookup? = some l) : lastOf l (past ++ [e]) = some e := by
  rw [lastOf_snoc]
  exact if_pos hl

theorem mem_of_lastOf (h : lastOf l past = some e) : e ∈ past ∧ e.lookup? = some l := by
  have hmem := List.mem_filter.1 (List.mem_of_getLast? h)
  exact ⟨hmem.1, by simpa using hmem.2⟩

theorem lastOf_eq_none (h : ∀ e ∈ past, e.lookup? ≠ some l) : lastOf l past = none := by
  rw [lastOf, List.filter_eq_nil_iff.2 fun e he => by simpa using h e he]
  rfl

/-- An entry of a history that grew by one is the new one, or it was there before. -/
theorem new_or_old {before after : List CacheEvent} (h : past ++ [e'] = before ++ e :: after) :
    (past = before ∧ e' = e) ∨ ∃ rest, past = before ++ e :: rest := by
  rcases List.eq_nil_or_concat after with rfl | ⟨rest, x, rfl⟩
  · obtain ⟨hpast, hx⟩ := List.append_inj' h rfl
    exact .inl ⟨hpast, (List.cons.inj hx).1⟩
  · rw [List.concat_eq_append, ← List.cons_append, ← List.append_assoc] at h
    exact .inr ⟨rest, (List.append_inj' h rfl).1⟩

/-- Each lookup does one thing after another. -/
inductive Orderly : List CacheEvent → Prop where
  | nil : Orderly []
  | snoc {past : List CacheEvent} {e : CacheEvent} (h : Orderly past)
      (he : ∀ l, e.lookup? = some l → e.Follows (lastOf l past)) : Orderly (past ++ [e])

theorem Orderly.of_append {before after : List CacheEvent} (h : Orderly past)
    (hpast : past = before ++ after) : Orderly before := by
  induction h generalizing after with
  | nil =>
    rw [(List.append_eq_nil_iff.1 hpast.symm).1]
    exact .nil
  | @snoc past e h he ih =>
    rcases List.eq_nil_or_concat after with rfl | ⟨after', x, rfl⟩
    · rw [List.append_nil] at hpast
      rw [← hpast]
      exact h.snoc he
    · rw [List.concat_eq_append, ← List.append_assoc] at hpast
      exact ih (List.append_inj' hpast rfl).1

theorem Orderly.follows (h : Orderly past) {before after : List CacheEvent}
    (hpast : past = before ++ e :: after) (hl : e.lookup? = some l) :
    e.Follows (lastOf l before) := by
  induction h generalizing after with
  | nil => exact absurd hpast.symm (List.append_ne_nil_of_right_ne_nil before (List.cons_ne_nil _ _))
  | snoc _ he ih =>
    rcases new_or_old hpast with ⟨rfl, rfl⟩ | ⟨rest, hold⟩
    · exact he l hl
    · exact ih hold

/-- A lookup that is over does nothing more. -/
theorem lastOf_of_isLast (h : Orderly past) (he : e ∈ past) (hl : e.lookup? = some l)
    (hlast : e.isLast = true) : lastOf l past = some e := by
  induction h with
  | nil => cases he
  | @snoc past x _ hx ih =>
    rw [lastOf_snoc]
    rcases List.mem_append.1 he with he | he
    · split
      · rename_i hxl
        -- it would have to follow the last thing that the lookup did
        have hfollows := hx l hxl
        rw [ih he] at hfollows
        rw [hfollows.not_isLast] at hlast
        cases hlast
      · exact ih he
    · rw [List.mem_singleton.1 he] at hl ⊢
      exact if_pos hl

/-- A lookup ends once. -/
theorem eq_of_isLast (h : Orderly past) (he : e ∈ past) (he' : e' ∈ past)
    (hl : e.lookup? = some l) (hl' : e'.lookup? = some l) (hlast : e.isLast = true)
    (hlast' : e'.isLast = true) : e = e' :=
  Option.some.inj ((lastOf_of_isLast h he hl hlast).symm.trans (lastOf_of_isLast h he' hl' hlast'))

end Lookups

namespace WorkspaceCache

/-- Drops the entry of a tenant if it has expired. -/
def evict (c : WorkspaceCache) (now : Nat) (tenant : String) : WorkspaceCache :=
  match c.entries.find? tenant with
  | some stored => if c.isFresh now stored then c else c.invalidate tenant
  | none => c

theorem mem_evict {c : WorkspaceCache} {now : Nat} {tenant : String}
    {entry : String × StoredWorkspace} (h : entry ∈ (c.evict now tenant).entries.entries) :
    entry ∈ c.entries.entries := by
  unfold evict at h
  split at h
  · split at h
    · exact h
    · exact (mem_invalidate h).1
  · exact h

theorem lifetime_evict (c : WorkspaceCache) (now : Nat) (tenant : String) :
    (c.evict now tenant).lifetime = c.lifetime := by
  unfold evict
  split
  · split <;> rfl
  · rfl

end WorkspaceCache

/-! ## The cache and its lookups -/

/-- A cache, the clock, and what has happened. -/
structure CacheHistory where
  cache : WorkspaceCache
  now : Nat
  /-- How many lookups have begun. -/
  begun : Nat
  past : List CacheEvent

namespace CacheHistory

inductive Step : CacheHistory → CacheHistory → Prop where
  | hits (h : CacheHistory) {tenant : String} {workspace : Workspace}
      (hfind : h.cache.find? h.now tenant = some workspace) :
      Step h { h with
        begun := h.begun + 1
        past := h.past ++ [.hit ⟨h.begun, tenant⟩ workspace h.now] }
  | misses (h : CacheHistory) {tenant : String} (hfind : h.cache.find? h.now tenant = none) :
      Step h { h with
        begun := h.begun + 1
        past := h.past ++ [.missed ⟨h.begun, tenant⟩] }
  /-- An expired entry is dropped, as a lookup does that came upon it. -/
  | evicts (h : CacheHistory) (tenant : String) :
      Step h { h with cache := h.cache.evict h.now tenant }
  | asks {h : CacheHistory} {l : Lookup} (hl : lastOf l h.past = some (.missed l)) :
      Step h { h with past := h.past ++ [.asked l] }
  | answers {h : CacheHistory} {l : Lookup} (answer : Except LookupFault Workspace)
      (hl : lastOf l h.past = some (.asked l)) :
      Step h { h with past := h.past ++ [.answered l answer] }
  | stores {h : CacheHistory} {l : Lookup} {workspace : Workspace}
      (hl : lastOf l h.past = some (.answered l (.ok workspace))) :
      Step h { h with
        cache := h.cache.store h.now l.tenant workspace
        past := h.past ++ [.stored l workspace h.now] }
  | fails {h : CacheHistory} {l : Lookup} {fault : LookupFault}
      (hl : lastOf l h.past = some (.answered l (.error fault))) :
      Step h { h with past := h.past ++ [.failed l fault] }
  /-- Nobody waits for the lookup any more. -/
  | abandons {h : CacheHistory} {l : Lookup} {e : CacheEvent} (hl : lastOf l h.past = some e)
      (he : e.isLast = false) : Step h { h with past := h.past ++ [.abandoned l] }
  | invalidates (h : CacheHistory) (tenant : String) :
      Step h { h with
        cache := h.cache.invalidate tenant
        past := h.past ++ [.invalidated tenant] }
  | waits (h : CacheHistory) {instant : Nat} (hle : h.now ≤ instant) :
      Step h { h with now := instant }

/-- Histories of a cache that remembers nothing yet. -/
inductive Reachable (lifetime : Duration) : CacheHistory → Prop where
  | starts (now : Nat) : Reachable lifetime ⟨.create lifetime, now, 0, []⟩
  | step {h h' : CacheHistory} : Reachable lifetime h → Step h h' → Reachable lifetime h'

/-! ## The invariant -/

/-- A workspace is what a lookup for the tenant has stored at the instant it says, and the tenant
was not invalidated since. -/
def Stored (past : List CacheEvent) (tenant : String) (stored : StoredWorkspace) : Prop :=
  ∃ l before after, past = before ++ .stored l stored.workspace stored.storedAt :: after ∧
    l.tenant = tenant ∧ .invalidated tenant ∉ after

theorem Stored.snoc {past : List CacheEvent} {tenant : String} {stored : StoredWorkspace}
    {e : CacheEvent} (h : Stored past tenant stored) (he : e ≠ .invalidated tenant) :
    Stored (past ++ [e]) tenant stored := by
  obtain ⟨l, before, after, rfl, hl, hafter⟩ := h
  refine ⟨l, before, after ++ [e], by rw [List.append_assoc]; rfl, hl, fun hmem => ?_⟩
  rcases List.mem_append.1 hmem with hmem | hmem
  · exact hafter hmem
  · exact he (List.mem_singleton.1 hmem).symm

structure Sound (lifetime : Duration) (h : CacheHistory) : Prop where
  lasts : h.cache.lifetime = lifetime
  orderly : Orderly h.past
  numbered : ∀ e ∈ h.past, ∀ l, e.lookup? = some l → l.number < h.begun
  entries : ∀ x ∈ h.cache.entries.entries, Stored h.past x.1 x.2 ∧ x.2.storedAt ≤ h.now
  hits : ∀ (before : List CacheEvent) (l : Lookup) (workspace : Workspace) (instant : Nat)
    (after : List CacheEvent), h.past = before ++ .hit l workspace instant :: after →
      ∃ storedAt, Stored before l.tenant ⟨workspace, storedAt⟩ ∧ storedAt ≤ instant ∧
        (instant - storedAt) * 1000000 < lifetime.nanos

section Steps

variable {lifetime : Duration} {s : CacheHistory} {l : Lookup} {e p : CacheEvent}

theorem Sound.lastOf_fresh (h : s.Sound lifetime) (tenant : String) :
    lastOf ⟨s.begun, tenant⟩ s.past = none :=
  lastOf_eq_none fun e he hl => Nat.lt_irrefl _ (h.numbered e he _ hl)

theorem Sound.keeps (h : s.Sound lifetime) (he : ∀ tenant, e ≠ .invalidated tenant) :
    ∀ x ∈ s.cache.entries.entries, Stored (s.past ++ [e]) x.1 x.2 ∧ x.2.storedAt ≤ s.now :=
  fun x hx => (h.entries x hx).imp_left fun hstored => hstored.snoc (he x.1)

/-- What has to be shown of an event for the history with it to be sound. -/
theorem Sound.record (h : s.Sound lifetime) {cache : WorkspaceCache} {begun : Nat}
    (hlasts : cache.lifetime = lifetime)
    (hfollows : ∀ l, e.lookup? = some l → e.Follows (lastOf l s.past))
    (hbegun : s.begun ≤ begun) (hnumber : ∀ l, e.lookup? = some l → l.number < begun)
    (hentries : ∀ x ∈ cache.entries.entries,
      Stored (s.past ++ [e]) x.1 x.2 ∧ x.2.storedAt ≤ s.now)
    (hhit : ∀ l workspace instant, e = .hit l workspace instant →
      ∃ storedAt, Stored s.past l.tenant ⟨workspace, storedAt⟩ ∧ storedAt ≤ instant ∧
        (instant - storedAt) * 1000000 < lifetime.nanos) :
    Sound lifetime { s with cache := cache, begun := begun, past := s.past ++ [e] } where
  lasts := hlasts
  orderly := h.orderly.snoc hfollows
  numbered := fun e' he' l hl => by
    rcases List.mem_append.1 he' with he' | he'
    · exact Nat.lt_of_lt_of_le (h.numbered e' he' l hl) hbegun
    · exact hnumber l (List.mem_singleton.1 he' ▸ hl)
  entries := hentries
  hits := fun before l workspace instant after hpast => by
    rcases new_or_old hpast with ⟨rfl, he⟩ | ⟨rest, hold⟩
    · exact hhit l workspace instant he
    · exact h.hits before l workspace instant rest hold

theorem Sound.hits_find (h : s.Sound lifetime) {tenant : String} {workspace : Workspace}
    (hfind : s.cache.find? s.now tenant = some workspace) :
    Sound lifetime { s with
      begun := s.begun + 1
      past := s.past ++ [.hit ⟨s.begun, tenant⟩ workspace s.now] } := by
  refine h.record h.lasts (fun l hl => ?_) (Nat.le_succ _) (fun l hl => ?_)
    (h.keeps fun _ => nofun) fun l workspace' instant he => ?_
  · obtain rfl := Option.some.inj hl
    rw [h.lastOf_fresh]
    exact .hit _ _ _
  · obtain rfl := Option.some.inj hl
    exact Nat.lt_succ_self _
  · cases he
    obtain ⟨stored, hmem, rfl, hfresh⟩ := WorkspaceCache.fresh_of_find? hfind
    obtain ⟨hstored, hle⟩ := h.entries _ hmem
    rw [WorkspaceCache.isFresh, h.lasts, decide_eq_true_eq] at hfresh
    exact ⟨stored.storedAt, hstored, hle, hfresh⟩

theorem Sound.misses (h : s.Sound lifetime) (tenant : String) :
    Sound lifetime { s with
      begun := s.begun + 1
      past := s.past ++ [.missed ⟨s.begun, tenant⟩] } := by
  refine h.record h.lasts (fun l hl => ?_) (Nat.le_succ _) (fun l hl => ?_)
    (h.keeps fun _ => nofun) nofun
  · obtain rfl := Option.some.inj hl
    rw [h.lastOf_fresh]
    exact .missed _
  · obtain rfl := Option.some.inj hl
    exact Nat.lt_succ_self _

/-- A lookup that has begun goes on, and leaves the cache alone or stores its answer. -/
theorem Sound.goesOn (h : s.Sound lifetime) {cache : WorkspaceCache}
    (hl : lastOf l s.past = some p) (he : e.lookup? = some l) (hfollows : e.Follows (some p))
    (hlasts : cache.lifetime = lifetime)
    (hentries : ∀ x ∈ cache.entries.entries,
      Stored (s.past ++ [e]) x.1 x.2 ∧ x.2.storedAt ≤ s.now) :
    Sound lifetime { s with cache := cache, past := s.past ++ [e] } := by
  obtain ⟨hp, hpl⟩ := mem_of_lastOf hl
  refine h.record hlasts (fun l' hl' => ?_) (Nat.le_refl _) (fun l' hl' => ?_) hentries
    fun l' workspace instant heq => ?_
  · obtain rfl := Option.some.inj (he.symm.trans hl')
    rw [hl]
    exact hfollows
  · obtain rfl := Option.some.inj (he.symm.trans hl')
    exact h.numbered p hp l hpl
  · rw [heq] at hfollows
    cases hfollows

theorem Sound.stores (h : s.Sound lifetime) {workspace : Workspace}
    (hl : lastOf l s.past = some (.answered l (.ok workspace))) :
    Sound lifetime { s with
      cache := s.cache.store s.now l.tenant workspace
      past := s.past ++ [.stored l workspace s.now] } := by
  refine h.goesOn hl rfl (.stored _ _ _) h.lasts fun x hx => ?_
  rcases WorkspaceCache.mem_store hx with rfl | ⟨hx, _⟩
  · exact ⟨⟨l, s.past, [], rfl, rfl, List.not_mem_nil⟩, Nat.le_refl _⟩
  · exact h.keeps (e := .stored l workspace s.now) (fun _ => nofun) x hx

theorem Sound.invalidates (h : s.Sound lifetime) (tenant : String) :
    Sound lifetime { s with
      cache := s.cache.invalidate tenant
      past := s.past ++ [.invalidated tenant] } := by
  have hnobody (l : Lookup) : CacheEvent.lookup? (.invalidated tenant) ≠ some l :=
    (Option.some_ne_none l).symm
  refine h.record h.lasts (fun l hl => absurd hl (hnobody l)) (Nat.le_refl _)
    (fun l hl => absurd hl (hnobody l)) (fun x hx => ?_) nofun
  obtain ⟨hx, hne⟩ := WorkspaceCache.mem_invalidate hx
  obtain ⟨hstored, hle⟩ := h.entries x hx
  exact ⟨hstored.snoc fun heq => hne (CacheEvent.invalidated.inj heq).symm, hle⟩

theorem step_sound {s' : CacheHistory} (h : s.Sound lifetime) (hstep : Step s s') :
    s'.Sound lifetime := by
  cases hstep with
  | hits hfind => exact h.hits_find hfind
  | misses _ => exact h.misses _
  | evicts tenant =>
    exact ⟨(WorkspaceCache.lifetime_evict _ _ _).trans h.lasts, h.orderly, h.numbered,
      fun x hx => h.entries x (WorkspaceCache.mem_evict hx), h.hits⟩
  | asks hl => exact h.goesOn hl rfl (.asked _) h.lasts (h.keeps fun _ => nofun)
  | answers answer hl => exact h.goesOn hl rfl (.answered _ _) h.lasts (h.keeps fun _ => nofun)
  | stores hl => exact h.stores hl
  | fails hl => exact h.goesOn hl rfl (.failed _ _) h.lasts (h.keeps fun _ => nofun)
  | abandons hl he =>
    exact h.goesOn hl rfl (.abandoned he) h.lasts (h.keeps fun _ => nofun)
  | invalidates tenant => exact h.invalidates tenant
  | waits hle =>
    exact ⟨h.lasts, h.orderly, h.numbered,
      fun x hx => (h.entries x hx).imp_right fun hx => Nat.le_trans hx hle, h.hits⟩

theorem sound_of_reachable (h : s.Reachable lifetime) : s.Sound lifetime := by
  induction h with
  | starts now =>
    exact ⟨rfl, .nil, nofun, nofun, fun before _ _ _ _ hpast =>
      absurd hpast.symm (List.append_ne_nil_of_right_ne_nil before (List.cons_ne_nil _ _))⟩
  | step _ hstep ih => exact step_sound ih hstep

/-- What a lookup returns that is not from the cache, the resolver has answered it. -/
theorem answered_of_result {past before after : List CacheEvent}
    {answer : Except LookupFault Workspace} (h : Orderly past) (hpast : past = before ++ e :: after)
    (hl : e.lookup? = some l) (hresult : e.result? = some answer)
    (hhit : ∀ workspace instant, e ≠ .hit l workspace instant) : .answered l answer ∈ before := by
  have hfollows := h.follows hpast hl
  cases hlast : lastOf l before with
  | none =>
    rw [hlast] at hfollows
    cases hfollows with
    | hit own workspace instant =>
      obtain rfl := Option.some.inj hl
      exact absurd rfl (hhit workspace instant)
    | missed => cases hresult
  | some p =>
    rw [hlast] at hfollows
    have hp := (mem_of_lastOf hlast).1
    cases hfollows with
    | stored own workspace instant =>
      obtain rfl := Option.some.inj hl
      obtain rfl := Option.some.inj hresult
      exact hp
    | failed own fault =>
      obtain rfl := Option.some.inj hl
      obtain rfl := Option.some.inj hresult
      exact hp
    | _ => cases hresult

theorem answered_of_stored {past : List CacheEvent} {workspace : Workspace} {instant : Nat}
    (h : Orderly past) (hstored : .stored l workspace instant ∈ past) :
    .answered l (.ok workspace) ∈ past := by
  obtain ⟨before, after, hpast⟩ := List.append_of_mem hstored
  have hanswered := answered_of_result h hpast rfl rfl nofun
  rw [hpast]
  exact List.mem_append_left _ hanswered

theorem Stored.answered {past : List CacheEvent} {tenant : String} {stored : StoredWorkspace}
    (hstored : Stored past tenant stored) (h : Orderly past) :
    ∃ l, l.tenant = tenant ∧ .answered l (.ok stored.workspace) ∈ past ∧
      .stored l stored.workspace stored.storedAt ∈ past := by
  obtain ⟨l, before, after, hpast, htenant, _⟩ := hstored
  have hmem : .stored l stored.workspace stored.storedAt ∈ past := by
    rw [hpast]
    exact List.mem_append_right _ List.mem_cons_self
  exact ⟨l, htenant, answered_of_stored h hmem, hmem⟩

/-- A step adds no entry but that of a lookup that returns its answer. -/
theorem entry_of_step {s' : CacheHistory} (hstep : Step s s') {x : String × StoredWorkspace}
    (hx : x ∈ s'.cache.entries.entries) :
    x ∈ s.cache.entries.entries ∨ ∃ l workspace,
      s'.past = s.past ++ [.stored l workspace s.now] ∧ x = (l.tenant, ⟨workspace, s.now⟩) := by
  cases hstep with
  | stores hl => exact (WorkspaceCache.mem_store hx).symm.imp And.left fun hx => ⟨_, _, rfl, hx⟩
  | evicts tenant => exact .inl (WorkspaceCache.mem_evict hx)
  | invalidates tenant => exact .inl (WorkspaceCache.mem_invalidate hx).1
  | _ => exact .inl hx

theorem fresh_of_stored (hlifetime : 0 < lifetime.nanos) (h : s.Sound lifetime)
    {s' : CacheHistory} (hstep : Step s s') {workspace : Workspace} {instant : Nat}
    (hpast : s'.past = s.past ++ [.stored l workspace instant]) {x : String × StoredWorkspace}
    (hx : x ∈ s'.cache.entries.entries) :
    (s'.now - x.2.storedAt) * 1000000 < lifetime.nanos := by
  cases hstep with
  | stores hl =>
    rcases WorkspaceCache.mem_store hx with rfl | ⟨_, hfresh⟩
    · show (s.now - s.now) * 1000000 < lifetime.nanos
      rw [Nat.sub_self, Nat.zero_mul]
      exact hlifetime
    · rw [WorkspaceCache.isFresh, h.lasts, decide_eq_true_eq] at hfresh
      exact hfresh
  | evicts tenant => exact absurd (List.self_eq_append_right.1 hpast) (List.cons_ne_nil _ _)
  | waits hle => exact absurd (List.self_eq_append_right.1 hpast) (List.cons_ne_nil _ _)
  | _ => cases (List.append_inj' hpast rfl).2

end Steps

/-- Whatever goes on at a time, a workspace that a lookup returns is the answer of the resolver to
itself, or to a lookup for the same tenant that stored it less than a lifetime before the cache was
looked at. A lookup fails only with the fault that the resolver answered it with. Every entry is the
answer of a lookup that returned it, and after it did, all entries are fresh. -/
theorem lookups_answered {lifetime : Duration} (hlifetime : 0 < lifetime.nanos)
    {s : CacheHistory} (h : s.Reachable lifetime) :
    (∀ before e after l workspace, s.past = before ++ e :: after → e.lookup? = some l →
      e.result? = some (.ok workspace) →
        ((∃ instant, e = .stored l workspace instant) ∧ .answered l (.ok workspace) ∈ before) ∨
        ∃ instant, e = .hit l workspace instant ∧ ∃ l' storedAt, l'.tenant = l.tenant ∧
          .answered l' (.ok workspace) ∈ before ∧ .stored l' workspace storedAt ∈ before ∧
          storedAt ≤ instant ∧ (instant - storedAt) * 1000000 < lifetime.nanos) ∧
    (∀ before e after l fault, s.past = before ++ e :: after → e.lookup? = some l →
      e.result? = some (.error fault) → .answered l (.error fault) ∈ before) ∧
    (∀ e ∈ s.past, ∀ l, e.lookup? = some l → e.isLast = true →
      (∀ workspace, e.result? ≠ some (.ok workspace)) →
        ∀ workspace instant, .stored l workspace instant ∉ s.past) ∧
    (∀ x ∈ s.cache.entries.entries, ∃ l, l.tenant = x.1 ∧
      .answered l (.ok x.2.workspace) ∈ s.past ∧
      .stored l x.2.workspace x.2.storedAt ∈ s.past) ∧
    ∀ s', Step s s' →
      (∀ x ∈ s'.cache.entries.entries, x ∈ s.cache.entries.entries ∨ ∃ l workspace,
        s'.past = s.past ++ [.stored l workspace s.now] ∧ x = (l.tenant, ⟨workspace, s.now⟩)) ∧
      ∀ l workspace instant, s'.past = s.past ++ [.stored l workspace instant] →
        ∀ x ∈ s'.cache.entries.entries,
          (s'.now - x.2.storedAt) * 1000000 < lifetime.nanos := by
  have hsound := sound_of_reachable h
  refine ⟨?_, ?_, ?_, ?_, fun s' hstep => ⟨fun x => entry_of_step hstep, fun l workspace instant
    hpast x => fresh_of_stored hlifetime hsound hstep hpast⟩⟩
  · intro before e after l workspace hpast hl hresult
    cases e with
    | hit own workspace' instant =>
      cases hl
      cases hresult
      obtain ⟨storedAt, hstored, hle, hfresh⟩ := hsound.hits _ _ _ _ _ hpast
      obtain ⟨l', htenant, hanswered, hmem⟩ := hstored.answered (hsound.orderly.of_append hpast)
      exact .inr ⟨instant, rfl, l', storedAt, htenant, hanswered, hmem, hle, hfresh⟩
    | stored own workspace' instant =>
      cases hl
      cases hresult
      exact .inl ⟨⟨instant, rfl⟩, answered_of_result hsound.orderly hpast rfl rfl nofun⟩
    | _ => cases hresult
  · intro before e after l fault hpast hl hresult
    cases e with
    | failed own fault' => exact answered_of_result hsound.orderly hpast hl hresult nofun
    | _ => cases hresult
  · intro e he l hl hlast hresult workspace instant hstored
    have hsame := eq_of_isLast hsound.orderly he hstored hl rfl hlast rfl
    exact hresult workspace (hsame ▸ rfl)
  · intro x hx
    exact (hsound.entries x hx).1.answered hsound.orderly

/-- Two lookups miss a tenant at a time; one fails, and the other serves a third lookup until its
answer is as old as the lifetime. -/
theorem lookups_answered_of_overlap :
    let lifetime := Duration.ofMillis 60000
    let past : List CacheEvent :=
      [.missed ⟨0, "7"⟩, .missed ⟨1, "7"⟩, .asked ⟨0, "7"⟩, .asked ⟨1, "7"⟩,
        .answered ⟨1, "7"⟩ (.ok ⟨"ws-7"⟩), .stored ⟨1, "7"⟩ ⟨"ws-7"⟩ 0,
        .answered ⟨0, "7"⟩ (.error (.noWorkspace "7")), .failed ⟨0, "7"⟩ (.noWorkspace "7")]
    0 < lifetime.nanos ∧ ∃ s : CacheHistory, s.Reachable lifetime ∧
      s.past = past ++ [.hit ⟨2, "7"⟩ ⟨"ws-7"⟩ 59999, .missed ⟨3, "7"⟩] ∧
      ∃ l' storedAt, l'.tenant = "7" ∧ .answered l' (.ok ⟨"ws-7"⟩) ∈ past ∧
        .stored l' ⟨"ws-7"⟩ storedAt ∈ past ∧ (59999 - storedAt) * 1000000 < lifetime.nanos := by
  intro lifetime past
  have hlifetime : 0 < lifetime.nanos := by decide
  let empty := WorkspaceCache.create lifetime
  have hempty : empty.find? 0 "7" = none := rfl
  let full := empty.store 0 "7" ⟨"ws-7"⟩
  have hfull : full.find? 59999 "7" = some ⟨"ws-7"⟩ := by decide +kernel
  have hexpired : full.find? 60000 "7" = none := by decide +kernel
  have hasked : Reachable lifetime ⟨empty, 0, 2, past.take 4⟩ :=
    ((((Reachable.starts 0).step (.misses _ hempty)).step (.misses _ hempty)).step
      (.asks rfl)).step (.asks rfl)
  have hstored : Reachable lifetime ⟨full, 0, 2, past.take 6⟩ :=
    (hasked.step (.answers (l := ⟨1, "7"⟩) (.ok ⟨"ws-7"⟩) rfl)).step (.stores (l := ⟨1, "7"⟩) rfl)
  have hfailed : Reachable lifetime ⟨full, 0, 2, past⟩ :=
    (hstored.step (.answers (l := ⟨0, "7"⟩) (.error (.noWorkspace "7")) rfl)).step
      (.fails (l := ⟨0, "7"⟩) rfl)
  have hreach := (((hfailed.step (.waits _ (Nat.zero_le 59999))).step (.hits _ hfull)).step
    (.waits _ (Nat.le_succ 59999))).step (.misses _ hexpired)
  refine ⟨hlifetime, _, hreach, rfl, ?_⟩
  have hhit := (lookups_answered hlifetime hreach).1 past (.hit ⟨2, "7"⟩ ⟨"ws-7"⟩ 59999)
    [.missed ⟨3, "7"⟩] ⟨2, "7"⟩ ⟨"ws-7"⟩ rfl rfl rfl
  rcases hhit with ⟨⟨_, he⟩, _⟩ | ⟨_, he, l', storedAt, htenant, hanswered, hmem, _, hfresh⟩
  · cases he
  · cases he
    exact ⟨l', storedAt, htenant, hanswered, hmem, hfresh⟩

/-! ## Lookups of an instance -/

section Instances

variable {lifetime : Duration} {s : CacheHistory} {i j : Instance}

/-- An instance remembers what the cache holds, and has the same clock. -/
structure Shows (s : CacheHistory) (i : Instance) : Prop where
  cache : i.cache = some s.cache
  now : i.now = s.now

theorem Shows.remembered (hi : s.Shows i) (tenant : String) :
    i.remembered tenant = s.cache.find? s.now tenant := by
  rw [Instance.remembered, hi.cache, hi.now]

theorem Shows.of_sameMemory (hi : s.Shows i) (hmemory : i.SameMemory j) (hnow : j.now = i.now) :
    s.Shows j :=
  ⟨hmemory.cache.trans hi.cache, hnow.trans hi.now⟩

/-- Time passes for an instance and its cache alike. -/
theorem Reachable.waits (h : s.Reachable lifetime) (hi : s.Shows i) (hmemory : i.SameMemory j)
    (hnow : i.now ≤ j.now) :
    Reachable lifetime { s with now := j.now } ∧ Shows { s with now := j.now } j :=
  ⟨h.step (.waits s (hi.now ▸ hnow)), hmemory.cache.trans hi.cache, rfl⟩

theorem Reachable.advance (h : s.Reachable lifetime) (hi : s.Shows i) (millis : Nat) :
    Reachable lifetime { s with now := (i.advance millis).now } ∧
      Shows { s with now := (i.advance millis).now } (i.advance millis) := by
  refine h.waits hi (i.sameMemory_advance millis) ?_
  rw [Instance.now_advance]
  exact Nat.le_add_right _ _

theorem Reachable.invalidate (h : s.Reachable lifetime) (hi : s.Shows i) (tenant : String) :
    ∃ s' : CacheHistory, s'.Reachable lifetime ∧ s'.Shows (i.invalidate tenant) ∧
      s'.past = s.past ++ [.invalidated tenant] := by
  refine ⟨_, h.step (.invalidates s tenant), ⟨?_, ?_⟩, rfl⟩
  · rw [Instance.cache_invalidate, hi.cache]
    rfl
  · exact (Instance.now_settle _).trans hi.now

/-- Nothing passes up to an instant that is over. -/
theorem Shows.moveTo (hi : s.Shows i) {instant : Nat} (hle : instant ≤ i.now) :
    s.Shows (i.moveTo instant) := by
  refine hi.of_sameMemory (i.sameMemory_moveTo _) ?_
  rw [Instance.now_moveTo]
  exact Nat.max_eq_left hle

theorem Shows.settle (hi : s.Shows i) : s.Shows i.settle :=
  hi.of_sameMemory i.sameMemory_settle i.now_settle

/-- The resolver answers after a while. -/
theorem Reachable.answers (h : s.Reachable lifetime) {l : Lookup}
    (hl : lastOf l s.past = some (.asked l)) (hi : s.Shows i) (instant : Nat)
    (answer : Except LookupFault Workspace) :
    let s' : CacheHistory := { s with
      now := (i.moveTo instant).now
      past := s.past ++ [.answered l answer] }
    s'.Reachable lifetime ∧ s'.Shows (i.moveTo instant) ∧
      lastOf l s'.past = some (.answered l answer) := by
  obtain ⟨hreach, hshows⟩ := h.waits hi (i.sameMemory_moveTo instant) (by
    rw [Instance.now_moveTo]
    exact Nat.le_max_left _ _)
  exact ⟨hreach.step (.answers answer hl), ⟨hshows.cache, rfl⟩, lastOf_snoc_of_own rfl⟩

theorem playToEnd_ask (i : Instance) (context : CallContext) (tenant : String) (t : Nat)
    (answer : Except LookupFault Workspace) :
    i.playToEnd context (WorkspaceAnswer.ask tenant (.after t answer)) =
      Instance.moveTo
        (match answer with
        | .ok workspace =>
          i.playTrace context i.now [(0, .lookup tenant), (t, .found tenant workspace)]
        | .error _ => i.playTrace context i.now [(0, .lookup tenant)]) (i.now + t) := by
  rw [Instance.playToEnd, RelationshipSide.trace_ask, RelationshipSide.ending_ask]
  cases answer <;> rfl

/-- An instance remembers the answer that a lookup stores. -/
theorem Reachable.finds (h : s.Reachable lifetime) {l : Lookup} {workspace : Workspace}
    (hl : lastOf l s.past = some (.answered l (.ok workspace))) (hi : s.Shows i)
    (context : CallContext) :
    let s' : CacheHistory := { s with
      cache := s.cache.store s.now l.tenant workspace
      past := s.past ++ [.stored l workspace s.now] }
    s'.Reachable lifetime ∧ s'.Shows (i.act context (.found l.tenant workspace)) := by
  refine ⟨h.step (.stores hl), ?_, hi.now⟩
  rw [Instance.cache_act_found, hi.cache, hi.now]
  rfl

/-- A lookup that misses goes by the answer of the resolver. -/
theorem Reachable.ask (h : s.Reachable lifetime) {tenant : String}
    (hfind : s.cache.find? s.now tenant = none) (hi : s.Shows i) (context : CallContext)
    (reply : Reply (Except LookupFault Workspace)) :
    ∃ s' : CacheHistory, s'.Reachable lifetime ∧
      s'.Shows (i.play context (WorkspaceAnswer.ask tenant reply)).1 ∧
      ∀ t answer, reply = .after t answer →
        ∃ e ∈ s'.past, e.lookup? = some ⟨s.begun, tenant⟩ ∧ e.result? = some answer := by
  let l : Lookup := ⟨s.begun, tenant⟩
  let s₂ : CacheHistory := { s with
    begun := s.begun + 1
    past := s.past ++ [.missed l] ++ [.asked l] }
  have hasked : s₂.Reachable lifetime :=
    (h.step (.misses s hfind)).step (.asks (lastOf_snoc_of_own rfl))
  have hlast : lastOf l s₂.past = some (.asked l) := lastOf_snoc_of_own rfl
  let j : Instance := (i.moveTo (i.now + 0)).act context (.lookup tenant)
  have hj : s₂.Shows j :=
    have hmoved := hi.moveTo (Nat.le_refl (i.now + 0))
    ⟨hmoved.cache, hmoved.now⟩
  cases reply with
  | silent => exact ⟨s₂, hasked, hj.settle, nofun⟩
  | after t answer =>
    obtain ⟨hanswered, hshows, hanswer⟩ := hasked.answers hlast hj (i.now + t) answer
    cases answer with
    | error fault =>
      refine ⟨_, hanswered.step (.fails hanswer), ?_, fun t' answer' he => ?_⟩
      · rw [Instance.play, playToEnd_ask]
        exact Shows.settle ⟨hshows.cache, hshows.now⟩
      · cases he
        exact ⟨_, List.mem_append_right _ List.mem_cons_self, rfl, rfl⟩
    | ok workspace =>
      obtain ⟨hstored, hfound⟩ := hanswered.finds hanswer hshows context
      refine ⟨_, hstored, ?_, fun t' answer' he => ?_⟩
      · rw [Instance.play, playToEnd_ask]
        refine (hfound.moveTo ?_).settle
        rw [Instance.now_act, Instance.now_moveTo]
        exact Nat.le_max_right _ _
      · cases he
        exact ⟨_, List.mem_append_right _ List.mem_cons_self, rfl, rfl⟩

/-- A lookup of an instance hits the cache, or asks the resolver and goes by its answer. -/
theorem Reachable.lookup (h : s.Reachable lifetime) (hi : s.Shows i) (context : CallContext)
    (tenant : String) :
    ∃ s' : CacheHistory, s'.Reachable lifetime ∧ s'.Shows (i.lookup context tenant).1 ∧
      ∀ t answer, (i.lookup context tenant).2 = some (t, answer) →
        ∃ e ∈ s'.past, e.lookup? = some ⟨s.begun, tenant⟩ ∧ e.result? = some answer := by
  rw [Instance.lookup, hi.remembered]
  cases hfind : s.cache.find? s.now tenant with
  | some workspace =>
    have hend := (hi.moveTo (Nat.le_refl (i.now + 0))).settle
    refine ⟨_, h.step (.hits s hfind), ⟨hend.cache, hend.now⟩, fun t answer hreturns => ?_⟩
    cases hreturns
    exact ⟨_, List.mem_append_right _ List.mem_cons_self, rfl, rfl⟩
  | none =>
    obtain ⟨s', hreach, hshows, hresult⟩ :=
      h.ask hfind hi context (i.services.workspace tenant)
    refine ⟨s', hreach, hshows, fun t answer hreturns => hresult t answer ?_⟩
    rw [Instance.play, Services.workspaceAnswer, WorkspaceAnswer.obtain,
      RelationshipSide.ending_ask] at hreturns
    cases hreply : i.services.workspace tenant with
    | silent =>
      rw [hreply] at hreturns
      cases hreturns
    | after t' answer' =>
      rw [hreply] at hreturns
      cases hreturns
      rfl

end Instances

end CacheHistory

end ScopedAccess
