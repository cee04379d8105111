import ScopedAccess.Duration
import ScopedAccess.NameMap
import ScopedAccess.Subject

/-!
# ScopedAccess.WorkspaceCache

Workspaces remembered by tenant for a limited time. Only successful lookups are remembered. Every
store drops the entries that have expired, so the cache never holds more than the tenants of one
such time.
-/

namespace ScopedAccess

/-- A workspace and the instant it was stored at. -/
structure StoredWorkspace where
  workspace : Workspace
  storedAt : Nat
deriving DecidableEq, Inhabited

/-- Remembered workspaces. -/
structure WorkspaceCache where
  lifetime : Duration
  entries : NameMap StoredWorkspace
deriving DecidableEq

namespace WorkspaceCache

/-- A cache that remembers nothing yet. -/
def create (lifetime : Duration) : WorkspaceCache := ⟨lifetime, .empty⟩

/-- Whether an entry still counts at an instant. -/
def isFresh (c : WorkspaceCache) (now : Nat) (e : StoredWorkspace) : Bool :=
  (now - e.storedAt) * 1000000 < c.lifetime.nanos

/-- The workspace remembered for a tenant. -/
def find? (c : WorkspaceCache) (now : Nat) (tenant : String) : Option Workspace :=
  match c.entries.find? tenant with
  | some e => if c.isFresh now e then some e.workspace else none
  | none => none

def sweep (c : WorkspaceCache) (now : Nat) : WorkspaceCache :=
  { c with entries := c.entries.keep (c.isFresh now) }

/-- Remembers the workspace of a tenant. -/
def store (c : WorkspaceCache) (now : Nat) (tenant : String) (workspace : Workspace) :
    WorkspaceCache :=
  { c.sweep now with entries := (c.sweep now).entries.insert tenant ⟨workspace, now⟩ }

def invalidate (c : WorkspaceCache) (tenant : String) : WorkspaceCache :=
  { c with entries := c.entries.erase tenant }

end WorkspaceCache

end ScopedAccess
