import TupleStore.Cache.Basic
import TupleStore.Named

/-!
# Cache managers

A manager knows the caches by name.  A cache which was not configured is created
with the default configuration when it is asked for, unless this is forbidden.
-/

namespace TupleStore.Cache

structure Manager where
  defaults : Configuration := {}
  /-- Whether caches are created when they are asked for. -/
  createsMissing : Bool := true
  /-- The caches by name, sorted. -/
  caches : List (String × Cache) := []
  deriving DecidableEq, Repr

namespace Manager

def cache (manager : Manager) (name : String) : Option Cache × Manager :=
  match Named.get? manager.caches name with
  | some cache => (some cache, manager)
  | none =>
      if manager.createsMissing then
        let cache : Cache := ⟨name, manager.defaults⟩
        (some cache, { manager with caches := Named.insert name cache manager.caches })
      else (none, manager)

def names (manager : Manager) : List String := manager.caches.map Prod.fst

end Manager

structure Builder where
  writer : Writer := {}
  defaults : Configuration := {}
  /-- The configurations of single caches, sorted by name. -/
  configured : List (String × Configuration) := []
  createsMissing : Bool := true
  countsUsage : Bool := false
  deriving DecidableEq, Repr

namespace Builder

def withDefaults (builder : Builder) (defaults : Configuration) : Builder :=
  { builder with defaults }

def withConfiguration (builder : Builder) (name : String) (config : Configuration) : Builder :=
  { builder with configured := Named.insert name config builder.configured }

def withConfigurations (builder : Builder) (configs : List (String × Configuration)) :
    Builder :=
  configs.foldl (fun builder (name, config) => builder.withConfiguration name config) builder

/-- Configures caches by the defaults set so far. -/
def withInitial (builder : Builder) (names : List String) : Builder :=
  builder.withConfigurations (names.map fun name => (name, builder.defaults))

def withWriter (builder : Builder) (writer : Writer) : Builder := { builder with writer }

def withoutCreation (builder : Builder) : Builder := { builder with createsMissing := false }

def withStatistics (builder : Builder) : Builder := { builder with countsUsage := true }

def build (builder : Builder) : Manager × Writer :=
  let caches := builder.configured.map fun (name, config) => (name, (⟨name, config⟩ : Cache))
  (⟨builder.defaults, builder.createsMissing, caches⟩,
    if builder.countsUsage then { builder.writer with collector := .create }
    else builder.writer)

end Builder

end TupleStore.Cache
