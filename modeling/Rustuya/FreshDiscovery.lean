import Rustuya.Scanner

/-!
# Forced discoveries

A forced call of `discover_device_internal` passes over the cache at first. It then waits for
the device to appear in the cache, and does not ask whether it was there before the call. What
it returns has come in since the call began exactly if the device was not in the cache then.
-/
namespace FreshDiscovery

open Scanner ThreadPool TransitionSystem

def forced (deviceId : String) (timeout : Nat) (point : DiscoverPoint) : Thread :=
  .discover ⟨deviceId, true, timeout, point⟩

def inserted : Act Thread Input Outside → List DiscoveryResult
  | .advance _ (.packet res) => [res]
  | _ => []

def insertions (es : List (Act Thread Input Outside)) : List DiscoveryResult := es.flatMap inserted

section Steps

variable {s s' : ScannerState} {t t' : Thread} {a : Input} {new : List Thread}
  {r : DiscoveryResult}

theorem mem_insert {res : DiscoveryResult} (h : r ∈ (s.insert res).cache) :
    r ∈ s.cache ∨ r = res := by
  rcases List.mem_cons.mp h with rfl | hlive
  · exact .inr rfl
  · exact .inl (List.mem_of_mem_filter (List.mem_of_mem_filter hlive))

theorem step_cache (h : t.step s a = some (s', t', new)) (hr : r ∈ s'.cache) :
    r ∈ s.cache ∨ a = .packet r := by
  cases step_cacheEffect h with
  | kept hother hsame =>
    rw [hsame.cache] at hr
    exact .inl hr
  | inserts res ha hafter ht =>
    subst hafter
    rcases mem_insert hr with hold | rfl
    · exact .inl hold
    · exact .inr ha
  | releases hafter ht =>
    subst hafter
    exact .inl hr

theorem outside_cache {k : Outside} (h : Scanner.outside s k = some s') (hr : r ∈ s'.cache) :
    r ∈ s.cache := by
  rcases outside_eq_some h with ⟨n, rfl⟩ | ⟨deviceId, rfl⟩
  · exact hr
  · exact List.mem_of_mem_filter hr

theorem outside_locked {k : Outside} (h : Scanner.outside s k = some s') :
    s'.cacheLocked = s.cacheLocked := by
  rcases outside_eq_some h with ⟨n, rfl⟩ | ⟨deviceId, rfl⟩
  · rfl
  · rfl

theorem next_cache {p q : Pool ScannerState Thread} {e : Act Thread Input Outside}
    (h : behaviour.next p e = some q) (hr : r ∈ q.shared.cache) :
    r ∈ p.shared.cache ∨ r ∈ inserted e := by
  cases e with
  | advance i a =>
    obtain ⟨t, s, t', new, -, hstep, rfl⟩ := next_advance h
    rcases step_cache hstep hr with hold | rfl
    · exact .inl hold
    · exact .inr (List.mem_singleton_self r)
  | enter t =>
    obtain ⟨-, rfl⟩ := next_enter h
    exact .inl hr
  | outside k =>
    obtain ⟨s, hs, rfl⟩ := next_outside h
    exact .inl (outside_cache hs hr)

theorem forced_step {deviceId : String} {timeout : Nat} {point : DiscoverPoint}
    (h : (forced deviceId timeout point).step s a = some (s', t', new)) :
    ∃ point', t' = forced deviceId timeout point' ∧
      ∀ r, point' = .returned (some r) → s.get deviceId = some r := by
  have hstep : DiscoverCall.step ⟨deviceId, true, timeout, point⟩ s a = some (s', t', new) := h
  obtain ⟨point', rfl⟩ : ∃ point', t' = forced deviceId timeout point' := by
    cases discover_effect hstep <;> exact ⟨_, rfl⟩
  refine ⟨point', rfl, fun r hr => ?_⟩
  rcases discover_returns hstep hr with ⟨-, hcheck⟩ | ⟨-, hget⟩
  · rw [checkCacheAndCooldown, if_pos rfl] at hcheck
    cases hcheck
  · exact hget

end Steps

section Runs

variable {p q : Pool ScannerState Thread} {e : Act Thread Input Outside}
  {es : List (Act Thread Input Outside)} {deviceId : String} {timeout i : Nat}
  {found : List DiscoveryResult} {r : DiscoveryResult}

theorem get_mem {s : ScannerState} (h : s.get deviceId = some r) :
    r ∈ s.cache ∧ r.id = deviceId := by
  have hid := List.find?_some h
  exact ⟨List.mem_of_find?_eq_some h, of_decide_eq_true hid⟩

/-- The entries of the device in the cache are among `found`, and so is what the call has
returned. -/
structure Fresh (deviceId : String) (timeout i : Nat) (found : List DiscoveryResult)
    (p : Pool ScannerState Thread) : Prop where
  cache : ∀ r ∈ p.shared.cache, r.id = deviceId → r ∈ found
  call : ∃ point, p.threads[i]? = some (forced deviceId timeout point) ∧
    ∀ r, point = .returned (some r) → r ∈ found

theorem fresh_step (h : behaviour.next p e = some q) (hp : Fresh deviceId timeout i found p) :
    Fresh deviceId timeout i (found ++ inserted e) q := by
  constructor
  · intro r hr hid
    rcases next_cache h hr with hold | hnew
    · exact List.mem_append_left _ (hp.cache r hold hid)
    · exact List.mem_append_right _ hnew
  · obtain ⟨point, hcall, hreturned⟩ := hp.call
    rcases next_thread h hcall with hsame | ⟨a, s, t', new, -, hstep, -, hcall'⟩
    · exact ⟨point, hsame, fun r hr => List.mem_append_left _ (hreturned r hr)⟩
    · obtain ⟨point', rfl, hget⟩ := forced_step hstep
      refine ⟨point', hcall', fun r hr => List.mem_append_left _ ?_⟩
      obtain ⟨hmem, hid⟩ := get_mem (hget r hr)
      exact hp.cache r hmem hid

theorem fresh_enter (hnone : p.shared.get deviceId = none) :
    Fresh deviceId timeout p.threads.length []
      ⟨p.shared, p.threads ++ [forced deviceId timeout .checkCache]⟩ := by
  constructor
  · intro r hr hid
    exact absurd (decide_eq_true hid) (List.find?_eq_none.mp hnone r hr)
  · exact ⟨_, List.getElem?_concat_length, fun r hr => by cases hr⟩

theorem returned_inserted {allowed : Pool ScannerState Thread → Act Thread Input Outside → Prop}
    (hrun : Execution behaviour.next allowed p
      (.enter (forced deviceId timeout .checkCache) :: es) q)
    (hnone : p.shared.get deviceId = none)
    (hreturned : q.threads[p.threads.length]?
      = some (forced deviceId timeout (.returned (some r)))) : r ∈ insertions es := by
  cases hrun with
  | cons _ henter hrest =>
    obtain ⟨-, rfl⟩ := next_enter henter
    have hfresh := hrest.accumulates (fun _ _ _ _ _ h => fresh_step h) (fresh_enter hnone)
    obtain ⟨point, hcall, hin⟩ := hfresh.call
    rw [hreturned] at hcall
    cases hcall
    exact hin r rfl

/-- The call, left to itself, returns `r`. -/
def Returns (s : ScannerState) (deviceId : String) (timeout : Nat) (point : DiscoverPoint)
    (r : DiscoveryResult) : Prop :=
  ∀ ts i, ts[i]? = some (forced deviceId timeout point) →
    ∃ n q, Execution behaviour.next (fun _ _ => True) ⟨s, ts⟩
        (List.replicate n (.advance i .go)) q ∧
      q.threads[i]? = some (forced deviceId timeout (.returned (some r)))

theorem Returns.step {s s' : ScannerState} {point point' : DiscoverPoint} (new : List Thread)
    (hstep : (forced deviceId timeout point).step s .go
      = some (s', forced deviceId timeout point', new))
    (h : Returns s' deviceId timeout point' r) : Returns s deviceId timeout point r := by
  intro ts i ht
  obtain ⟨hi, -⟩ := List.getElem?_eq_some_iff.mp ht
  obtain ⟨n, q, hrun, hq⟩ := h _ i (thread_advanced _ new hi)
  exact ⟨n + 1, q, .cons trivial (advance_next ht hstep) hrun, hq⟩

theorem returns_returned (s : ScannerState) :
    Returns s deviceId timeout (.returned (some r)) r :=
  fun _ _ ht => ⟨0, _, .nil _, ht⟩

theorem returns_wait {s : ScannerState} (hfree : s.cacheLocked = false)
    (hget : s.get deviceId = some r) : Returns s deviceId timeout .beginWait r := by
  have hread : (forced deviceId timeout (.readCache s.clock)).step s .go
      = some (s, forced deviceId timeout (.returned (some r)), []) := by
    simp only [forced, Thread.step, DiscoverCall.step, hfree, hget]
    rfl
  exact .step [] rfl (.step [] hread (returns_returned s))

theorem returns_swap {s : ScannerState} (hfree : s.cacheLocked = false)
    (hget : s.get deviceId = some r) : Returns s deviceId timeout .swapActive r := by
  have hswap : (forced deviceId timeout .swapActive).step s .go
      = some ({ s with activeScanning := true }, forced deviceId timeout
          (if s.activeScanning then .beginWait else .stamp), []) := rfl
  by_cases hactive : s.activeScanning = true
  · rw [if_pos hactive] at hswap
    exact .step [] hswap (returns_wait hfree hget)
  · rw [if_neg hactive] at hswap
    exact .step [] hswap (.step [] rfl (.step _ rfl (returns_wait hfree hget)))

theorem returns_cached {s : ScannerState} (hfree : s.cacheLocked = false)
    (hget : s.get deviceId = some r) : Returns s deviceId timeout .checkCache r := by
  have hpass : (forced deviceId timeout .checkCache).step s .go
      = some (s, forced deviceId timeout .readLastScan, []) := by
    simp only [forced, Thread.step, DiscoverCall.step, hfree]
    rfl
  have hthrottled : throttled s true = false := by
    unfold throttled
    split <;> rfl
  have hlast : (forced deviceId timeout .readLastScan).step s .go
      = some (s, forced deviceId timeout .swapActive, []) := by
    simp only [forced, Thread.step, DiscoverCall.step, hthrottled]
    rfl
  exact .step [] hpass (.step [] hlast (returns_swap hfree hget))

/-- The cache is only locked by a listener that is about to notify. -/
def LockHeld (p : Pool ScannerState Thread) : Prop :=
  p.shared.cacheLocked = true → Thread.listener true ∈ p.threads

theorem lockHeld_step (h : behaviour.next p e = some q) (hp : LockHeld p) : LockHeld q := by
  intro hlocked
  cases e with
  | advance i a =>
    obtain ⟨t, s, t', new, ht, hstep, rfl⟩ := next_advance h
    obtain ⟨hi, -⟩ := List.getElem?_eq_some_iff.mp ht
    cases step_cacheEffect hstep with
    | kept hother hsame =>
      obtain ⟨k, hk⟩ := List.getElem?_of_mem (hp (hsame.locked.symm.trans hlocked))
      rcases next_thread h hk with hkept | ⟨a', s', t'', new', he, -⟩
      · exact List.mem_of_getElem? hkept
      · cases he
        exact absurd (Option.some.inj (ht.symm.trans hk)) (hother true)
    | inserts res ha hafter hlistener =>
      subst hlistener
      exact List.mem_of_getElem? (thread_advanced _ new hi)
    | releases hafter hlistener =>
      subst hafter
      cases hlocked
  | enter t =>
    obtain ⟨-, rfl⟩ := next_enter h
    exact List.mem_append_left _ (hp hlocked)
  | outside k =>
    obtain ⟨s, hs, rfl⟩ := next_outside h
    exact hp ((outside_locked hs).symm.trans hlocked)

theorem lockHeld_run (h : Execution behaviour.next (fun _ _ => True) initial es p) : LockHeld p :=
  h.invariant (fun _ _ _ _ hstep => lockHeld_step hstep) (fun hlocked => by cases hlocked)

theorem unlock (hlock : LockHeld p) (t : Thread) :
    ∃ es q, Execution behaviour.next (fun _ _ => True) ⟨p.shared, p.threads ++ [t]⟩ es q ∧
      insertions es = [] ∧ q.shared.cacheLocked = false ∧ q.shared.cache = p.shared.cache ∧
      q.threads[p.threads.length]? = some t := by
  have ht : (p.threads ++ [t])[p.threads.length]? = some t := List.getElem?_concat_length
  by_cases hlocked : p.shared.cacheLocked = true
  · obtain ⟨k, hk⟩ := List.getElem?_of_mem (hlock hlocked)
    obtain ⟨hlt, -⟩ := List.getElem?_eq_some_iff.mp hk
    have hlistener : (p.threads ++ [t])[k]? = some (.listener true) := by
      rw [List.getElem?_append_left hlt]
      exact hk
    have hstep : behaviour.step p.shared (.listener true) .go
        = some ({ p.shared.notifyWaiters with cacheLocked := false }, .listener false, []) := rfl
    refine ⟨[.advance k .go], _, .cons trivial (advance_next hlistener hstep) (.nil _), rfl, rfl,
      rfl, ?_⟩
    rw [List.append_nil, List.getElem?_set_ne (Nat.ne_of_lt hlt)]
    exact ht
  · exact ⟨[], _, .nil _, rfl, Bool.eq_false_iff.mpr hlocked, rfl, ht⟩

theorem forced_returns_cached (timeout : Nat) (hlock : LockHeld p)
    (hget : p.shared.get deviceId = some r) :
    ∃ es q, Execution behaviour.next (fun _ _ => True) p
        (.enter (forced deviceId timeout .checkCache) :: es) q ∧
      q.threads[p.threads.length]? = some (forced deviceId timeout (.returned (some r))) ∧
      insertions es = [] := by
  obtain ⟨es, p', hunlock, hsilent, hfree, hcache, hcall⟩ :=
    unlock hlock (forced deviceId timeout .checkCache)
  have hget' : p'.shared.get deviceId = some r := by
    rw [ScannerState.get, hcache]
    exact hget
  obtain ⟨n, q, hrun, hreturned⟩ := returns_cached hfree hget' _ _ hcall
  have hgo : insertions (List.replicate n (.advance p.threads.length .go)) = [] := by
    refine List.flatMap_eq_nil_iff.mpr fun e he => ?_
    rw [List.eq_of_mem_replicate he]
    rfl
  refine ⟨_, q, .cons trivial (enter_next rfl) (hunlock.append hrun), hreturned, ?_⟩
  rw [insertions, List.flatMap_append]
  exact List.append_eq_nil_iff.mpr ⟨hsilent, hgo⟩

/-- The step puts nothing into the cache that was parsed before `start`. -/
def ParsedSince (start : Nat) (_ : Pool ScannerState Thread) (e : Act Thread Input Outside) :
    Prop :=
  ∀ res ∈ inserted e, start ≤ res.discoveredAt

theorem parsed_since {start : Nat}
    (hrun : Execution behaviour.next (ParsedSince start) p es q) :
    ∀ res ∈ insertions es, start ≤ res.discoveredAt := by
  induction hrun with
  | nil p =>
    intro res hres
    cases hres
  | cons hparsed _ _ ih =>
    intro res hres
    rw [insertions, List.flatMap_cons] at hres
    rcases List.mem_append.mp hres with hnow | hlater
    · exact hparsed res hnow
    · exact ih res hlater

/-- What forced calls return has always come into the cache since the call began exactly if
the device was not in the cache then. If it was not, and no packet that was parsed before is
put into the cache later, then it has not been discovered before the call either. -/
theorem forced_discovery_fresh_iff (deviceId : String) (timeout : Nat) (hlock : LockHeld p) :
    ((∀ es q r, Execution behaviour.next (fun _ _ => True) p
        (.enter (forced deviceId timeout .checkCache) :: es) q →
      q.threads[p.threads.length]? = some (forced deviceId timeout (.returned (some r))) →
      r ∈ insertions es) ↔ p.shared.get deviceId = none) ∧
    (p.shared.get deviceId = none → ∀ es q r,
      Execution behaviour.next (ParsedSince p.shared.clock) p
        (.enter (forced deviceId timeout .checkCache) :: es) q →
      q.threads[p.threads.length]? = some (forced deviceId timeout (.returned (some r))) →
      r ∈ insertions es ∧ p.shared.clock ≤ r.discoveredAt) := by
  refine ⟨⟨?_, ?_⟩, ?_⟩
  · intro hfresh
    by_contra hsome
    obtain ⟨r, hget⟩ := Option.ne_none_iff_exists'.mp hsome
    obtain ⟨es, q, hrun, hreturned, hsilent⟩ := forced_returns_cached timeout hlock hget
    have hin := hfresh es q r hrun hreturned
    rw [hsilent] at hin
    cases hin
  · intro hnone es q r hrun hreturned
    exact returned_inserted hrun hnone hreturned
  · intro hnone es q r hrun hreturned
    have hin := returned_inserted hrun hnone hreturned
    exact ⟨hin, parsed_since hrun r hin⟩

end Runs

section Sample

def lamp : DiscoveryResult := ⟨"bf0123", "192.168.0.10", some .v33, none, 5000⟩

def listenSteps : List (Act Thread Input Outside) :=
  [.enter (.listener false), .outside (.tick 5000)]

def lampSteps : List (Act Thread Input Outside) := [.advance 0 (.packet lamp), .advance 0 .go]

def parsedSince (start : Nat) (_ : Pool ScannerState Thread) (e : Act Thread Input Outside) :
    Bool :=
  (inserted e).all fun res => start ≤ res.discoveredAt

theorem parsedSince_allowed {start : Nat} {p : Pool ScannerState Thread}
    {e : Act Thread Input Outside} (h : parsedSince start p e = true) : ParsedSince start p e :=
  fun res hres => of_decide_eq_true (List.all_eq_true.mp h res hres)

theorem lamp_discovered_since_call :
    ∃ p q, run behaviour.next initial listenSteps = some p ∧ p.shared.clock = 5000 ∧
      run (guarded (parsedSince p.shared.clock) behaviour.next) p
        (.enter (forced "bf0123" defaultScanTimeout .checkCache) ::
          (List.replicate 9 (.advance 1 .go) ++ lampSteps ++ List.replicate 2 (.advance 1 .go)))
        = some q ∧
      q.threads[p.threads.length]?
        = some (forced "bf0123" defaultScanTimeout (.returned (some lamp))) ∧
      p.shared.clock ≤ lamp.discoveredAt := by
  obtain ⟨p, hstart, hobserved⟩ : ∃ p, run behaviour.next initial listenSteps = some p ∧
      (p.shared.clock, p.shared.get "bf0123",
        (run (guarded (parsedSince p.shared.clock) behaviour.next) p
          (.enter (forced "bf0123" defaultScanTimeout .checkCache) ::
            (List.replicate 9 (.advance 1 .go) ++ lampSteps ++
              List.replicate 2 (.advance 1 .go)))).map fun q => q.threads[p.threads.length]?)
      = (5000, none, some (some (forced "bf0123" defaultScanTimeout (.returned (some lamp))))) :=
    Option.map_eq_some_iff.mp (by decide +kernel)
  simp only [Prod.mk.injEq] at hobserved
  obtain ⟨hclock, hnone, hcall⟩ := hobserved
  obtain ⟨q, hrun, hreturned⟩ := Option.map_eq_some_iff.mp hcall
  have hlock := lockHeld_run (execution_of_run (fun _ _ => trivial) hstart)
  obtain ⟨-, hfresh⟩ := forced_discovery_fresh_iff "bf0123" defaultScanTimeout hlock
  exact ⟨p, q, hstart, hclock, hrun, hreturned, (hfresh hnone _ q lamp
    (execution_of_guarded_run (fun _ _ => parsedSince_allowed) hrun) hreturned).2⟩

/-- The lamp was heard of half an hour before the call, which starts a scan and returns what
it finds in the cache. -/
theorem stale_entry_returned :
    ∃ p q, run behaviour.next initial
        (listenSteps ++ lampSteps ++ [.outside (.tick globalScanCooldown)]) = some p ∧
      run behaviour.next p (.enter (forced "bf0123" defaultScanTimeout .checkCache) ::
        List.replicate 7 (.advance 1 .go)) = some q ∧
      q.threads[p.threads.length]?
        = some (forced "bf0123" defaultScanTimeout (.returned (some lamp))) ∧
      lamp.discoveredAt + globalScanCooldown = p.shared.clock ∧
      lamp ∉ insertions (List.replicate 7 (.advance 1 .go)) := by
  obtain ⟨p, hstart, hobserved⟩ : ∃ p, run behaviour.next initial
        (listenSteps ++ lampSteps ++ [.outside (.tick globalScanCooldown)]) = some p ∧
      (p.shared.clock, (run behaviour.next p
        (.enter (forced "bf0123" defaultScanTimeout .checkCache) ::
          List.replicate 7 (.advance 1 .go))).map fun q => q.threads[p.threads.length]?)
      = (5000 + globalScanCooldown,
          some (some (forced "bf0123" defaultScanTimeout (.returned (some lamp))))) :=
    Option.map_eq_some_iff.mp (by decide +kernel)
  simp only [Prod.mk.injEq] at hobserved
  obtain ⟨hclock, hcall⟩ := hobserved
  obtain ⟨q, hrun, hreturned⟩ := Option.map_eq_some_iff.mp hcall
  exact ⟨p, q, hstart, hrun, hreturned, hclock.symm, by decide⟩

end Sample

end FreshDiscovery
