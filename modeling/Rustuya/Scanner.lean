import Rustuya.Protocol
import Rustuya.ThreadPool

/-!
# Scanning the network

The clones of a scanner share a cache of discovered devices, the flag of an active scan and
a notifier. Callers of `scan_stream_instance` and `discover_device_internal`, the tasks that
scan and the passive listener are threads of one pool; every load, store and swap and every
lock section is one step.

A future of the notifier is ready once `notify_waiters` has been called after its creation.
It is kept as the number of calls that it has missed.
-/
namespace Scanner

open Protocol ThreadPool

/-- Times are in milliseconds. -/
structure DiscoveryResult where
  id : String
  ip : String
  version : Option Version
  productKey : Option String
  discoveredAt : Nat
  deriving DecidableEq, Repr

def globalScanCooldown : Nat := 1800 * 1000
def scanThrottleInterval : Nat := 60 * 1000
def defaultScanTimeout : Nat := 18 * 1000
def cacheTtl : Nat := 24 * 60 * 60 * 1000

structure ScannerState where
  clock : Nat
  cache : List DiscoveryResult
  /-- The passive listener notifies while it still has the cache locked. -/
  cacheLocked : Bool
  /-- How often `notify_waiters` has been called. -/
  notifications : Nat
  activeScanning : Bool
  lastScanTime : Option Nat
  /-- How often a device has come into the cache that was not there; a record of the model. -/
  additions : Nat
  deriving DecidableEq, Repr

section Cache

variable (s : ScannerState)

def ScannerState.ids : List String := s.cache.map DiscoveryResult.id

def ScannerState.get (deviceId : String) : Option DiscoveryResult :=
  s.cache.find? fun v => v.id = deviceId

def ScannerState.elapsed (t : Nat) : Nat := s.clock - t

def ScannerState.insert (res : DiscoveryResult) : ScannerState :=
  let live := s.cache.filter fun v => s.elapsed v.discoveredAt < cacheTtl
  { s with
    cache := res :: live.filter fun v => v.id ≠ res.id
    additions := if res.id ∈ s.ids then s.additions else s.additions + 1 }

def ScannerState.invalidateCache (deviceId : String) : ScannerState :=
  { s with cache := s.cache.filter fun v => v.id ≠ deviceId }

def ScannerState.notifyWaiters : ScannerState := { s with notifications := s.notifications + 1 }

end Cache

/-- The task of a scan: `perform_discovery_loop`, and the two steps after it. -/
inductive ScanTask where
  | collectSockets (timeout : Nat)
  | broadcasting (timeout start : Nat)
  | clearActive
  | notify
  | done
  deriving DecidableEq, Repr

inductive StreamCall where
  | begin
  | loadActive (start : Nat)
  | checkCooldown (start : Nat)
  | storeActive (start : Nat)
  | stamp (start : Nat)
  | spawn (start : Nat)
  deriving DecidableEq, Repr

/-- Where a stream goes on after it has yielded what it has read. At the end of a finished
scan, the devices of the last reading are kept on record. -/
inductive AfterItems where
  | wait
  | checkActive
  | finish (cached : List String)
  deriving DecidableEq, Repr

inductive StreamPoint where
  | initialRead
  | yielding (items : List DiscoveryResult) (after : AfterItems)
  | checkTimeout
  | register (remaining : Nat)
  | select (deadline created : Nat)
  | readNew
  | loadActive
  | finalRead
  /-- The devices in the cache when the stream has decided to end are kept on record. -/
  | ended (cached : List String)
  deriving DecidableEq, Repr

def AfterItems.point : AfterItems → StreamPoint
  | .wait => .checkTimeout
  | .checkActive => .loadActive
  | .finish cached => .ended cached

structure ScanStream where
  timeout : Nat
  start : Nat
  yieldedIds : List String
  /-- What the consumer has been given. -/
  yielded : List DiscoveryResult
  /-- The number of additions at the last reading of the cache; a record of the model. -/
  readAt : Nat
  point : StreamPoint
  deriving DecidableEq, Repr

inductive DiscoverPoint where
  | checkCache
  | readLastScan
  | swapActive
  | stamp
  | spawn
  | beginWait
  | readCache (start : Nat)
  | checkTimeout (start : Nat)
  | register (start remaining : Nat)
  | wait (start deadline created : Nat)
  | lastRead
  | returned (res : Option DiscoveryResult)
  deriving DecidableEq, Repr

structure DiscoverCall where
  deviceId : String
  forceScan : Bool
  timeout : Nat
  point : DiscoverPoint
  deriving DecidableEq, Repr

inductive Thread where
  | streamCall (timeout : Nat) (point : StreamCall)
  | stream (st : ScanStream)
  | discover (call : DiscoverCall)
  | scan (task : ScanTask)
  | listener (notifying : Bool)
  deriving DecidableEq, Repr

/-- What a step depends on apart from the states: that a timer has fired, whether there is a
socket to broadcast on, and the packet received. -/
inductive Input where
  | go
  | elapsed
  | sockets (available : Bool)
  | packet (res : DiscoveryResult)
  deriving DecidableEq, Repr

inductive Outside where
  | tick (n : Nat)
  | invalidate (deviceId : String)
  deriving DecidableEq, Repr

section ScanStreams

def ScanStream.new (timeout start : Nat) : ScanStream :=
  ⟨timeout, start, [], [], 0, .initialRead⟩

def cooledDown (s : ScannerState) : Bool :=
  match s.lastScanTime with
  | none => true
  | some t => decide (globalScanCooldown ≤ s.elapsed t)

def scanStreamInstance (s : ScannerState) (timeout : Nat) :
    StreamCall → ScannerState × Thread × List Thread
  | .begin => (s, .streamCall timeout (.loadActive s.clock), [])
  | .loadActive start =>
    if s.activeScanning then (s, .stream (.new timeout start), [])
    else (s, .streamCall timeout (.checkCooldown start), [])
  | .checkCooldown start =>
    if cooledDown s then (s, .streamCall timeout (.storeActive start), [])
    else (s, .stream (.new timeout start), [])
  | .storeActive start =>
    ({ s with activeScanning := true }, .streamCall timeout (.stamp start), [])
  | .stamp start =>
    ({ s with lastScanTime := some s.clock }, .streamCall timeout (.spawn start), [])
  | .spawn start => (s, .stream (.new timeout start), [.scan (.collectSockets timeout)])

def ScanStream.at (st : ScanStream) (point : StreamPoint) : ScanStream := { st with point }

def ScanStream.read (st : ScanStream) (s : ScannerState) (items : List DiscoveryResult)
    (after : AfterItems) : Option ScanStream :=
  if s.cacheLocked then none
  else some { st with readAt := s.additions, point := .yielding items after }

def ScanStream.unyielded (st : ScanStream) (s : ScannerState) : List DiscoveryResult :=
  s.cache.filter fun v => v.id ∉ st.yieldedIds

/-- The last items are not entered into the set of yielded ids. -/
def ScanStream.yield (st : ScanStream) (item : DiscoveryResult) (rest : List DiscoveryResult)
    (after : AfterItems) : ScanStream :=
  { st with
    yieldedIds := match after with
      | .wait | .checkActive => item.id :: st.yieldedIds
      | .finish _ => st.yieldedIds
    yielded := st.yielded ++ [item]
    point := .yielding rest after }

def ScanStream.step (st : ScanStream) (s : ScannerState) : Input → Option ScanStream
  | .go =>
    match st.point with
    | .initialRead => st.read s s.cache .wait
    | .yielding (item :: rest) after => some (st.yield item rest after)
    | .yielding [] after => some (st.at after.point)
    | .checkTimeout =>
      if st.timeout ≤ s.elapsed st.start then some (st.at (.ended s.ids))
      else some (st.at (.register (st.timeout - s.elapsed st.start)))
    | .register remaining => some (st.at (.select (s.clock + remaining) s.notifications))
    | .select _ created => if created < s.notifications then some (st.at .readNew) else none
    | .readNew => st.read s (st.unyielded s) .checkActive
    | .loadActive => some (st.at (if s.activeScanning then .checkTimeout else .finalRead))
    | .finalRead => st.read s (st.unyielded s) (.finish s.ids)
    | .ended _ => none
  | .elapsed =>
    match st.point with
    | .select deadline _ => if deadline ≤ s.clock then some (st.at (.ended s.ids)) else none
    | _ => none
  | _ => none

end ScanStreams

section Discover

def DiscoverCall.at (d : DiscoverCall) (point : DiscoverPoint) : Thread :=
  .discover { d with point }

def checkCacheAndCooldown (s : ScannerState) (deviceId : String) (forceScan : Bool) :
    Option DiscoveryResult :=
  if forceScan then none
  else
    match s.get deviceId, s.lastScanTime with
    | some res, some last =>
      if s.elapsed res.discoveredAt < globalScanCooldown ∨ s.elapsed last < globalScanCooldown then
        some res
      else none
    | some res, none => if s.elapsed res.discoveredAt < globalScanCooldown then some res else none
    | none, _ => none

def throttled (s : ScannerState) (forceScan : Bool) : Bool :=
  match s.lastScanTime with
  | some last => !forceScan && decide (s.elapsed last < scanThrottleInterval)
  | none => false

/-- `discover_device_internal`, with `ensure_scan_started` and `wait_for_cache_result`. -/
def DiscoverCall.step (d : DiscoverCall) (s : ScannerState) :
    Input → Option (ScannerState × Thread × List Thread)
  | .go =>
    match d.point with
    | .checkCache =>
      if s.cacheLocked then none
      else
        match checkCacheAndCooldown s d.deviceId d.forceScan with
        | some res => some (s, d.at (.returned (some res)), [])
        | none => some (s, d.at .readLastScan, [])
    | .readLastScan =>
      some (s, d.at (if throttled s d.forceScan then .beginWait else .swapActive), [])
    | .swapActive =>
      some ({ s with activeScanning := true },
        d.at (if s.activeScanning then .beginWait else .stamp), [])
    | .stamp => some ({ s with lastScanTime := some s.clock }, d.at .spawn, [])
    | .spawn => some (s, d.at .beginWait, [.scan (.collectSockets d.timeout)])
    | .beginWait => some (s, d.at (.readCache s.clock), [])
    | .readCache start =>
      if s.cacheLocked then none
      else
        match s.get d.deviceId with
        | some res => some (s, d.at (.returned (some res)), [])
        | none => some (s, d.at (.checkTimeout start), [])
    | .checkTimeout start =>
      if d.timeout ≤ s.elapsed start ∨ s.activeScanning = false then some (s, d.at .lastRead, [])
      else some (s, d.at (.register start (d.timeout - s.elapsed start)), [])
    | .register start remaining =>
      some (s, d.at (.wait start (s.clock + remaining) s.notifications), [])
    | .wait start _ created =>
      if created < s.notifications then some (s, d.at (.readCache start), []) else none
    | .lastRead =>
      if s.cacheLocked then none else some (s, d.at (.returned (s.get d.deviceId)), [])
    | .returned _ => none
  | .elapsed =>
    match d.point with
    | .wait start deadline _ =>
      if deadline ≤ s.clock then some (s, d.at (.readCache start), []) else none
    | _ => none
  | _ => none

def DiscoverPoint.starting : DiscoverPoint → Bool
  | .stamp | .spawn => true
  | _ => false

inductive DiscoverEffect (s : ScannerState) (d : DiscoverCall) :
    ScannerState × Thread × List Thread → Prop where
  | goes (point : DiscoverPoint) (hbefore : d.point.starting = false)
      (hafter : point.starting = false) : DiscoverEffect s d (s, d.at point, [])
  | swaps (h : d.point = .swapActive) :
      DiscoverEffect s d ({ s with activeScanning := true },
        d.at (if s.activeScanning then .beginWait else .stamp), [])
  | stamps (h : d.point = .stamp) :
      DiscoverEffect s d ({ s with lastScanTime := some s.clock }, d.at .spawn, [])
  | spawns (h : d.point = .spawn) :
      DiscoverEffect s d (s, d.at .beginWait, [.scan (.collectSockets d.timeout)])

theorem discover_effect {s : ScannerState} {d : DiscoverCall} {a : Input}
    {after : ScannerState × Thread × List Thread} (h : d.step s a = some after) :
    DiscoverEffect s d after := by
  obtain ⟨deviceId, forceScan, timeout, point⟩ := d
  cases a with
  | go =>
    cases point <;> simp only [DiscoverCall.step] at h
    case checkCache =>
      split at h
      · cases h
      · split at h <;> cases h <;> exact .goes _ rfl rfl
    case readLastScan =>
      cases h
      refine .goes _ rfl ?_
      split <;> rfl
    case swapActive =>
      cases h
      exact .swaps rfl
    case stamp =>
      cases h
      exact .stamps rfl
    case spawn =>
      cases h
      exact .spawns rfl
    case beginWait =>
      cases h
      exact .goes _ rfl rfl
    case readCache start =>
      split at h
      · cases h
      · split at h <;> cases h <;> exact .goes _ rfl rfl
    case checkTimeout start => split at h <;> cases h <;> exact .goes _ rfl rfl
    case register start remaining =>
      cases h
      exact .goes _ rfl rfl
    case wait start deadline created =>
      split at h <;> cases h
      exact .goes _ rfl rfl
    case lastRead =>
      split at h <;> cases h
      exact .goes _ rfl rfl
    case returned res => cases h
  | elapsed =>
    cases point <;> simp only [DiscoverCall.step] at h
    case wait start deadline created =>
      split at h <;> cases h
      exact .goes _ rfl rfl
    all_goals cases h
  | sockets available => cases h
  | packet res => cases h

theorem discover_returns {s s' : ScannerState} {d d' : DiscoverCall} {a : Input}
    {new : List Thread} {r : DiscoveryResult} (h : d.step s a = some (s', .discover d', new))
    (hr : d'.point = .returned (some r)) :
    (d.point = .checkCache ∧ checkCacheAndCooldown s d.deviceId d.forceScan = some r) ∨
      ((∃ start, d.point = .readCache start) ∨ d.point = .lastRead) ∧
        s.get d.deviceId = some r := by
  obtain ⟨deviceId, forceScan, timeout, point⟩ := d
  cases a with
  | go =>
    cases point <;> simp only [DiscoverCall.step, DiscoverCall.at] at h
    case checkCache =>
      split at h
      · cases h
      · split at h
        next res hcheck =>
          cases h
          cases hr
          exact .inl ⟨rfl, hcheck⟩
        · cases h
          cases hr
    case readCache start =>
      split at h
      · cases h
      · split at h
        next res hget =>
          cases h
          cases hr
          exact .inr ⟨.inl ⟨start, rfl⟩, hget⟩
        · cases h
          cases hr
    case lastRead =>
      split at h <;> cases h
      exact .inr ⟨.inr rfl, DiscoverPoint.returned.inj hr⟩
    case readLastScan | swapActive =>
      cases h
      dsimp only at hr
      split at hr <;> cases hr
    case checkTimeout start | wait start deadline created =>
      split at h <;> cases h <;> cases hr
    all_goals
      cases h
      try cases hr
  | elapsed =>
    cases point <;> simp only [DiscoverCall.step, DiscoverCall.at] at h
    case wait start deadline created =>
      split at h <;> cases h
      cases hr
    all_goals cases h
  | sockets available => cases h
  | packet res => cases h

end Discover

section Tasks

/-- Without a socket the loop returns an error at once; otherwise it ends with its timeout. -/
def ScanTask.step (s : ScannerState) : ScanTask → Input → Option (ScannerState × ScanTask)
  | .collectSockets timeout, .sockets available =>
    some (s, if available then .broadcasting timeout s.clock else .clearActive)
  | .broadcasting timeout start, .elapsed =>
    if start + timeout ≤ s.clock then some (s, .clearActive) else none
  | .clearActive, .go => some ({ s with activeScanning := false }, .notify)
  | .notify, .go => some (s.notifyWaiters, .done)
  | _, _ => none

def passiveListener (s : ScannerState) : Bool → Input → Option (ScannerState × Bool)
  | false, .packet res =>
    if s.cacheLocked then none else some ({ s.insert res with cacheLocked := true }, true)
  | true, .go => some ({ s.notifyWaiters with cacheLocked := false }, false)
  | _, _ => none

end Tasks

def Thread.step (s : ScannerState) : Thread → Input → Option (ScannerState × Thread × List Thread)
  | .streamCall timeout point, .go => some (scanStreamInstance s timeout point)
  | .streamCall _ _, _ => none
  | .stream st, input => (st.step s input).map fun st' => (s, .stream st', [])
  | .discover call, input => call.step s input
  | .scan task, input => (task.step s input).map fun (s', task') => (s', .scan task', [])
  | .listener notifying, input =>
    (passiveListener s notifying input).map fun (s', notifying') => (s', .listener notifying', [])

def Thread.begins : Thread → Bool
  | .streamCall _ .begin | .listener false => true
  | .discover call => decide (call.point = .checkCache)
  | _ => false

def outside (s : ScannerState) : Outside → Option ScannerState
  | .tick n => some { s with clock := s.clock + n }
  | .invalidate deviceId => if s.cacheLocked then none else some (s.invalidateCache deviceId)

def behaviour : Behaviour ScannerState Thread Input Outside where
  step := Thread.step
  entry := Thread.begins
  outside := outside

section Effects

variable {s s' : ScannerState} {t t' : Thread} {a : Input} {new : List Thread}

theorem passiveListener_eq_some {notifying : Bool} {after : ScannerState × Bool}
    (h : passiveListener s notifying a = some after) :
    (∃ res, a = .packet res ∧ after = ({ s.insert res with cacheLocked := true }, true)) ∨
      after = ({ s.notifyWaiters with cacheLocked := false }, false) := by
  unfold passiveListener at h
  split at h
  · split at h <;> cases h
    exact .inl ⟨_, rfl, rfl⟩
  · cases h
    exact .inr rfl
  · cases h

theorem outside_eq_some {k : Outside} (h : outside s k = some s') :
    (∃ n, s' = { s with clock := s.clock + n }) ∨ ∃ deviceId, s' = s.invalidateCache deviceId := by
  cases k with
  | tick n =>
    cases h
    exact .inl ⟨n, rfl⟩
  | invalidate deviceId =>
    rw [outside] at h
    split at h <;> cases h
    exact .inr ⟨deviceId, rfl⟩

structure SameCache (s s' : ScannerState) : Prop where
  cache : s'.cache = s.cache
  locked : s'.cacheLocked = s.cacheLocked
  additions : s'.additions = s.additions

/-- What a step of a thread can do to the cache: a listener puts in a packet and keeps the
cache locked, a listener lets go of it, or another thread leaves it as it is. -/
inductive CacheEffect (s : ScannerState) (t : Thread) (a : Input) (s' : ScannerState)
    (t' : Thread) : Prop where
  | kept (hother : ∀ notifying, t ≠ .listener notifying) (hsame : SameCache s s')
  | inserts (res : DiscoveryResult) (ha : a = .packet res)
      (hafter : s' = { s.insert res with cacheLocked := true }) (ht : t' = .listener true)
  | releases (hafter : s' = { s.notifyWaiters with cacheLocked := false })
      (ht : t' = .listener false)

theorem scanStreamInstance_sameCache (timeout : Nat) (point : StreamCall) :
    SameCache s (scanStreamInstance s timeout point).1 := by
  cases point with
  | loadActive start | checkCooldown start =>
    rw [scanStreamInstance]
    split <;> exact ⟨rfl, rfl, rfl⟩
  | _ => exact ⟨rfl, rfl, rfl⟩

theorem discover_sameCache {d : DiscoverCall} (h : d.step s a = some (s', t', new)) :
    SameCache s s' := by
  cases discover_effect h <;> exact ⟨rfl, rfl, rfl⟩

theorem scanTask_sameCache {task : ScanTask} {after : ScannerState × ScanTask}
    (h : task.step s a = some after) : SameCache s after.1 := by
  unfold ScanTask.step at h
  split at h
  · cases h
    exact ⟨rfl, rfl, rfl⟩
  · split at h <;> cases h
    exact ⟨rfl, rfl, rfl⟩
  · cases h
    exact ⟨rfl, rfl, rfl⟩
  · cases h
    exact ⟨rfl, rfl, rfl⟩
  · cases h

theorem step_cacheEffect (h : t.step s a = some (s', t', new)) : CacheEffect s t a s' t' := by
  cases t with
  | streamCall timeout point =>
    cases a with
    | go =>
      have hsame := scanStreamInstance_sameCache (s := s) timeout point
      rw [Option.some.inj h] at hsame
      exact .kept (fun _ hl => by cases hl) hsame
    | _ => cases h
  | stream st =>
    obtain ⟨st', -, hafter⟩ := Option.map_eq_some_iff.mp h
    cases hafter
    exact .kept (fun _ hl => by cases hl) ⟨rfl, rfl, rfl⟩
  | discover call => exact .kept (fun _ hl => by cases hl) (discover_sameCache h)
  | scan task =>
    obtain ⟨after, hstep, hafter⟩ := Option.map_eq_some_iff.mp h
    cases hafter
    exact .kept (fun _ hl => by cases hl) (scanTask_sameCache hstep)
  | listener notifying =>
    obtain ⟨after, hstep, hafter⟩ := Option.map_eq_some_iff.mp h
    cases hafter
    rcases passiveListener_eq_some hstep with ⟨res, ha, rfl⟩ | rfl
    · exact .inserts res ha rfl rfl
    · exact .releases rfl rfl

end Effects

def initial : Pool ScannerState Thread := ⟨⟨0, [], false, 0, false, none, 0⟩, []⟩

end Scanner
