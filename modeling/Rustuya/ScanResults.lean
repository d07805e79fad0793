import Mathlib.Data.List.Nodup
import Rustuya.FreshDiscovery
import Rustuya.ScanCompleteness

/-!
# What a scan returns

A stream yields no device twice, and what it yields has stood in the cache under its own id
when the stream read it. It may have stood there for too long: only a packet removes what has
expired, and most readers do not look at the age of what they read.
-/
namespace ScanResults

open Scanner ThreadPool TransitionSystem

section Streams

variable {s : ScannerState} {st st' : ScanStream} {a : Input}

def items (st : ScanStream) : List DiscoveryResult :=
  match st.point with
  | .yielding items _ => items
  | _ => []

def reading : StreamPoint → Bool
  | .initialRead | .readNew | .finalRead => true
  | _ => false

def goesOn : StreamPoint → Bool
  | .yielding _ (.finish _) | .ended _ => false
  | _ => true

def taken (st : ScanStream) (s : ScannerState) : List DiscoveryResult :=
  match st.point with
  | .initialRead => s.cache
  | .readNew | .finalRead => st.unyielded s
  | _ => []

/-- What a step of a stream can do: go on by itself, read the cache, or yield. -/
inductive StreamEffect (s : ScannerState) (st : ScanStream) : ScanStream → Prop where
  | goes (point : StreamPoint) (hbefore : items st = []) (hafter : items (st.at point) = [])
      (hpoint : point ≠ .initialRead) (hgoes : goesOn point = true → goesOn st.point = true) :
      StreamEffect s st (st.at point)
  | reads (after : AfterItems) (hreading : reading st.point = true) :
      StreamEffect s st { st with readAt := s.additions, point := .yielding (taken st s) after }
  | yields (item : DiscoveryResult) (rest : List DiscoveryResult) (after : AfterItems)
      (hpoint : st.point = .yielding (item :: rest) after) :
      StreamEffect s st (st.yield item rest after)

theorem read_effect {after : AfterItems} (hreading : reading st.point = true)
    (h : st.read s (taken st s) after = some st') : StreamEffect s st st' := by
  rw [ScanStream.read] at h
  split at h <;> cases h
  exact .reads after hreading

theorem stream_effect (h : st.step s a = some st') : StreamEffect s st st' := by
  have hread : ∀ after, reading st.point = true → st.read s (taken st s) after = some st' →
      StreamEffect s st st' := fun _ => read_effect
  cases a with
  | go =>
    cases hpoint : st.point with
    | yielding waiting after =>
      cases waiting with
      | nil =>
        simp only [ScanStream.step, hpoint] at h
        cases h
        refine .goes _ (by rw [items, hpoint]) ?_ ?_ ?_ <;> cases after <;> simp [AfterItems.point,
          items, ScanStream.at, goesOn, hpoint]
      | cons item rest =>
        simp only [ScanStream.step, hpoint] at h
        cases h
        exact .yields item rest after hpoint
    | initialRead | readNew | finalRead =>
      simp only [ScanStream.step, hpoint] at h
      simp only [hpoint, reading, taken] at hread
      exact hread _ trivial h
    | checkTimeout =>
      simp only [ScanStream.step, hpoint] at h
      split at h <;> cases h
      · exact .goes _ (by rw [items, hpoint]) rfl (by simp) (by simp [goesOn])
      · exact .goes _ (by rw [items, hpoint]) rfl (by simp) (by simp [goesOn, hpoint])
    | register remaining =>
      simp only [ScanStream.step, hpoint] at h
      cases h
      exact .goes _ (by rw [items, hpoint]) rfl (by simp) (by simp [goesOn, hpoint])
    | select deadline created =>
      simp only [ScanStream.step, hpoint] at h
      split at h <;> cases h
      exact .goes _ (by rw [items, hpoint]) rfl (by simp) (by simp [goesOn, hpoint])
    | loadActive =>
      simp only [ScanStream.step, hpoint] at h
      cases h
      split <;> exact .goes _ (by rw [items, hpoint]) rfl (by simp) (by simp [goesOn, hpoint])
    | ended cached =>
      simp only [ScanStream.step, hpoint] at h
      cases h
  | elapsed =>
    cases hpoint : st.point with
    | select deadline created =>
      simp only [ScanStream.step, hpoint] at h
      split at h <;> cases h
      exact .goes _ (by rw [items, hpoint]) rfl (by simp) (by simp [goesOn])
    | _ =>
      simp only [ScanStream.step, hpoint] at h
      cases h
  | sockets available => cases h
  | packet res => cases h

theorem taken_subset {v : DiscoveryResult} (h : v ∈ taken st s) : v ∈ s.cache := by
  unfold taken at h
  split at h
  · exact h
  · exact List.mem_of_mem_filter h
  · exact List.mem_of_mem_filter h
  · cases h

end Streams

section Threads

variable {s s' : ScannerState} {t t' : Thread} {a : Input} {new : List Thread}
  {p q : Pool ScannerState Thread} {e : Act Thread Input Outside}

theorem scanStreamInstance_starts (timeout : Nat) (point : StreamCall) :
    (∀ u ∈ (scanStreamInstance s timeout point).2.2, ∃ task, u = .scan task) ∧
      ∀ st, (scanStreamInstance s timeout point).2.1 = .stream st →
        ∃ start, st = .new timeout start := by
  cases point with
  | loadActive start | checkCooldown start =>
    rw [scanStreamInstance]
    split <;> simp [eq_comm]
  | spawn start => simp [scanStreamInstance, eq_comm]
  | _ => simp [scanStreamInstance]

theorem step_starts (h : t.step s a = some (s', t', new)) : ∀ u ∈ new, ∃ task, u = .scan task := by
  cases t with
  | streamCall timeout point =>
    cases a with
    | go =>
      have hstarts := (scanStreamInstance_starts (s := s) timeout point).1
      rw [Option.some.inj h] at hstarts
      exact hstarts
    | _ => cases h
  | discover call =>
    change call.step s a = _ at h
    cases discover_effect h with
    | spawns hpoint => simp
    | _ => simp
  | stream st | scan task | listener notifying =>
    obtain ⟨after, -, hafter⟩ := Option.map_eq_some_iff.mp h
    cases hafter
    exact List.forall_mem_nil _

theorem step_stream {st' : ScanStream} (h : t.step s a = some (s', .stream st', new)) :
    (∃ st, t = .stream st ∧ st.step s a = some st') ∨
      ∃ timeout start, st' = .new timeout start := by
  cases t with
  | stream st =>
    obtain ⟨st'', hstep, hafter⟩ := Option.map_eq_some_iff.mp h
    cases hafter
    exact .inl ⟨st, rfl, hstep⟩
  | streamCall timeout point =>
    cases a with
    | go =>
      have hbecomes := (scanStreamInstance_starts (s := s) timeout point).2
      rw [Option.some.inj h] at hbecomes
      exact .inr ⟨timeout, hbecomes st' rfl⟩
    | _ => cases h
  | discover call =>
    change call.step s a = _ at h
    cases discover_effect h
  | scan task | listener notifying =>
    obtain ⟨after, -, hafter⟩ := Option.map_eq_some_iff.mp h
    cases hafter

theorem next_stream {i : Nat} {st' : ScanStream} (h : behaviour.next p e = some q)
    (hst : q.threads[i]? = some (.stream st')) :
    p.threads[i]? = some (.stream st') ∨
    (∃ a st, e = .advance i a ∧ p.threads[i]? = some (.stream st) ∧
      st.step p.shared a = some st') ∨
    ∃ timeout start, st' = .new timeout start := by
  rcases next_thread_origin h hst with hsame | ⟨a, t, s, new, he, ht, hstep, -⟩ |
    ⟨t, a, s, t', new, hstep, hnew⟩ | hentry
  · exact .inl hsame
  · rcases step_stream hstep with ⟨st, rfl, hst'⟩ | hbecomes
    · exact .inr (.inl ⟨a, st, he, ht, hst'⟩)
    · exact .inr (.inr hbecomes)
  · obtain ⟨task, hscan⟩ := step_starts hstep _ hnew
    cases hscan
  · cases hentry

end Threads

section Distinct

def Keyed (s : ScannerState) : Prop := s.ids.Nodup

theorem get_of_mem {s : ScannerState} (h : Keyed s) {v : DiscoveryResult} (hv : v ∈ s.cache) :
    s.get v.id = some v := by
  cases hget : s.get v.id with
  | none =>
    have hmissing := List.find?_eq_none.mp hget v hv
    exact absurd (decide_eq_true rfl) hmissing
  | some u =>
    obtain ⟨hu, hid⟩ := FreshDiscovery.get_mem hget
    rw [List.inj_on_of_nodup_map h hu hv hid]

theorem keyed_filter {s : ScannerState} (h : Keyed s) (keep : DiscoveryResult → Bool) :
    ((s.cache.filter keep).map DiscoveryResult.id).Nodup :=
  h.sublist (List.filter_sublist.map _)

theorem keyed_insert {s : ScannerState} (h : Keyed s) (res : DiscoveryResult) :
    Keyed (s.insert res) := by
  unfold Keyed ScannerState.ids ScannerState.insert
  rw [List.map_cons, List.nodup_cons]
  constructor
  · intro hmem
    obtain ⟨v, hv, hid⟩ := List.mem_map.mp hmem
    exact absurd hid (of_decide_eq_true (List.mem_filter.mp hv).2)
  · rw [List.filter_filter]
    exact keyed_filter h _

theorem next_keyed {p q : Pool ScannerState Thread} {e : Act Thread Input Outside}
    (h : behaviour.next p e = some q) (hp : Keyed p.shared) : Keyed q.shared := by
  cases e with
  | advance i a =>
    obtain ⟨t, s, t', new, -, hstep, rfl⟩ := next_advance h
    cases step_cacheEffect hstep with
    | kept hother hsame =>
      unfold Keyed ScannerState.ids
      rw [hsame.cache]
      exact hp
    | inserts res ha hafter ht =>
      subst hafter
      exact keyed_insert hp res
    | releases hafter ht =>
      subst hafter
      exact hp
  | enter t =>
    obtain ⟨-, rfl⟩ := next_enter h
    exact hp
  | outside k =>
    obtain ⟨s, hs, rfl⟩ := next_outside h
    rcases outside_eq_some hs with ⟨n, rfl⟩ | ⟨deviceId, rfl⟩
    · exact hp
    · exact keyed_filter hp _

/-- The stream has yielded no device twice and is not going to, its set of yielded ids is
complete as long as it reads the cache, and what it has read is as `Read` says. -/
structure Tidy (Read : DiscoveryResult → Prop) (st : ScanStream) : Prop where
  distinct : ((st.yielded ++ items st).map DiscoveryResult.id).Nodup
  recorded : goesOn st.point = true → ∀ v ∈ st.yielded, v.id ∈ st.yieldedIds
  begins : st.point = .initialRead → st.yielded = []
  read : ∀ v ∈ st.yielded ++ items st, Read v

variable {s : ScannerState} {st st' : ScanStream} {a : Input} {Read Read' : DiscoveryResult → Prop}

theorem tidy_mono (hmono : ∀ v, Read v → Read' v) (h : Tidy Read st) : Tidy Read' st :=
  ⟨h.distinct, h.recorded, h.begins, fun v hv => hmono v (h.read v hv)⟩

theorem tidy_new (timeout start : Nat) : Tidy Read (.new timeout start) := by
  constructor <;> simp [ScanStream.new, items]

theorem goesOn_of_reading {point : StreamPoint} (h : reading point = true) :
    goesOn point = true := by
  cases point <;> first | rfl | cases h

theorem taken_fresh (h : Tidy Read st) {v : DiscoveryResult} (hv : v ∈ taken st s) :
    v.id ∉ st.yielded.map DiscoveryResult.id := by
  intro hmem
  obtain ⟨u, hu, hid⟩ := List.mem_map.mp hmem
  have hunyielded : goesOn st.point = true → v ∉ st.unyielded s := by
    intro hgoes hin
    exact of_decide_eq_true (List.mem_filter.mp hin).2 (hid ▸ h.recorded hgoes u hu)
  unfold taken at hv
  split at hv
  next hpoint =>
    rw [h.begins hpoint] at hu
    cases hu
  next hpoint => exact hunyielded (by rw [hpoint]; rfl) hv
  next hpoint => exact hunyielded (by rw [hpoint]; rfl) hv
  next => cases hv

theorem taken_distinct (h : Keyed s) : ((taken st s).map DiscoveryResult.id).Nodup := by
  unfold taken
  split
  · exact h
  · exact keyed_filter h _
  · exact keyed_filter h _
  · exact List.nodup_nil

theorem tidy_reads (hkeyed : Keyed s) (h : Tidy Read st) (hreading : reading st.point = true)
    (htaken : ∀ v ∈ s.cache, Read v) (after : AfterItems) :
    Tidy Read { st with readAt := s.additions, point := .yielding (taken st s) after } := by
  constructor
  · change ((st.yielded ++ taken st s).map _).Nodup
    have hyielded := h.distinct
    rw [List.map_append] at hyielded ⊢
    refine hyielded.of_append_left.append (taken_distinct hkeyed) ?_
    intro id hold hnew
    obtain ⟨v, hv, rfl⟩ := List.mem_map.mp hnew
    exact taken_fresh h hv hold
  · intro _
    exact h.recorded (goesOn_of_reading hreading)
  · intro hpoint
    cases hpoint
  · intro v hv
    rcases List.mem_append.mp hv with hold | hnew
    · exact h.read v (List.mem_append_left _ hold)
    · exact htaken v (taken_subset hnew)

theorem tidy_yields {item : DiscoveryResult} {rest : List DiscoveryResult} {after : AfterItems}
    (h : Tidy Read st) (hpoint : st.point = .yielding (item :: rest) after) :
    Tidy Read (st.yield item rest after) := by
  have hitems : st.yielded ++ items st = (st.yielded ++ [item]) ++ rest := by
    rw [items, hpoint, List.append_assoc, List.singleton_append]
  constructor
  · change (((st.yielded ++ [item]) ++ rest).map _).Nodup
    rw [← hitems]
    exact h.distinct
  · intro hgoes v hv
    have hrecorded := h.recorded (by rw [hpoint]; cases after <;> exact hgoes)
    have hids : (st.yield item rest after).yieldedIds = item.id :: st.yieldedIds := by
      cases after with
      | wait | checkActive => rfl
      | finish cached => cases hgoes
    rw [hids, List.mem_cons]
    rcases List.mem_append.mp hv with hold | hnew
    · exact .inr (hrecorded v hold)
    · exact .inl (congrArg _ (List.mem_singleton.mp hnew))
  · intro hinitial
    cases hinitial
  · change ∀ v ∈ (st.yielded ++ [item]) ++ rest, Read v
    rw [← hitems]
    exact h.read

theorem tidy_step (hkeyed : Keyed s) (h : Tidy Read st)
    (htaken : reading st.point = true → ∀ v ∈ s.cache, Read v) (hstep : st.step s a = some st') :
    Tidy Read st' := by
  cases stream_effect hstep with
  | goes point hbefore hafter hpoint hgoes =>
    have hsame : (st.at point).yielded ++ items (st.at point) = st.yielded ++ items st := by
      rw [hbefore, hafter]
      rfl
    refine ⟨?_, fun hgoesOn => h.recorded (hgoes hgoesOn), fun hinitial => absurd hinitial hpoint,
      ?_⟩
    · rw [hsame]
      exact h.distinct
    · rw [hsame]
      exact h.read
  | reads after hreading => exact tidy_reads hkeyed h hreading (htaken hreading) after
  | yields item rest after hpoint => exact tidy_yields h hpoint

/-- In the run, the thread `i` has read the cache when `v` was stored there under its id. -/
def ReadIn (es : List (Act Thread Input Outside)) (i : Nat) (v : DiscoveryResult) : Prop :=
  ∃ fs a gs p st, es = fs ++ .advance i a :: gs ∧
    Execution behaviour.next (fun _ _ => True) initial fs p ∧
    p.threads[i]? = some (.stream st) ∧ reading st.point = true ∧ p.shared.get v.id = some v

theorem readIn_append {es : List (Act Thread Input Outside)} {i : Nat} {v : DiscoveryResult}
    (e : Act Thread Input Outside) (h : ReadIn es i v) : ReadIn (es ++ [e]) i v := by
  obtain ⟨fs, a, gs, p, st, rfl, hfs, hst, hread, hget⟩ := h
  exact ⟨fs, a, gs ++ [e], p, st, by simp, hfs, hst, hread, hget⟩

/-- In every run, a stream yields no device twice, and each of its items was a cache entry
under its own id when the stream read it. -/
theorem stream_yields_once {es : List (Act Thread Input Outside)} {p : Pool ScannerState Thread}
    (h : Execution behaviour.next (fun _ _ => True) initial es p) {i : Nat} {st : ScanStream}
    (hst : p.threads[i]? = some (.stream st)) :
    (st.yielded.map DiscoveryResult.id).Nodup ∧ ∀ v ∈ st.yielded, ReadIn es i v := by
  have hinvariant : Keyed p.shared ∧
      ∀ i st, p.threads[i]? = some (.stream st) → Tidy (ReadIn es i) st := by
    refine h.history (P := fun es p => Keyed p.shared ∧
      ∀ i st, p.threads[i]? = some (.stream st) → Tidy (ReadIn es i) st) ?_ ?_
    · exact ⟨List.nodup_nil, fun i st hst => by cases hst⟩
    · intro es p e q hrun _ hnext ⟨hkeyed, htidy⟩
      refine ⟨next_keyed hnext hkeyed, fun i st' hst' => ?_⟩
      rcases next_stream hnext hst' with hsame | ⟨a, st, he, hold, hstep⟩ | ⟨timeout, start, rfl⟩
      · exact tidy_mono (fun v => readIn_append e) (htidy i st' hsame)
      · refine tidy_step hkeyed (tidy_mono (fun v => readIn_append e) (htidy i st hold)) ?_ hstep
        intro hreading v hv
        exact ⟨es, a, [], p, st, by rw [he], hrun, hold, hreading, get_of_mem hkeyed hv⟩
      · exact tidy_new timeout start
  have htidy := hinvariant.2 i st hst
  have hdistinct := htidy.distinct
  rw [List.map_append] at hdistinct
  exact ⟨hdistinct.of_append_left, fun v hv => htidy.read v (List.mem_append_left _ hv)⟩

open ScanCompleteness in
def movedLamp : DiscoveryResult := { lamp with ip := "192.168.0.11" }

open ScanCompleteness in
def movingSteps : List (Act Thread Input Outside) :=
  streamSteps ++ emptyReadSteps ++ [.advance 0 .go] ++ lampSteps ++
    List.replicate 7 (.advance 0 .go)
    ++ [.advance 2 (.packet movedLamp), .advance 2 .go] ++ List.replicate 4 (.advance 0 .go)

open ScanCompleteness in
theorem moved_device_yielded_once :
    ∃ p st, run behaviour.next initial movingSteps = some p ∧
      p.threads[0]? = some (.stream st) ∧ st.yielded = [lamp] ∧ p.shared.cache = [movedLamp] ∧
      (st.yielded.map DiscoveryResult.id).Nodup ∧ ReadIn movingSteps 0 lamp := by
  obtain ⟨p, hrun, hobserved⟩ : ∃ p, run behaviour.next initial movingSteps = some p ∧
      ((streamOf p).map fun st => st.yielded, p.shared.cache) = (some [lamp], [movedLamp]) :=
    Option.map_eq_some_iff.mp (by decide +kernel)
  obtain ⟨hyielded, hcache⟩ := Prod.mk.inj hobserved
  obtain ⟨st, hst, hlamp⟩ := Option.map_eq_some_iff.mp hyielded
  have hthread : p.threads[0]? = some (.stream st) := by
    obtain ⟨t, ht, hstream⟩ := Option.bind_eq_some_iff.mp hst
    rw [← List.head?_eq_getElem?, ht]
    cases t <;> cases hstream
    rfl
  obtain ⟨hdistinct, hread⟩ := stream_yields_once (execution_of_run (fun _ _ => trivial) hrun)
    hthread
  exact ⟨p, st, hrun, hthread, hlamp, hcache, hdistinct,
    hread lamp (hlamp ▸ List.mem_singleton_self _)⟩

end Distinct

section Expiry

variable {s s' : ScannerState} {t t' : Thread} {a : Input} {new : List Thread}
  {p q : Pool ScannerState Thread} {e : Act Thread Input Outside}
  {es : List (Act Thread Input Outside)}

def Unexpired (s : ScannerState) (v : DiscoveryResult) : Prop :=
  s.elapsed v.discoveredAt ≤ cacheTtl

instance (s : ScannerState) (v : DiscoveryResult) : Decidable (Unexpired s v) :=
  inferInstanceAs (Decidable (_ ≤ _))

/-- A scan within the last 30 minutes lets `check_cache_and_cooldown` return an entry of any
age. -/
def coolingDown (s : ScannerState) : Bool :=
  match s.lastScanTime with
  | some last => decide (s.elapsed last < globalScanCooldown)
  | none => false

/-- The next section of a thread reads the cache without a look at the age of what it finds. -/
def peeks (s : ScannerState) : Thread → Bool
  | .stream st => reading st.point
  | .discover d =>
    match d.point with
    | .checkCache => !d.forceScan && coolingDown s
    | .readCache _ | .lastRead => true
    | _ => false
  | _ => false

/-- What the next section of a thread looks for and finds in the cache. -/
def sought (s : ScannerState) : Thread → List DiscoveryResult
  | .stream st => taken st s
  | .discover d => (s.get d.deviceId).toList
  | _ => []

def returns (d d' : DiscoverCall) : List DiscoveryResult :=
  match d'.point with
  | .returned (some r) => if d.point = d'.point then [] else [r]
  | _ => []

/-- What a step of a thread hands to its caller: what a call returns, and what a stream
yields. -/
def handed : Thread → Thread → List DiscoveryResult
  | .discover d, .discover d' => returns d d'
  | .stream st, .stream st' => st'.yielded.drop st.yielded.length
  | _, _ => []

/-- Whenever the cache is read without a look at the age, what is sought there has not expired
since the last packet swept it, and time does not run out for what a stream has read and not
yet yielded. -/
structure InTime (p : Pool ScannerState Thread) (e : Act Thread Input Outside) : Prop where
  swept : ∀ i a t, e = .advance i a → p.threads[i]? = some t → peeks p.shared t = true →
    ∀ v ∈ sought p.shared t, Unexpired p.shared v
  held : ∀ n (i : Nat) st, e = .outside (.tick n) → p.threads[i]? = some (.stream st) →
    ∀ v ∈ items st, p.shared.clock + n - v.discoveredAt ≤ cacheTtl

theorem step_clock (h : t.step s a = some (s', t', new)) : s'.clock = s.clock := by
  cases t with
  | streamCall timeout point =>
    cases a with
    | go =>
      have hclock : (scanStreamInstance s timeout point).1.clock = s.clock := by
        cases point with
        | loadActive start | checkCooldown start =>
          rw [scanStreamInstance]
          split <;> rfl
        | _ => rfl
      rw [Option.some.inj h] at hclock
      exact hclock
    | _ => cases h
  | stream st =>
    obtain ⟨st', -, hafter⟩ := Option.map_eq_some_iff.mp h
    cases hafter
    rfl
  | discover call =>
    change call.step s a = _ at h
    cases discover_effect h <;> rfl
  | scan task =>
    obtain ⟨after, hstep, hafter⟩ := Option.map_eq_some_iff.mp h
    cases hafter
    unfold ScanTask.step at hstep
    split at hstep
    · cases hstep
      rfl
    · split at hstep <;> cases hstep
      rfl
    · cases hstep
      rfl
    · cases hstep
      rfl
    · cases hstep
  | listener notifying =>
    obtain ⟨after, hstep, hafter⟩ := Option.map_eq_some_iff.mp h
    cases hafter
    rcases passiveListener_eq_some hstep with ⟨res, -, rfl⟩ | rfl <;> rfl

theorem next_clock (h : behaviour.next p e = some q) :
    q.shared.clock = p.shared.clock ∨
      ∃ n, e = .outside (.tick n) ∧ q.shared.clock = p.shared.clock + n := by
  cases e with
  | advance i a =>
    obtain ⟨t, s, t', new, -, hstep, rfl⟩ := next_advance h
    exact .inl (step_clock hstep)
  | enter t =>
    obtain ⟨-, rfl⟩ := next_enter h
    exact .inl rfl
  | outside k =>
    obtain ⟨s, hs, rfl⟩ := next_outside h
    cases k with
    | tick n =>
      cases hs
      exact .inr ⟨n, rfl, rfl⟩
    | invalidate deviceId =>
      rw [show behaviour.outside = outside from rfl, outside] at hs
      split at hs <;> cases hs
      exact .inl rfl

theorem unexpired_of_clock {v : DiscoveryResult} (hclock : s'.clock = s.clock)
    (h : Unexpired s v) : Unexpired s' v := by
  unfold Unexpired ScannerState.elapsed at h ⊢
  rw [hclock]
  exact h

theorem checkCacheAndCooldown_returns {deviceId : String} {forceScan : Bool} {r : DiscoveryResult}
    (h : checkCacheAndCooldown s deviceId forceScan = some r) :
    s.get deviceId = some r ∧ (s.elapsed r.discoveredAt < globalScanCooldown ∨
      forceScan = false ∧ coolingDown s = true) := by
  unfold checkCacheAndCooldown at h
  split at h
  · cases h
  next hforce =>
    rw [Bool.not_eq_true] at hforce
    split at h
    next res last hget hlast =>
      split at h
      next hage =>
        cases h
        refine ⟨hget, hage.imp_right fun hrecent => ⟨hforce, ?_⟩⟩
        rw [coolingDown, hlast]
        exact decide_eq_true hrecent
      · cases h
    next res hget hlast =>
      split at h
      next hage =>
        cases h
        exact ⟨hget, .inl hage⟩
      · cases h
    · cases h

theorem handed_self (t : Thread) : handed t t = [] := by
  cases t with
  | discover d =>
    change returns d d = []
    unfold returns
    split
    · exact if_pos rfl
    · rfl
  | stream st => exact List.drop_length
  | _ => rfl

theorem discover_hands {d : DiscoverCall} {v : DiscoveryResult}
    (h : d.step s a = some (s', t', new)) (hv : v ∈ handed (.discover d) t') :
    peeks s (.discover d) = true ∧ v ∈ sought s (.discover d) ∨
      s.elapsed v.discoveredAt < globalScanCooldown := by
  obtain ⟨d', rfl⟩ : ∃ d', t' = .discover d' := by
    cases discover_effect h <;> exact ⟨_, rfl⟩
  obtain ⟨r, hr, hvr⟩ : ∃ r, d'.point = .returned (some r) ∧ v = r := by
    change v ∈ returns d d' at hv
    unfold returns at hv
    split at hv
    next r hpoint =>
      split at hv
      · cases hv
      · exact ⟨r, hpoint, List.mem_singleton.mp hv⟩
    · cases hv
  subst hvr
  rcases discover_returns h hr with ⟨hpoint, hcheck⟩ | ⟨hpoint, hget⟩
  · obtain ⟨hget, hyoung | ⟨hforce, hcooling⟩⟩ := checkCacheAndCooldown_returns hcheck
    · exact .inr hyoung
    · left
      refine ⟨?_, Option.mem_toList.mpr hget⟩
      simp [peeks, hpoint, hforce, hcooling]
  · left
    refine ⟨?_, Option.mem_toList.mpr hget⟩
    rcases hpoint with ⟨start, hpoint⟩ | hpoint <;> simp [peeks, hpoint]

theorem stream_hands {st : ScanStream} {v : DiscoveryResult}
    (h : Thread.step s (.stream st) a = some (s', t', new)) (hv : v ∈ handed (.stream st) t') :
    v ∈ items st := by
  obtain ⟨st', hstep, hafter⟩ := Option.map_eq_some_iff.mp h
  cases hafter
  change v ∈ st'.yielded.drop st.yielded.length at hv
  cases stream_effect hstep with
  | goes point hbefore hafter hpoint hgoes =>
    change v ∈ st.yielded.drop st.yielded.length at hv
    rw [List.drop_length] at hv
    cases hv
  | reads after hreading =>
    change v ∈ st.yielded.drop st.yielded.length at hv
    rw [List.drop_length] at hv
    cases hv
  | yields item rest after hpoint =>
    change v ∈ (st.yielded ++ [item]).drop st.yielded.length at hv
    rw [List.drop_left' rfl] at hv
    rw [items, hpoint, List.mem_singleton.mp hv]
    exact List.mem_cons_self

def ItemsFresh (p : Pool ScannerState Thread) : Prop :=
  ∀ (i : Nat) st, p.threads[i]? = some (.stream st) → ∀ v ∈ items st, Unexpired p.shared v

theorem step_itemsFresh (hallowed : InTime p e) (h : behaviour.next p e = some q)
    (hp : ItemsFresh p) : ItemsFresh q := by
  intro i st' hst' v hv
  rcases next_stream h hst' with hsame | ⟨a, st, he, hold, hstep⟩ | ⟨timeout, start, rfl⟩
  · rcases next_clock h with hclock | ⟨n, he, hclock⟩
    · exact unexpired_of_clock hclock (hp i st' hsame v hv)
    · have hheld := hallowed.held n i st' he hsame v hv
      unfold Unexpired ScannerState.elapsed
      rw [hclock]
      exact hheld
  · have hclock : q.shared.clock = p.shared.clock := by
      rcases next_clock h with hclock | ⟨n, htick, -⟩
      · exact hclock
      · rw [he] at htick
        cases htick
    refine unexpired_of_clock hclock ?_
    cases stream_effect hstep with
    | goes point hbefore hafter hpoint hgoes =>
      rw [hafter] at hv
      cases hv
    | reads after hreading => exact hallowed.swept i a _ he hold hreading v hv
    | yields item rest after hpoint =>
      refine hp i st hold v ?_
      rw [items, hpoint]
      exact List.mem_cons_of_mem item hv
  · cases hv

/-- In every run in which what expires is swept before somebody asks for it and streams are
followed in time, no call of `discover_device_internal` returns and no stream yields an entry
that has expired. -/
theorem results_unexpired (hrun : Execution behaviour.next InTime initial es p)
    (hallowed : InTime p e) (h : behaviour.next p e = some q) {i : Nat}
    (ht : p.threads[i]? = some t) (ht' : q.threads[i]? = some t') :
    ∀ v ∈ handed t t', Unexpired q.shared v := by
  have hfresh : ItemsFresh p :=
    hrun.invariant (P := ItemsFresh) (fun _ _ _ => step_itemsFresh) fun i st hst => by cases hst
  intro v hv
  rcases next_thread h ht with hsame | ⟨a, s, u, new, he, hstep, hshared, hu⟩
  · obtain rfl : t = t' := Option.some.inj (hsame.symm.trans ht')
    rw [handed_self] at hv
    cases hv
  obtain rfl : u = t' := Option.some.inj (hu.symm.trans ht')
  refine unexpired_of_clock (hshared ▸ step_clock hstep) ?_
  have hswept := hallowed.swept i a t he ht
  cases t with
  | stream st => exact hfresh i st ht v (stream_hands hstep hv)
  | discover d =>
    rcases discover_hands hstep hv with ⟨hpeeks, hsought⟩ | hyoung
    · exact hswept hpeeks v hsought
    · exact hyoung.le.trans (by decide)
  | _ => cases hv

section Sample

open ScanCompleteness in
def lookupSteps (n : Nat) : List (Act Thread Input Outside) :=
  [.enter (.listener false), .advance 0 (.packet lamp), .advance 0 .go, .outside (.tick n),
    .enter (.discover ⟨lamp.id, true, defaultScanTimeout, .checkCache⟩)] ++
    List.replicate 6 (.advance 1 .go)

def inTime (p : Pool ScannerState Thread) : Act Thread Input Outside → Bool
  | .advance i _ =>
    match p.threads[i]? with
    | some t => !peeks p.shared t ||
      (sought p.shared t).all fun v => decide (Unexpired p.shared v)
    | none => true
  | .outside (.tick n) => p.threads.all fun t =>
    match t with
    | .stream st => (items st).all fun v => decide (p.shared.clock + n - v.discoveredAt ≤ cacheTtl)
    | _ => true
  | _ => true

theorem inTime_sound (h : inTime p e = true) : InTime p e := by
  constructor
  · rintro i a t rfl ht hpeeks v hv
    rw [inTime, ht] at h
    dsimp only at h
    rw [hpeeks, Bool.not_true, Bool.false_or] at h
    exact of_decide_eq_true (List.all_eq_true.mp h v hv)
  · rintro n i st rfl hst v hv
    have hstream := List.all_eq_true.mp h _ (List.mem_of_getElem? hst)
    exact of_decide_eq_true (List.all_eq_true.mp hstream v hv)

def lookup (point : DiscoverPoint) : Thread :=
  .discover ⟨ScanCompleteness.lamp.id, true, defaultScanTimeout, point⟩

open ScanCompleteness in
theorem recent_entry_returned :
    ∃ p q, run (guarded inTime behaviour.next) initial (lookupSteps 3600000) = some p ∧
      behaviour.next p (.advance 1 .go) = some q ∧
      q.threads[1]? = some (lookup (.returned (some lamp))) ∧ Unexpired q.shared lamp := by
  obtain ⟨p, hrun, hobserved⟩ : ∃ p,
      run (guarded inTime behaviour.next) initial (lookupSteps 3600000) = some p ∧
      (p.threads[1]?, inTime p (.advance 1 .go), (behaviour.next p (.advance 1 .go)).map
        fun q => q.threads[1]?) = (some (lookup (.readCache 3600000)), true,
          some (some (lookup (.returned (some lamp))))) :=
    Option.map_eq_some_iff.mp (by decide +kernel)
  simp only [Prod.mk.injEq] at hobserved
  obtain ⟨hbefore, hallowed, hafter⟩ := hobserved
  obtain ⟨q, hnext, hreturned⟩ := Option.map_eq_some_iff.mp hafter
  refine ⟨p, q, hrun, hnext, hreturned, ?_⟩
  exact results_unexpired (execution_of_guarded_run (fun _ _ => inTime_sound) hrun)
    (inTime_sound hallowed) hnext hbefore hreturned lamp (by decide)

open ScanCompleteness in
/-- No packet comes for 25 hours, and the entry is returned all the same, to a forced call and
by a stream. -/
theorem expired_entry_returned :
    ∃ p st, run behaviour.next initial (lookupSteps 90000000 ++ [.advance 1 .go] ++
        [.enter (.streamCall defaultScanTimeout .begin)] ++ List.replicate 4 (.advance 3 .go))
          = some p ∧
      p.shared.clock = 90000000 ∧
      p.threads[1]? = some (lookup (.returned (some lamp))) ∧
      p.threads[3]? = some (.stream st) ∧ st.yielded = [lamp] ∧ ¬ Unexpired p.shared lamp := by
  obtain ⟨p, hrun, hobserved⟩ : ∃ p, run behaviour.next initial (lookupSteps 90000000 ++
        [.advance 1 .go] ++ [.enter (.streamCall defaultScanTimeout .begin)] ++
        List.replicate 4 (.advance 3 .go)) = some p ∧
      (p.shared.clock, p.threads[1]?, p.threads[3]?, decide (Unexpired p.shared lamp))
        = (90000000, some (lookup (.returned (some lamp))),
          some (.stream ⟨defaultScanTimeout, 90000000, [lamp.id], [lamp], 1, .yielding [] .wait⟩),
          false) := Option.map_eq_some_iff.mp (by decide +kernel)
  simp only [Prod.mk.injEq] at hobserved
  obtain ⟨hclock, hcall, hstream, hexpired⟩ := hobserved
  exact ⟨p, _, hrun, hclock, hcall, hstream, rfl, of_decide_eq_false hexpired⟩

end Sample

end Expiry

end ScanResults
