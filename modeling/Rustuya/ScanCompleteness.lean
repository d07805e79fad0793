import Rustuya.Scanner

/-!
# Streams that miss no device

A stream reads the cache when it begins, when it is notified, and once more when the scan is
over. What it has read it yields. Between two readings the listener may add devices, and a
notification that comes before the stream waits for it is lost. When the scan is over, the
last reading makes up for that. When its time is over, the stream ends without reading again.
-/
namespace ScanCompleteness

open Scanner TransitionSystem ThreadPool

section Due

def known (st : ScanStream) : List String := st.yielded.map DiscoveryResult.id

def pending (st : ScanStream) : List String :=
  match st.point with
  | .yielding items _ => items.map DiscoveryResult.id
  | _ => []

/-- The devices that the stream has to have yielded, or to yield before it goes on: those it
has decided to end with, and those in the cache as long as none has been added since it was
read. -/
def due (st : ScanStream) (s : ScannerState) : List String :=
  match st.point with
  | .initialRead => []
  | .yielding _ (.finish cached) => cached
  | .ended cached => cached
  | _ => if st.readAt = s.additions then s.ids else []

structure Sound (s : ScannerState) (st : ScanStream) : Prop where
  recorded : ∀ id ∈ st.yieldedIds, id ∈ known st
  read : st.readAt ≤ s.additions
  covered : ∀ id ∈ due st s, id ∈ known st ∨ id ∈ pending st

def timesOut (st : ScanStream) (s : ScannerState) : Input → Bool
  | .go =>
    match st.point with
    | .checkTimeout => decide (st.timeout ≤ s.elapsed st.start)
    | _ => false
  | .elapsed =>
    match st.point with
    | .select _ _ => true
    | _ => false
  | _ => false

end Due

section Growth

variable {s s' : ScannerState}

def Grows (s s' : ScannerState) : Prop :=
  s.additions ≤ s'.additions ∧ (s'.additions = s.additions → ∀ id ∈ s'.ids, id ∈ s.ids)

theorem grows_of_eq (hadditions : s'.additions = s.additions) (hcache : s'.cache = s.cache) :
    Grows s s' := by
  refine ⟨hadditions.ge, fun _ id hid => ?_⟩
  rw [ScannerState.ids, hcache] at hid
  exact hid

theorem insert_grows (res : DiscoveryResult) : Grows s (s.insert res) := by
  by_cases hold : res.id ∈ s.ids
  · have hadditions : (s.insert res).additions = s.additions := if_pos hold
    refine ⟨hadditions.ge, fun _ id hid => ?_⟩
    obtain ⟨v, hv, rfl⟩ := List.mem_map.mp hid
    rcases List.mem_cons.mp hv with rfl | hv
    · exact hold
    · have hlive := (List.mem_filter.mp (List.mem_filter.mp hv).1).1
      exact List.mem_map_of_mem hlive
  · have hadditions : (s.insert res).additions = s.additions + 1 := if_neg hold
    refine ⟨by omega, fun hsame => ?_⟩
    omega

theorem invalidateCache_grows (deviceId : String) : Grows s (s.invalidateCache deviceId) := by
  refine ⟨Nat.le_refl _, fun _ id hid => ?_⟩
  obtain ⟨v, hv, rfl⟩ := List.mem_map.mp hid
  exact List.mem_map_of_mem (List.mem_filter.mp hv).1

theorem step_grows {t : Thread} {a : Input} {after : ScannerState × Thread × List Thread}
    (h : t.step s a = some after) : Grows s after.1 := by
  obtain ⟨s', t', new⟩ := after
  cases step_cacheEffect h with
  | kept hother hsame => exact grows_of_eq hsame.additions hsame.cache
  | inserts res ha hafter ht =>
    subst hafter
    exact insert_grows res
  | releases hafter ht =>
    subst hafter
    exact grows_of_eq rfl rfl

theorem outside_grows {k : Outside} (h : Scanner.outside s k = some s') : Grows s s' := by
  rcases outside_eq_some h with ⟨n, rfl⟩ | ⟨deviceId, rfl⟩
  · exact grows_of_eq rfl rfl
  · exact invalidateCache_grows deviceId

theorem due_grows {st : ScanStream} (hgrows : Grows s s') (hread : st.readAt ≤ s.additions) :
    ∀ id ∈ due st s', id ∈ due st s := by
  intro id hid
  unfold due at hid ⊢
  split at hid
  · exact hid
  · exact hid
  · exact hid
  · split at hid
    next hsame =>
      have hkept : s'.additions = s.additions := Nat.le_antisymm (hsame ▸ hread) hgrows.1
      rw [if_pos (hsame.trans hkept)]
      exact hgrows.2 hkept id hid
    · cases hid

theorem sound_grows {st : ScanStream} (hgrows : Grows s s') (h : Sound s st) : Sound s' st :=
  ⟨h.recorded, h.read.trans hgrows.1, fun id hid => h.covered id (due_grows hgrows h.read id hid)⟩

end Growth

section Streams

variable {s : ScannerState} {st st' : ScanStream} {a : Input}

theorem sound_new (timeout start : Nat) : Sound s (.new timeout start) :=
  ⟨nofun, Nat.zero_le _, nofun⟩

theorem sound_at {point : StreamPoint} (h : Sound s st) (hpending : pending st = [])
    (hdue : ∀ id ∈ due (st.at point) s, id ∈ due st s) : Sound s (st.at point) := by
  refine ⟨h.recorded, h.read, fun id hid => .inl ?_⟩
  rcases h.covered id (hdue id hid) with hknown | hnone
  · exact hknown
  · rw [hpending] at hnone
    cases hnone

theorem sound_ended (h : Sound s st) (hpending : pending st = []) (hdue : due st s = s.ids) :
    Sound s (st.at (.ended s.ids)) :=
  sound_at h hpending fun _ hid => hdue ▸ hid

/-- After a reading, every device in the cache has been yielded or will be. -/
theorem sound_read {items : List DiscoveryResult} {after : AfterItems} (h : Sound s st)
    (hread : st.read s items after = some st')
    (hafter : after = .wait ∨ after = .checkActive ∨ after = .finish s.ids)
    (hitems : ∀ v ∈ s.cache, v.id ∈ known st ∨ v ∈ items) : Sound s st' := by
  rw [ScanStream.read] at hread
  split at hread <;> cases hread
  refine ⟨h.recorded, Nat.le_refl _, ?_⟩
  have hcovered : ∀ id ∈ s.ids, id ∈ known st ∨ id ∈ items.map DiscoveryResult.id := by
    intro id hid
    obtain ⟨v, hv, rfl⟩ := List.mem_map.mp hid
    rcases hitems v hv with hknown | hitem
    · exact .inl hknown
    · exact .inr (List.mem_map_of_mem hitem)
  intro id hid
  refine hcovered id ?_
  rcases hafter with rfl | rfl | rfl
  · simpa [due] using hid
  · simpa [due] using hid
  · exact hid

theorem mem_unyielded (h : Sound s st) : ∀ v ∈ s.cache, v.id ∈ known st ∨ v ∈ st.unyielded s := by
  intro v hv
  by_cases hyielded : v.id ∈ st.yieldedIds
  · exact .inl (h.recorded v.id hyielded)
  · exact .inr (List.mem_filter.mpr ⟨hv, decide_eq_true hyielded⟩)

theorem sound_yield {item : DiscoveryResult} {rest : List DiscoveryResult} {after : AfterItems}
    (h : Sound s st) (hpoint : st.point = .yielding (item :: rest) after) :
    Sound s (st.yield item rest after) := by
  have hknown : known (st.yield item rest after) = known st ++ [item.id] := by
    simp [known, ScanStream.yield]
  refine ⟨?_, h.read, ?_⟩
  · intro id hid
    rw [hknown, List.mem_append, List.mem_singleton]
    unfold ScanStream.yield at hid
    dsimp only at hid
    split at hid
    · rcases List.mem_cons.mp hid with rfl | hid
      · exact .inr rfl
      · exact .inl (h.recorded id hid)
    · rcases List.mem_cons.mp hid with rfl | hid
      · exact .inr rfl
      · exact .inl (h.recorded id hid)
    · exact .inl (h.recorded id hid)
  · intro id hid
    have hdue : id ∈ due st s := by
      unfold due at hid ⊢
      rw [hpoint]
      cases after <;> exact hid
    have hpending : pending st = item.id :: rest.map DiscoveryResult.id := by
      rw [pending, hpoint]
      rfl
    rw [hknown, List.mem_append, List.mem_singleton]
    rcases h.covered id hdue with hold | hnew
    · exact .inl (.inl hold)
    · rw [hpending] at hnew
      rcases List.mem_cons.mp hnew with rfl | hrest
      · exact .inl (.inr rfl)
      · exact .inr hrest

/-- A step of the stream, if it does not end for lack of time with the cache unread. -/
theorem sound_step (h : Sound s st) (hstep : st.step s a = some st')
    (htime : timesOut st s a = true → st.readAt = s.additions) : Sound s st' := by
  cases a with
  | go =>
    cases hpoint : st.point with
    | initialRead =>
      simp only [ScanStream.step, hpoint] at hstep
      exact sound_read h hstep (.inl rfl) fun v hv => .inr hv
    | yielding items after =>
      cases items with
      | nil =>
        simp only [ScanStream.step, hpoint] at hstep
        cases hstep
        refine sound_at h (by rw [pending, hpoint]; rfl) fun id hid => ?_
        rw [due, hpoint]
        cases after <;> exact hid
      | cons item rest =>
        simp only [ScanStream.step, hpoint] at hstep
        cases hstep
        exact sound_yield h hpoint
    | checkTimeout =>
      simp only [ScanStream.step, hpoint] at hstep
      split at hstep <;> cases hstep
      next hover =>
        have hread := htime (by simp only [timesOut, hpoint, decide_eq_true hover])
        exact sound_ended h (by rw [pending, hpoint]) (by rw [due, hpoint]; exact if_pos hread)
      next =>
        exact sound_at h (by rw [pending, hpoint]) (by rw [due, due, hpoint]; exact fun _ => id)
    | register remaining =>
      simp only [ScanStream.step, hpoint] at hstep
      cases hstep
      exact sound_at h (by rw [pending, hpoint]) (by rw [due, due, hpoint]; exact fun _ => id)
    | select deadline created =>
      simp only [ScanStream.step, hpoint] at hstep
      split at hstep <;> cases hstep
      exact sound_at h (by rw [pending, hpoint]) (by rw [due, due, hpoint]; exact fun _ => id)
    | readNew =>
      simp only [ScanStream.step, hpoint] at hstep
      exact sound_read h hstep (.inr (.inl rfl)) (mem_unyielded h)
    | loadActive =>
      simp only [ScanStream.step, hpoint] at hstep
      cases hstep
      refine sound_at h (by rw [pending, hpoint]) ?_
      split <;> (rw [due, due, hpoint]; exact fun _ => id)
    | finalRead =>
      simp only [ScanStream.step, hpoint] at hstep
      exact sound_read h hstep (.inr (.inr rfl)) (mem_unyielded h)
    | ended cached =>
      simp only [ScanStream.step, hpoint] at hstep
      cases hstep
  | elapsed =>
    cases hpoint : st.point with
    | select deadline created =>
      simp only [ScanStream.step, hpoint] at hstep
      split at hstep <;> cases hstep
      have hread := htime (by simp only [timesOut, hpoint])
      exact sound_ended h (by rw [pending, hpoint]) (by rw [due, hpoint]; exact if_pos hread)
    | _ =>
      simp only [ScanStream.step, hpoint] at hstep
      cases hstep
  | sockets available => cases hstep
  | packet res => cases hstep

end Streams

section Runs

variable {p q : Pool ScannerState Thread} {e : Act Thread Input Outside}
  {es : List (Act Thread Input Outside)}

/-- A stream whose time is over has read the cache since the last device was added to it. -/
def UpToDate (p : Pool ScannerState Thread) (e : Act Thread Input Outside) : Prop :=
  ∀ i a st, e = .advance i a → p.threads[i]? = some (.stream st) →
    timesOut st p.shared a = true → st.readAt = p.shared.additions

def SoundThread (s : ScannerState) : Thread → Prop
  | .stream st => Sound s st
  | _ => True

theorem scanStream_starts {s : ScannerState} (timeout : Nat) (point : StreamCall) :
    SoundThread (scanStreamInstance s timeout point).1 (scanStreamInstance s timeout point).2.1 ∧
      ∀ u ∈ (scanStreamInstance s timeout point).2.2,
        SoundThread (scanStreamInstance s timeout point).1 u := by
  cases point with
  | loadActive start =>
    rw [scanStreamInstance]
    split
    · exact ⟨sound_new timeout start, List.forall_mem_nil _⟩
    · exact ⟨trivial, List.forall_mem_nil _⟩
  | checkCooldown start =>
    rw [scanStreamInstance]
    split
    · exact ⟨trivial, List.forall_mem_nil _⟩
    · exact ⟨sound_new timeout start, List.forall_mem_nil _⟩
  | spawn start =>
    refine ⟨sound_new timeout start, fun u hu => ?_⟩
    obtain rfl := List.mem_singleton.mp hu
    trivial
  | _ => exact ⟨trivial, List.forall_mem_nil _⟩

theorem thread_sound {s : ScannerState} {t : Thread} {a : Input}
    {after : ScannerState × Thread × List Thread} (h : t.step s a = some after)
    (hsound : SoundThread s t)
    (htime : ∀ st, t = .stream st → timesOut st s a = true → st.readAt = s.additions) :
    SoundThread after.1 after.2.1 ∧ ∀ u ∈ after.2.2, SoundThread after.1 u := by
  cases t with
  | streamCall timeout point =>
    cases a with
    | go =>
      cases h
      exact scanStream_starts timeout point
    | _ => cases h
  | stream st =>
    obtain ⟨st', hst', rfl⟩ := Option.map_eq_some_iff.mp h
    exact ⟨sound_step hsound hst' (htime st rfl), List.forall_mem_nil _⟩
  | discover call =>
    cases discover_effect h with
    | spawns hpoint =>
      refine ⟨trivial, fun u hu => ?_⟩
      obtain rfl := List.mem_singleton.mp hu
      trivial
    | _ => exact ⟨trivial, List.forall_mem_nil _⟩
  | scan task =>
    obtain ⟨after, -, rfl⟩ := Option.map_eq_some_iff.mp h
    exact ⟨trivial, List.forall_mem_nil _⟩
  | listener notifying =>
    obtain ⟨after, -, rfl⟩ := Option.map_eq_some_iff.mp h
    exact ⟨trivial, List.forall_mem_nil _⟩

theorem step_sound (hallowed : UpToDate p e) (h : behaviour.next p e = some q)
    (hp : ∀ t ∈ p.threads, SoundThread p.shared t) : ∀ t ∈ q.threads, SoundThread q.shared t := by
  refine next_forall h ?_ ?_ ?_
  · intro t ht
    have hgrows : Grows p.shared q.shared := by
      cases e with
      | advance i a =>
        obtain ⟨u, s, u', new, -, hstep, rfl⟩ := next_advance h
        exact step_grows hstep
      | enter u =>
        obtain ⟨-, rfl⟩ := next_enter h
        exact grows_of_eq rfl rfl
      | outside k =>
        obtain ⟨s, hs, rfl⟩ := next_outside h
        exact outside_grows hs
    cases t with
    | stream st => exact sound_grows hgrows (hp _ ht)
    | _ => trivial
  · intro i a t s t' new he ht hstep
    refine thread_sound hstep (hp t (List.mem_of_getElem? ht)) ?_
    rintro st rfl
    exact hallowed i a st he ht
  · intro t hbegins
    cases t with
    | stream st => cases hbegins
    | _ => trivial

/-- In every run in which a stream whose time is over has read the cache since the last device
was added, every device that is in the cache when a stream decides to end has been yielded
when it ends. -/
theorem streams_miss_nothing (hrun : Execution behaviour.next UpToDate initial es p)
    {st : ScanStream} {cached : List String} (hst : .stream st ∈ p.threads)
    (hended : st.point = .ended cached) : ∀ id ∈ cached, id ∈ known st := by
  have hsound : ∀ t ∈ p.threads, SoundThread p.shared t :=
    hrun.invariant (P := fun p => ∀ t ∈ p.threads, SoundThread p.shared t)
      (fun _ _ _ hallowed h => step_sound hallowed h) (List.forall_mem_nil _)
  intro id hid
  have hcovered := (hsound (.stream st) hst).covered id
  rw [due, pending, hended] at hcovered
  rcases hcovered hid with hknown | hnone
  · exact hknown
  · cases hnone

end Runs

section Sample

def lamp : DiscoveryResult := ⟨"bf0123", "192.168.0.10", some .v33, none, 0⟩

def streamSteps : List (Act Thread Input Outside) :=
  [.enter (.streamCall defaultScanTimeout .begin), .advance 0 .go, .advance 0 .go, .advance 0 .go,
    .advance 0 .go, .advance 0 .go, .advance 0 .go, .enter (.listener false)]

def emptyReadSteps : List (Act Thread Input Outside) :=
  [.advance 0 .go, .advance 0 .go, .advance 0 .go]

def lampSteps : List (Act Thread Input Outside) := [.advance 2 (.packet lamp), .advance 2 .go]

def upToDate (p : Pool ScannerState Thread) : Act Thread Input Outside → Bool
  | .advance i a =>
    match p.threads[i]? with
    | some (.stream st) => !timesOut st p.shared a || decide (st.readAt = p.shared.additions)
    | _ => true
  | _ => true

theorem upToDate_allowed {p : Pool ScannerState Thread} {e : Act Thread Input Outside}
    (h : upToDate p e = true) : UpToDate p e := by
  rintro i a st rfl ht hover
  rw [upToDate, ht] at h
  simpa [hover] using h

def streamOf (p : Pool ScannerState Thread) : Option ScanStream :=
  p.threads.head?.bind fun t =>
    match t with
    | .stream st => some st
    | _ => none

theorem streamOf_mem {p : Pool ScannerState Thread} {st : ScanStream} (h : streamOf p = some st) :
    .stream st ∈ p.threads := by
  obtain ⟨t, ht, hst⟩ := Option.bind_eq_some_iff.mp h
  cases t with
  | stream st' =>
    cases hst
    exact List.mem_of_head? ht
  | _ => cases hst

theorem notified_stream_complete :
    ∃ p st, run (guarded upToDate behaviour.next) initial
        (streamSteps ++ emptyReadSteps ++ [.advance 0 .go] ++ lampSteps ++
          [.advance 0 .go, .advance 0 .go, .advance 0 .go, .advance 0 .go, .advance 0 .go,
            .outside (.tick defaultScanTimeout), .advance 0 .go]) = some p ∧
      .stream st ∈ p.threads ∧ st.point = .ended ["bf0123"] ∧ "bf0123" ∈ known st := by
  obtain ⟨p, hrun, hobserved⟩ : ∃ p, run (guarded upToDate behaviour.next) initial
        (streamSteps ++ emptyReadSteps ++ [.advance 0 .go] ++ lampSteps ++
          [.advance 0 .go, .advance 0 .go, .advance 0 .go, .advance 0 .go, .advance 0 .go,
            .outside (.tick defaultScanTimeout), .advance 0 .go]) = some p ∧
      (streamOf p).map (fun st => st.point) = some (.ended ["bf0123"]) :=
    Option.map_eq_some_iff.mp (by decide +kernel)
  obtain ⟨st, hst, hended⟩ := Option.map_eq_some_iff.mp hobserved
  refine ⟨p, st, hrun, streamOf_mem hst, hended, ?_⟩
  exact streams_miss_nothing (execution_of_guarded_run (fun _ _ => upToDate_allowed) hrun)
    (streamOf_mem hst) hended "bf0123" List.mem_cons_self

/-- The device comes into the cache between the reading and the wait. Its notification is
lost, and the stream ends without it. -/
theorem lost_notification :
    ∃ p st, run behaviour.next initial
        (streamSteps ++ emptyReadSteps ++ lampSteps ++
          [.advance 0 .go, .outside (.tick defaultScanTimeout), .advance 0 .elapsed]) = some p ∧
      .stream st ∈ p.threads ∧ st.point = .ended ["bf0123"] ∧ st.yielded = [] := by
  obtain ⟨p, hrun, hobserved⟩ : ∃ p, run behaviour.next initial
        (streamSteps ++ emptyReadSteps ++ lampSteps ++
          [.advance 0 .go, .outside (.tick defaultScanTimeout), .advance 0 .elapsed]) = some p ∧
      (streamOf p).map (fun st => (st.point, st.yielded)) = some (.ended ["bf0123"], []) :=
    Option.map_eq_some_iff.mp (by decide +kernel)
  obtain ⟨st, hst, hended⟩ := Option.map_eq_some_iff.mp hobserved
  exact ⟨p, st, hrun, streamOf_mem hst, congrArg Prod.fst hended, congrArg Prod.snd hended⟩

end Sample

end ScanCompleteness
