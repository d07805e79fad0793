import Rustuya.Scanner

/-!
# One active scan

The flag of an active scan is taken by the caller that starts it, handed to the task of the
scan, and given back when the scan is over. `ensure_scan_started` takes it with a swap.
`scan_stream_instance` looks at it and stores it later, so that two callers can take it.
-/
namespace ScanExclusion

open Scanner TransitionSystem ThreadPool

section Ownership

/-- Whether a thread has taken the flag and not yet given it back. -/
def owns : Thread → Nat
  | .streamCall _ (.stamp _) | .streamCall _ (.spawn _) => 1
  | .discover call => if call.point.starting then 1 else 0
  | .scan (.collectSockets _) | .scan (.broadcasting _ _) | .scan .clearActive => 1
  | _ => 0

def scanning : Thread → Bool
  | .scan (.collectSockets _) | .scan (.broadcasting _ _) => true
  | _ => false

def flag (s : ScannerState) : Nat := if s.activeScanning then 1 else 0

def storesActive : Thread → Bool
  | .streamCall _ (.storeActive _) => true
  | _ => false

/-- Nobody has taken the flag between the look at it and the store of `scan_stream_instance`. -/
def Unclaimed (p : Pool ScannerState Thread) (e : Act Thread Input Outside) : Prop :=
  ∀ i a t, e = .advance i a → p.threads[i]? = some t → storesActive t = true →
    p.shared.activeScanning = false

end Ownership

section Steps

variable {s : ScannerState} {t : Thread} {a : Input} {after : ScannerState × Thread × List Thread}

theorem scanStream_balance (timeout : Nat) (point : StreamCall)
    (hclaim : storesActive (.streamCall timeout point) = true → s.activeScanning = false) :
    owns (scanStreamInstance s timeout point).2.1
        + ((scanStreamInstance s timeout point).2.2.map owns).sum + flag s
      = owns (.streamCall timeout point) + flag (scanStreamInstance s timeout point).1 := by
  cases point with
  | begin => rfl
  | loadActive start =>
    rw [scanStreamInstance]
    split <;> rfl
  | checkCooldown start =>
    rw [scanStreamInstance]
    split <;> rfl
  | storeActive start =>
    have hfree := hclaim rfl
    simp [scanStreamInstance, owns, flag, hfree]
  | stamp start => rfl
  | spawn start => rfl

theorem listener_owns (notifying : Bool) : owns (.listener notifying) = 0 := rfl

theorem discover_balance {call : DiscoverCall} (h : call.step s a = some after) :
    owns after.2.1 + (after.2.2.map owns).sum + flag s = owns (.discover call) + flag after.1 := by
  cases discover_effect h with
  | goes point hbefore hafter => simp [owns, DiscoverCall.at, hbefore, hafter]
  | swaps hpoint =>
    by_cases hactive : s.activeScanning = true <;>
      simp [owns, flag, DiscoverCall.at, DiscoverPoint.starting, hpoint, hactive]
  | stamps hpoint => simp [owns, flag, DiscoverCall.at, DiscoverPoint.starting, hpoint]
  | spawns hpoint => simp [owns, DiscoverCall.at, DiscoverPoint.starting, hpoint]

theorem scan_balance {task : ScanTask} {next : ScannerState × ScanTask}
    (h : task.step s a = some next)
    (hactive : 0 < owns (.scan task) → s.activeScanning = true) :
    owns (.scan next.2) + flag s = owns (.scan task) + flag next.1 := by
  cases task with
  | collectSockets timeout =>
    cases a with
    | sockets available =>
      cases h
      cases available <;> rfl
    | _ => cases h
  | broadcasting timeout start =>
    cases a with
    | elapsed =>
      simp only [ScanTask.step] at h
      split at h <;> cases h
      rfl
    | _ => cases h
  | clearActive =>
    cases a with
    | go =>
      cases h
      have htaken := hactive Nat.one_pos
      simp [owns, flag, htaken]
    | _ => cases h
  | notify =>
    cases a with
    | go =>
      cases h
      rfl
    | _ => cases h
  | done => cases a <;> cases h

theorem passiveListener_flag {notifying : Bool} {next : ScannerState × Bool}
    (h : passiveListener s notifying a = some next) : flag next.1 = flag s := by
  rcases passiveListener_eq_some h with ⟨res, -, rfl⟩ | rfl
  · rfl
  · rfl

theorem step_balance (h : t.step s a = some after)
    (hclaim : storesActive t = true → s.activeScanning = false)
    (hactive : 0 < owns t → s.activeScanning = true) :
    owns after.2.1 + (after.2.2.map owns).sum + flag s = owns t + flag after.1 := by
  cases t with
  | streamCall timeout point =>
    cases a with
    | go =>
      cases h
      exact scanStream_balance timeout point hclaim
    | _ => cases h
  | stream st =>
    obtain ⟨st', -, rfl⟩ := Option.map_eq_some_iff.mp h
    rfl
  | discover call => exact discover_balance h
  | scan task =>
    obtain ⟨next, hnext, rfl⟩ := Option.map_eq_some_iff.mp h
    exact scan_balance hnext hactive
  | listener notifying =>
    obtain ⟨next, hnext, rfl⟩ := Option.map_eq_some_iff.mp h
    have hflag := passiveListener_flag hnext
    simp only [listener_owns, List.map_nil, List.sum_nil]
    omega

theorem begins_owns (h : t.begins = true) : owns t = 0 := by
  cases t with
  | streamCall timeout point =>
    cases point with
    | begin => rfl
    | _ => cases h
  | discover call =>
    obtain ⟨deviceId, forceScan, timeout, point⟩ := call
    obtain rfl : point = .checkCache := of_decide_eq_true h
    rfl
  | listener notifying => rfl
  | _ => cases h

theorem outside_flag {k : Outside} {s' : ScannerState} (h : Scanner.outside s k = some s') :
    flag s' = flag s := by
  rcases outside_eq_some h with ⟨n, rfl⟩ | ⟨deviceId, rfl⟩
  · rfl
  · rfl

end Steps

section Runs

variable {p q : Pool ScannerState Thread} {e : Act Thread Input Outside}
  {es : List (Act Thread Input Outside)}

theorem flag_pos {s : ScannerState} (h : 0 < flag s) : s.activeScanning = true := by
  by_contra hfree
  rw [flag, if_neg hfree] at h
  exact absurd h (Nat.lt_irrefl 0)

theorem step_owned (hallowed : Unclaimed p e) (h : behaviour.next p e = some q)
    (hp : held owns p = flag p.shared) : held owns q = flag q.shared := by
  refine next_balance h ?_ (fun t => begins_owns) (fun k s _ hout => outside_flag hout) hp
  intro i a t s t' new he ht hstep
  refine step_balance hstep (hallowed i a t he ht) ?_
  intro howner
  have hheld := holds_le_held owns (List.mem_of_getElem? ht)
  exact flag_pos (by omega)

theorem scanning_owns (t : Thread) (h : scanning t = true) : 0 < owns t := by
  unfold scanning at h
  split at h
  · exact Nat.one_pos
  · exact Nat.one_pos
  · cases h

/-- In every run in which nobody takes the flag between the look at it and the store of
`scan_stream_instance`, at most one scan is running, and the flag is set while one is. -/
theorem one_scan_at_a_time (hrun : Execution behaviour.next Unclaimed initial es p) :
    (p.threads.filter scanning).length ≤ 1 ∧
      ((p.threads.filter scanning).length ≠ 0 → p.shared.activeScanning = true) := by
  have howned : held owns p = flag p.shared :=
    hrun.invariant (P := fun p => held owns p = flag p.shared)
      (fun _ _ _ hallowed h => step_owned hallowed h) rfl
  have hscans := length_filter_le_held (p := p) owns scanning_owns
  have hflag : flag p.shared ≤ 1 := by
    unfold flag
    split <;> omega
  constructor
  · omega
  · intro hsome
    exact flag_pos (by omega)

end Runs

section Sample

def lookSteps (i : Nat) : List (Act Thread Input Outside) :=
  [.enter (.streamCall defaultScanTimeout .begin), .advance i .go, .advance i .go, .advance i .go]

def startSteps (i : Nat) : List (Act Thread Input Outside) :=
  [.advance i .go, .advance i .go, .advance i .go]

def unclaimed (p : Pool ScannerState Thread) : Act Thread Input Outside → Bool
  | .advance i _ => !(p.threads[i]?.any storesActive) || !p.shared.activeScanning
  | _ => true

theorem unclaimed_allowed {p : Pool ScannerState Thread} {e : Act Thread Input Outside}
    (h : unclaimed p e = true) : Unclaimed p e := by
  rintro i a t rfl ht hstores
  rw [unclaimed, ht, Option.any_some, hstores, Bool.not_true, Bool.false_or,
    Bool.not_eq_true'] at h
  exact h

theorem second_caller_joins :
    ∃ p, run (guarded unclaimed behaviour.next) initial
        (lookSteps 0 ++ startSteps 0 ++
          [.enter (.streamCall defaultScanTimeout .begin), .advance 2 .go, .advance 2 .go])
        = some p ∧
      (p.threads.filter scanning).length = 1 ∧ p.shared.activeScanning = true := by
  obtain ⟨p, hrun, hscans⟩ : ∃ p, run (guarded unclaimed behaviour.next) initial
        (lookSteps 0 ++ startSteps 0 ++
          [.enter (.streamCall defaultScanTimeout .begin), .advance 2 .go, .advance 2 .go])
        = some p ∧
      (p.threads.filter scanning).length = 1 := Option.map_eq_some_iff.mp (by decide +kernel)
  obtain ⟨-, hactive⟩ := one_scan_at_a_time
    (execution_of_guarded_run (fun _ _ => unclaimed_allowed) hrun)
  exact ⟨p, hrun, hscans, hactive (by omega)⟩

/-- Two callers look at the flag before either stores it. -/
theorem two_scans_running :
    ∃ p, run behaviour.next initial
        (lookSteps 0 ++ lookSteps 1 ++ startSteps 0 ++ startSteps 1) = some p ∧
      (p.threads.filter scanning).length = 2 :=
  Option.map_eq_some_iff.mp (by decide +kernel)

end Sample

end ScanExclusion
