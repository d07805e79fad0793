import Rustuya.ConnectionTask

/-!
# The delay before a reconnection

The delay doubles with every failure in a row up to a limit, and a random part of it spreads
the attempts of many devices. The random part is smaller than what a failure adds, so that
the next delay is always the longer one until the limit is reached.
-/
namespace Backoff

open CheckedExecution Error DeviceState ConnectionTask

/-- `SLEEP_RECONNECT_MIN`, in seconds. -/
def sleepReconnectMin : Nat := 16

def sleepReconnectMax : Nat := 4096

/-- `get_backoff_duration` in milliseconds, for the number `draw` that the random generator
returns. -/
def getBackoffDuration (build : Build) (failureCount : UInt32) (draw : UInt64) : Result Nat := do
  let power ← powU64 build 2 (min failureCount.toNat 10)
  let scaled ← mulU64 build power sleepReconnectMin
  let baseSecs := min scaled sleepReconnectMax
  if baseSecs = 0 then return 0
  else
    let baseMs ← mulU64 build baseSecs 1000
    let fixedMs := (← mulU64 build baseMs 70) / 100
    let randomRangeMs ← subUsize build baseMs fixedMs
    let jitter ← remUsize draw.toNat (max randomRangeMs 1)
    addU64 build fixedMs jitter

def backoff (build : Build) (s : State) (draw : UInt64) : Option (Result Nat) :=
  if 0 < s.failureCount then some (getBackoffDuration build (s.failureCount - 1) draw) else none

def baseSecs (n : Nat) : Nat := min (16 * 2 ^ n) 4096

theorem baseSecs_range (n : Nat) : 16 ≤ baseSecs n ∧ baseSecs n ≤ 4096 := by
  have hpos : 0 < 2 ^ n := Nat.two_pow_pos n
  unfold baseSecs
  omega

theorem baseSecs_succ {n : Nat} (h : n < 8) : baseSecs (n + 1) = 2 * baseSecs n := by
  have hpow : 2 ^ n ≤ 2 ^ 7 := Nat.pow_le_pow_right (by decide) (by omega)
  unfold baseSecs
  rw [Nat.pow_succ]
  omega

/-- The limit on the exponent does not show: it is reached after the limit on the delay. -/
theorem baseSecs_capped (n : Nat) :
    min (2 ^ min n 10 * sleepReconnectMin) sleepReconnectMax = baseSecs n := by
  unfold baseSecs sleepReconnectMin sleepReconnectMax
  by_cases hn : n ≤ 10
  · rw [Nat.min_eq_left hn, Nat.mul_comm]
  · have hpow : 2 ^ 10 ≤ 2 ^ n := Nat.pow_le_pow_right (by decide) (by omega)
    rw [Nat.min_eq_right (by omega : 10 ≤ n)]
    omega

def delayMs (n : Nat) (draw : UInt64) : Nat :=
  baseSecs n * 700 + draw.toNat % (baseSecs n * 300)

theorem delayMs_range (n : Nat) (draw : UInt64) :
    baseSecs n * 700 ≤ delayMs n draw ∧ delayMs n draw < baseSecs n * 1000 := by
  obtain ⟨hlow, -⟩ := baseSecs_range n
  have hjitter := Nat.mod_lt draw.toNat (show 0 < baseSecs n * 300 by omega)
  unfold delayMs
  omega

theorem delayMs_lt_succ {n : Nat} (h : n < 8) (draw draw' : UInt64) :
    delayMs n draw < delayMs (n + 1) draw' := by
  obtain ⟨-, hhigh⟩ := delayMs_range n draw
  obtain ⟨hlow, -⟩ := delayMs_range (n + 1) draw'
  rw [baseSecs_succ h] at hlow
  omega

theorem getBackoffDuration_eq (build : Build) (n : UInt32) (draw : UInt64) :
    getBackoffDuration build n draw = .ok (delayMs n.toNat draw) := by
  obtain ⟨hlow, hhigh⟩ := baseSecs_range n.toNat
  obtain ⟨-, hdelay⟩ := delayMs_range n.toNat draw
  have hpow : 2 ^ min n.toNat 10 ≤ 2 ^ 10 := Nat.pow_le_pow_right (by decide) (by omega)
  have hscaled : 2 ^ min n.toNat 10 * sleepReconnectMin < 2 ^ 64 := by
    unfold sleepReconnectMin
    omega
  have hfixed : baseSecs n.toNat * 1000 * 70 / 100 = baseSecs n.toNat * 700 := by omega
  have hrange : max (baseSecs n.toNat * 1000 - baseSecs n.toNat * 700) 1
      = baseSecs n.toNat * 300 := by omega
  simp only [getBackoffDuration, powU64, mulU64, addU64]
  rw [exactU64_of_lt build (by omega), Outcome.ok_bind, exactU64_of_lt build hscaled,
    Outcome.ok_bind, baseSecs_capped, if_neg (by omega), exactU64_of_lt build (by omega),
    Outcome.ok_bind, exactU64_of_lt build (by omega), Outcome.ok_bind, hfixed,
    subUsize_of_le build (by omega), Outcome.ok_bind, hrange, remUsize_of_pos (by omega),
    Outcome.ok_bind]
  exact exactU64_of_lt build (hdelay.trans (by omega))

/-- For every number of failures and every draw the delay is computed without overflow and
without a remainder by zero, the same in every build. It lies between 70 % of the base and
the base; below the limit one more failure gives a longer delay whatever is drawn, and the
limit is never exceeded. -/
theorem backoff_bounds (n : UInt32) (draw : UInt64) :
    ∃ delay, (∀ build, getBackoffDuration build n draw = .ok delay) ∧
      7 * (1000 * min (16 * 2 ^ n.toNat) 4096) ≤ 10 * delay ∧
      delay < 1000 * min (16 * 2 ^ n.toNat) 4096 ∧
      (n.toNat < 8 → ∀ build draw', ∃ longer,
        getBackoffDuration build (n + 1) draw' = .ok longer ∧ delay < longer) ∧
      (8 ≤ n.toNat → delay ≤ 4096 * 1000) := by
  obtain ⟨hlow, hhigh⟩ := delayMs_range n.toNat draw
  obtain ⟨-, hmax⟩ := baseSecs_range n.toNat
  change ∃ delay, _ ∧ 7 * (1000 * baseSecs n.toNat) ≤ _ ∧ delay < 1000 * baseSecs n.toNat ∧ _
  refine ⟨_, fun build => getBackoffDuration_eq build n draw, by omega, by omega, ?_, by omega⟩
  intro hn build draw'
  have hsucc : (n + 1).toNat = n.toNat + 1 := by
    rw [UInt32.toNat_add, UInt32.toNat_one, Nat.mod_eq_of_lt (by omega)]
  refine ⟨_, getBackoffDuration_eq build (n + 1) draw', ?_⟩
  rw [hsucc]
  exact delayMs_lt_succ hn draw draw'

theorem backoff_eq (build : Build) {s : State} {n : Nat} (h : s.failureCount.toNat = n + 1)
    (draw : UInt64) : backoff build s draw = some (.ok (delayMs n draw)) := by
  have hpos : 0 < s.failureCount := by
    rw [UInt32.lt_iff_toNat_lt, h]
    exact Nat.succ_pos n
  have hpred : (s.failureCount - 1).toNat = n := by
    rw [UInt32.toNat_sub_of_le _ _ (UInt32.le_iff_toNat_le.mpr (h ▸ Nat.succ_pos n)), h]
    rfl
  rw [backoff, if_pos hpos, getBackoffDuration_eq, hpred]

theorem readBackoff_waits (build : Build) (w : World) (draw : UInt64) :
    (readBackoff w).pc = .waitForBackoff ↔ (backoff build w.shared draw).isSome := by
  unfold readBackoff backoff
  split <;> simp [World.goto]

/-- A failed attempt to reconnect, one of the first eight in a row, is followed by a delay
that is longer than the delay before it. -/
theorem scheduleRetry_waits_longer (build : Build) {w : World} (err : TuyaError)
    (hpos : 0 < w.shared.failureCount.toNat) (hfew : w.shared.failureCount.toNat ≤ 8)
    (draw draw' : UInt64) :
    ∃ delay longer, backoff build w.shared draw = some (.ok delay) ∧
      backoff build (scheduleRetry build w err).shared draw' = some (.ok longer) ∧
      delay < longer := by
  obtain ⟨n, hn⟩ : ∃ n, w.shared.failureCount.toNat = n + 1 := ⟨_, (Nat.sub_add_cancel hpos).symm⟩
  have hone : (1 : UInt32).toNat = 1 := rfl
  have hcount : (scheduleRetry build w err).shared.failureCount.toNat = n + 1 + 1 := by
    rw [scheduleRetry, addU32_of_lt build (by omega)]
    change (w.shared.failureCount + 1).toNat = _
    rw [UInt32.toNat_add, Nat.mod_eq_of_lt (by omega), hn, hone]
  exact ⟨_, _, backoff_eq build hn draw, backoff_eq build hcount draw',
    delayMs_lt_succ (by omega) draw draw'⟩

end Backoff
