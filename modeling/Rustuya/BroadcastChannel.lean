import Mathlib.Data.List.Basic

/-!
# Broadcast channels

Every receiver of a broadcast channel sees every message from its subscription on, at its own
pace. The channel retains the last messages up to its capacity. A receiver that has missed
more is told so once, and goes on with the oldest message that is retained.
-/
namespace BroadcastChannel

/-- All messages sent so far; the capacity says how many of them are retained. -/
structure Channel (α : Type) where
  capacity : Nat
  sent : List α
  /-- There is a sender left. -/
  alive : Bool
  deriving DecidableEq

inductive Received (α : Type) where
  | message (a : α)
  | lagged (missed : Nat)
  | closed
  deriving DecidableEq

variable {α : Type}

def Channel.oldest (c : Channel α) : Nat := c.sent.length - c.capacity

def Channel.send (c : Channel α) (msgs : List α) : Channel α := { c with sent := c.sent ++ msgs }

/-- What a receiver gets whose next message is at `position`, and its new position. It gets
nothing as long as there is no message and still a sender. -/
def Channel.recv (c : Channel α) (position : Nat) : Option (Received α × Nat) :=
  if position < c.oldest then some (.lagged (c.oldest - position), c.oldest)
  else
    match c.sent[position]? with
    | some a => some (.message a, position + 1)
    | none => if c.alive then none else some (.closed, position)

variable {c : Channel α} {position : Nat}

theorem recv_lagged (h : position < c.oldest) :
    c.recv position = some (.lagged (c.oldest - position), c.oldest) := if_pos h

theorem recv_message (h : c.oldest ≤ position) {a : α} (ha : c.sent[position]? = some a) :
    c.recv position = some (.message a, position + 1) := by
  rw [Channel.recv, if_neg (Nat.not_lt.mpr h), ha]

theorem recv_none (h : c.oldest ≤ position) (hnone : c.sent[position]? = none)
    (halive : c.alive = true) : c.recv position = none := by
  rw [Channel.recv, if_neg (Nat.not_lt.mpr h), hnone]
  exact if_pos halive

section Windows

variable (keep : α → Bool)

def window (sent : List α) (start position : Nat) : List α :=
  ((sent.take position).drop start).filter keep

theorem window_append {sent more : List α} {start position : Nat} (h : position ≤ sent.length) :
    window keep (sent ++ more) start position = window keep sent start position := by
  rw [window, window, List.take_append_of_le_length h]

theorem window_succ {sent : List α} {start position : Nat} {a : α} (hstart : start ≤ position)
    (ha : sent[position]? = some a) :
    window keep sent start (position + 1)
      = window keep sent start position ++ if keep a then [a] else [] := by
  obtain ⟨hlt, rfl⟩ := List.getElem?_eq_some_iff.mp ha
  have hlength : start ≤ (sent.take position).length := by
    rw [List.length_take]
    omega
  rw [window, window, List.take_succ_eq_append_getElem hlt,
    List.drop_append_of_le_length hlength, List.filter_append, List.filter_cons, List.filter_nil]

theorem window_start {sent : List α} {start : Nat} : window keep sent start start = [] := by
  rw [window, List.drop_eq_nil_of_le (List.length_take_le _ _), List.filter_nil]

theorem window_all {sent : List α} {start : Nat} :
    window keep sent start sent.length = (sent.drop start).filter keep := by
  rw [window, List.take_length]

end Windows

section Readers

structure Reader (α : Type) where
  position : Nat
  ended : Bool
  passed : List α

variable (keep : α → Bool)

/-- A reader ends with the first error, and with a message to keep that there is no room for. -/
def Reader.receive (room : Bool) (r : Reader α) (c : Channel α) : Option (Reader α) :=
  if r.ended then none
  else
    (c.recv r.position).map fun
      | (.message a, position) =>
        if keep a && !room then { r with position, ended := true }
        else { r with position, passed := r.passed ++ if keep a then [a] else [] }
      | (.lagged _, position) | (.closed, position) => { r with position, ended := true }

def Reader.KeepsUp (room : Bool) (r : Reader α) (c : Channel α) : Prop :=
  c.oldest ≤ r.position ∧
    ∀ a, c.sent[r.position]? = some a → keep a = true → room = true

/-- The reader is there, and has passed on every message to keep from `start` up to its
position. -/
structure Reader.Faithful (start : Nat) (r : Reader α) (c : Channel α) : Prop where
  started : start ≤ r.position
  within : r.position ≤ c.sent.length
  unended : r.ended = false
  passed : r.passed = window keep c.sent start r.position

variable {keep} {room : Bool} {start : Nat} {r r' : Reader α} {c : Channel α}

theorem receive_cases (h : r.receive keep room c = some r') (halive : c.alive = true) :
    (r.KeepsUp keep room c ∧ ∃ a, c.sent[r.position]? = some a ∧
      r' = { r with
        position := r.position + 1
        passed := r.passed ++ if keep a then [a] else [] }) ∨
    (¬ r.KeepsUp keep room c ∧ r'.ended = true) := by
  rw [Reader.receive] at h
  split at h
  · cases h
  · obtain ⟨⟨got, position⟩, hrecv, rfl⟩ := Option.map_eq_some_iff.mp h
    by_cases hlag : r.position < c.oldest
    · rw [recv_lagged hlag] at hrecv
      cases hrecv
      exact .inr ⟨fun hup => Nat.not_le.mpr hlag hup.1, rfl⟩
    · have hkept := Nat.not_lt.mp hlag
      cases ha : c.sent[r.position]? with
      | none =>
        rw [recv_none hkept ha halive] at hrecv
        cases hrecv
      | some a =>
        rw [recv_message hkept ha] at hrecv
        cases hrecv
        dsimp only
        by_cases hfull : (keep a && !room) = true
        · rw [if_pos hfull]
          rw [Bool.and_eq_true, Bool.not_eq_true'] at hfull
          refine .inr ⟨fun hup => ?_, rfl⟩
          rw [hup.2 a ha hfull.1] at hfull
          cases hfull.2
        · rw [if_neg hfull]
          refine .inl ⟨⟨hkept, ?_⟩, a, rfl, rfl⟩
          intro b hb hkeep
          rw [ha] at hb
          cases hb
          simpa [hkeep] using hfull

theorem receive_faithful_iff (h : r.receive keep room c = some r') (halive : c.alive = true)
    (hr : r.Faithful keep start c) : r'.Faithful keep start c ↔ r.KeepsUp keep room c := by
  rcases receive_cases h halive with ⟨hup, a, ha, rfl⟩ | ⟨hbehind, hended⟩
  · obtain ⟨hlt, -⟩ := List.getElem?_eq_some_iff.mp ha
    refine iff_of_true ⟨Nat.le_succ_of_le hr.started, hlt, hr.unended, ?_⟩ hup
    rw [window_succ keep hr.started ha, ← hr.passed]
  · refine iff_of_false (fun hr' => ?_) hbehind
    rw [hr'.unended] at hended
    cases hended

theorem receive_next (hopen : r.ended = false) (hkept : c.oldest ≤ r.position)
    (hlt : r.position < c.sent.length) :
    ∃ r', r.receive keep room c = some r' ∧ r'.position = r.position + 1 := by
  rw [Reader.receive, hopen, if_neg Bool.false_ne_true,
    recv_message hkept (List.getElem?_eq_getElem hlt)]
  refine ⟨_, rfl, ?_⟩
  dsimp only
  split <;> rfl

theorem Reader.Faithful.send (hr : r.Faithful keep start c) (msgs : List α) :
    r.Faithful keep start (c.send msgs) := by
  refine ⟨hr.started, ?_, hr.unended, ?_⟩
  · rw [Channel.send, List.length_append]
    exact Nat.le_add_right_of_le hr.within
  · exact hr.passed.trans (window_append keep hr.within).symm

theorem Reader.Faithful.complete (hr : r.Faithful keep start c)
    (hend : r.position = c.sent.length) : r.passed = (c.sent.drop start).filter keep := by
  rw [hr.passed, hend, window_all]

end Readers

end BroadcastChannel
