import Mathlib.Data.List.Basic
import Mathlib.Algebra.BigOperators.Group.List.Basic
import Mathlib.Algebra.Ring.Nat
import Rustuya.TransitionSystem

/-!
# Threads that share a state

Each thread takes its steps one at a time, in any order with the steps of the others and
with what happens outside of them. A step sees the shared state and the thread itself, and
may start further threads. Two rules carry a property from single steps to the pool: an
assertion of every thread that the other steps do not disturb, and a balance between the
shared state and what the threads hold.
-/
namespace ThreadPool

open TransitionSystem

structure Pool (σ τ : Type) where
  shared : σ
  threads : List τ
  deriving DecidableEq

inductive Act (τ ι κ : Type) where
  | advance (i : Nat) (a : ι)
  | enter (t : τ)
  | outside (k : κ)
  deriving DecidableEq

/-- What the threads can do, how they begin, and what else changes the shared state. -/
structure Behaviour (σ τ ι κ : Type) where
  step : σ → τ → ι → Option (σ × τ × List τ)
  entry : τ → Bool
  outside : σ → κ → Option σ

variable {σ τ ι κ : Type}

def Behaviour.next (B : Behaviour σ τ ι κ) (p : Pool σ τ) : Act τ ι κ → Option (Pool σ τ)
  | .advance i a =>
    p.threads[i]?.bind fun t =>
      (B.step p.shared t a).map fun (s, t', new) => ⟨s, p.threads.set i t' ++ new⟩
  | .enter t => if B.entry t then some ⟨p.shared, p.threads ++ [t]⟩ else none
  | .outside k => (B.outside p.shared k).map fun s => ⟨s, p.threads⟩

variable {B : Behaviour σ τ ι κ} {p q : Pool σ τ}

theorem next_advance {i : Nat} {a : ι} (h : B.next p (.advance i a) = some q) :
    ∃ t s t' new, p.threads[i]? = some t ∧ B.step p.shared t a = some (s, t', new) ∧
      q = ⟨s, p.threads.set i t' ++ new⟩ := by
  obtain ⟨t, ht, hmap⟩ := Option.bind_eq_some_iff.mp h
  obtain ⟨⟨s, t', new⟩, hstep, rfl⟩ := Option.map_eq_some_iff.mp hmap
  exact ⟨t, s, t', new, ht, hstep, rfl⟩

theorem advance_next {i : Nat} {a : ι} {t t' : τ} {s : σ} {new : List τ}
    (ht : p.threads[i]? = some t) (hstep : B.step p.shared t a = some (s, t', new)) :
    B.next p (.advance i a) = some ⟨s, p.threads.set i t' ++ new⟩ := by
  rw [Behaviour.next, ht, Option.bind_some, hstep, Option.map_some]

theorem next_enter {t : τ} (h : B.next p (.enter t) = some q) :
    B.entry t = true ∧ q = ⟨p.shared, p.threads ++ [t]⟩ := by
  rw [Behaviour.next] at h
  split at h
  next hentry =>
    cases h
    exact ⟨hentry, rfl⟩
  · cases h

theorem enter_next {t : τ} (h : B.entry t = true) :
    B.next p (.enter t) = some ⟨p.shared, p.threads ++ [t]⟩ := by
  rw [Behaviour.next, if_pos h]

theorem next_outside {k : κ} (h : B.next p (.outside k) = some q) :
    ∃ s, B.outside p.shared k = some s ∧ q = ⟨s, p.threads⟩ := by
  obtain ⟨s, hs, rfl⟩ := Option.map_eq_some_iff.mp h
  exact ⟨s, hs, rfl⟩

theorem outside_next {k : κ} {s : σ} (h : B.outside p.shared k = some s) :
    B.next p (.outside k) = some ⟨s, p.threads⟩ := by
  rw [Behaviour.next, h, Option.map_some]

theorem thread_advanced {ts : List τ} {i : Nat} (t' : τ) (new : List τ) (hi : i < ts.length) :
    (ts.set i t' ++ new)[i]? = some t' := by
  rw [List.getElem?_append_left (by rwa [List.length_set]), List.getElem?_set_self hi]

theorem next_thread {e : Act τ ι κ} {i : Nat} {t : τ} (h : B.next p e = some q)
    (ht : p.threads[i]? = some t) :
    q.threads[i]? = some t ∨ ∃ a s t' new, e = .advance i a ∧
      B.step p.shared t a = some (s, t', new) ∧ q.shared = s ∧ q.threads[i]? = some t' := by
  obtain ⟨hi, -⟩ := List.getElem?_eq_some_iff.mp ht
  cases e with
  | advance j a =>
    obtain ⟨u, s, u', new, hu, hstep, rfl⟩ := next_advance h
    by_cases hij : j = i
    · subst hij
      obtain rfl : t = u := Option.some.inj (ht.symm.trans hu)
      exact .inr ⟨a, s, u', new, rfl, hstep, rfl, thread_advanced u' new hi⟩
    · rw [List.getElem?_append_left (by rwa [List.length_set]), List.getElem?_set_ne hij]
      exact .inl ht
  | enter u =>
    obtain ⟨-, rfl⟩ := next_enter h
    rw [List.getElem?_append_left hi]
    exact .inl ht
  | outside k =>
    obtain ⟨s, -, rfl⟩ := next_outside h
    exact .inl ht

theorem next_thread_origin {e : Act τ ι κ} {i : Nat} {u : τ} (h : B.next p e = some q)
    (hu : q.threads[i]? = some u) :
    p.threads[i]? = some u ∨
    (∃ a t s new, e = .advance i a ∧ p.threads[i]? = some t ∧
      B.step p.shared t a = some (s, u, new) ∧ q.shared = s) ∨
    (∃ t a s t' new, B.step p.shared t a = some (s, t', new) ∧ u ∈ new) ∨
    B.entry u = true := by
  cases e with
  | advance j a =>
    obtain ⟨t, s, t', new, ht, hstep, rfl⟩ := next_advance h
    obtain ⟨hj, -⟩ := List.getElem?_eq_some_iff.mp ht
    by_cases hij : j = i
    · subst hij
      cases (thread_advanced t' new hj).symm.trans hu
      exact .inr (.inl ⟨a, t, s, new, rfl, ht, hstep, rfl⟩)
    · rcases Nat.lt_or_ge i p.threads.length with hi | hi
      · rw [List.getElem?_append_left (by rwa [List.length_set]), List.getElem?_set_ne hij] at hu
        exact .inl hu
      · rw [List.getElem?_append_right (by rwa [List.length_set])] at hu
        exact .inr (.inr (.inl ⟨t, a, s, t', new, hstep, List.mem_of_getElem? hu⟩))
  | enter t =>
    obtain ⟨hentry, rfl⟩ := next_enter h
    rcases Nat.lt_or_ge i p.threads.length with hi | hi
    · rw [List.getElem?_append_left hi] at hu
      exact .inl hu
    · rw [List.getElem?_append_right hi] at hu
      obtain rfl := List.mem_singleton.mp (List.mem_of_getElem? hu)
      exact .inr (.inr (.inr hentry))
  | outside k =>
    obtain ⟨s, -, rfl⟩ := next_outside h
    exact .inl hu

section Assertions

/-- An assertion holds of every thread after a step if no step disturbs it, the thread that
takes the step establishes it for itself and for the threads it starts, and it holds of
every thread that begins. -/
theorem next_forall {e : Act τ ι κ} {P : σ → τ → Prop} (h : B.next p e = some q)
    (hstable : ∀ u ∈ p.threads, P q.shared u)
    (hown : ∀ i a t s t' new, e = .advance i a → p.threads[i]? = some t →
      B.step p.shared t a = some (s, t', new) → P s t' ∧ ∀ u ∈ new, P s u)
    (hentry : ∀ t, B.entry t = true → P p.shared t) : ∀ u ∈ q.threads, P q.shared u := by
  cases e with
  | advance i a =>
    obtain ⟨t, s, t', new, ht, hstep, rfl⟩ := next_advance h
    obtain ⟨hself, hnew⟩ := hown i a t s t' new rfl ht hstep
    intro u hu
    rcases List.mem_append.mp hu with hu | hu
    · rcases List.mem_or_eq_of_mem_set hu with hu | rfl
      · exact hstable u hu
      · exact hself
    · exact hnew u hu
  | enter t =>
    obtain ⟨hbegins, rfl⟩ := next_enter h
    intro u hu
    rcases List.mem_append.mp hu with hu | hu
    · exact hstable u hu
    · obtain rfl := List.mem_singleton.mp hu
      exact hentry u hbegins
  | outside k =>
    obtain ⟨s, -, rfl⟩ := next_outside h
    exact hstable

end Assertions

section Balance

variable (holds : τ → Nat)

theorem sum_set {ts : List τ} {i : Nat} {t : τ} (t' : τ) (h : ts[i]? = some t) :
    ((ts.set i t').map holds).sum + holds t = (ts.map holds).sum + holds t' := by
  induction ts generalizing i with
  | nil => cases h
  | cons u ts ih =>
    cases i with
    | zero =>
      cases h
      simp only [List.set_cons_zero, List.map_cons, List.sum_cons]
      omega
    | succ i =>
      have hrest := ih h
      simp only [List.set_cons_succ, List.map_cons, List.sum_cons]
      omega

def held (p : Pool σ τ) : Nat := (p.threads.map holds).sum

theorem holds_le_held {t : τ} (ht : t ∈ p.threads) : holds t ≤ held holds p := by
  unfold held
  generalize p.threads = ts at ht
  induction ts with
  | nil => cases ht
  | cons u ts ih =>
    rw [List.map_cons, List.sum_cons]
    rcases List.mem_cons.mp ht with rfl | ht
    · omega
    · have := ih ht
      omega

theorem length_filter_le_held {holding : τ → Bool} (h : ∀ t, holding t = true → 0 < holds t) :
    (p.threads.filter holding).length ≤ held holds p := by
  unfold held
  induction p.threads with
  | nil => exact Nat.le_refl 0
  | cons u ts ih =>
    rw [List.map_cons, List.sum_cons]
    by_cases hu : holding u = true
    · have := h u hu
      rw [List.filter_cons_of_pos hu, List.length_cons]
      omega
    · rw [List.filter_cons_of_neg hu]
      omega

variable {holds} {owed : σ → Nat}

/-- If every step of a thread takes from the shared state what it holds more afterwards,
with the threads it has started, the threads together hold what the shared state owes. -/
theorem next_balance {e : Act τ ι κ} (h : B.next p e = some q)
    (hstep : ∀ i a t s t' new, e = .advance i a → p.threads[i]? = some t →
      B.step p.shared t a = some (s, t', new) →
      holds t' + (new.map holds).sum + owed p.shared = holds t + owed s)
    (hentry : ∀ t, B.entry t = true → holds t = 0)
    (houtside : ∀ k s, e = .outside k → B.outside p.shared k = some s → owed s = owed p.shared)
    (hp : held holds p = owed p.shared) : held holds q = owed q.shared := by
  unfold held at hp ⊢
  cases e with
  | advance i a =>
    obtain ⟨t, s, t', new, ht, hadvance, rfl⟩ := next_advance h
    have hset := sum_set holds t' ht
    have hbalance := hstep i a t s t' new rfl ht hadvance
    rw [List.map_append, List.sum_append]
    dsimp only
    omega
  | enter t =>
    obtain ⟨hbegins, rfl⟩ := next_enter h
    rw [List.map_append, List.sum_append, List.map_singleton, List.sum_singleton,
      hentry t hbegins]
    exact hp
  | outside k =>
    obtain ⟨s, hs, rfl⟩ := next_outside h
    rw [houtside k s rfl hs]
    exact hp

end Balance

section Alone

def Behaviour.alone (B : Behaviour σ τ ι κ) : σ × τ → ι → Option (σ × τ)
  | (s, t), a =>
    match B.step s t a with
    | some (s', t', []) => some (s', t')
    | some (_, _, _ :: _) | none => none

theorem alone_eq_some {s s' : σ} {t t' : τ} {a : ι} (h : B.alone (s, t) a = some (s', t')) :
    B.step s t a = some (s', t', []) := by
  rw [Behaviour.alone] at h
  split at h
  next hstep =>
    cases h
    exact hstep
  · cases h
  · cases h

/-- What a thread does without interruption, it can do within a pool. -/
theorem execution_of_alone {x y : σ × τ} {as : List ι} (ts : List τ) (i : Nat)
    (h : Execution B.alone (fun _ _ => True) x as y) (ht : ts[i]? = some x.2) :
    Execution B.next (fun _ _ => True) ⟨x.1, ts⟩ (as.map (.advance i)) ⟨y.1, ts.set i y.2⟩ := by
  induction h generalizing ts with
  | nil x =>
    obtain ⟨hi, hx⟩ := List.getElem?_eq_some_iff.mp ht
    rw [← hx, List.set_getElem_self]
    exact .nil _
  | @cons x y z a as _ hstep _ ih =>
    obtain ⟨hi, -⟩ := List.getElem?_eq_some_iff.mp ht
    have hnext := advance_next (p := ⟨x.1, ts⟩) ht (alone_eq_some hstep)
    rw [List.append_nil] at hnext
    have hrest := ih (ts.set i y.2) (List.getElem?_set_self hi)
    rw [List.set_set] at hrest
    exact .cons trivial hnext hrest

end Alone

end ThreadPool
