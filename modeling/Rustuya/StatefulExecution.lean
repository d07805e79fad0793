import Rustuya.CheckedExecution

/-!
# Execution on a state

A program reads and updates a state and ends with an outcome. The state it reached is
kept when it fails, so that what follows an error can be described. Sequencing stops at
the first error or panic.
-/
namespace StatefulExecution

open CheckedExecution

structure Program (σ ε α : Type) where
  run : σ → Outcome ε α × σ

namespace Program

variable {σ τ ε α β : Type}

protected def bind (x : Program σ ε α) (f : α → Program σ ε β) : Program σ ε β where
  run s := match x.run s with
    | (.ok a, t) => (f a).run t
    | (.err e, t) => (.err e, t)
    | (.panic, t) => (.panic, t)

instance : Monad (Program σ ε) where
  pure a := ⟨fun s => (.ok a, s)⟩
  bind := Program.bind

def lift (x : Outcome ε α) : Program σ ε α := ⟨fun s => (x, s)⟩

def fail (e : ε) : Program σ ε α := lift (.err e)

def read (f : σ → α) : Program σ ε α := ⟨fun s => (.ok (f s), s)⟩

def write (f : σ → σ) : Program σ ε Unit := ⟨fun s => (.ok (), f s)⟩

def zoom (get : σ → τ) (put : τ → σ → σ) (x : Program τ ε α) : Program σ ε α where
  run s := ((x.run (get s)).1, put (x.run (get s)).2 s)

/-- Continues after an error, in the state where it occurred. -/
def orElse (x : Program σ ε α) (f : ε → Program σ ε α) : Program σ ε α where
  run s := match x.run s with
    | (.ok a, t) => (.ok a, t)
    | (.err e, t) => (f e).run t
    | (.panic, t) => (.panic, t)

section Rules

variable {x : Program σ ε α} {f : α → Program σ ε β} {g : ε → Program σ ε α} {s t : σ}

@[simp] theorem run_pure (a : α) (s : σ) : (pure a : Program σ ε α).run s = (.ok a, s) := rfl
@[simp] theorem run_lift (x : Outcome ε α) (s : σ) : (lift x).run s = (x, s) := rfl
@[simp] theorem run_read (f : σ → α) (s : σ) :
    (read f : Program σ ε α).run s = (.ok (f s), s) := rfl

theorem run_zoom (get : σ → τ) (put : τ → σ → σ) (y : Program τ ε α) (s : σ) :
    (zoom get put y).run s = ((y.run (get s)).1, put (y.run (get s)).2 s) := rfl

theorem run_bind_ok {a : α} (h : x.run s = (.ok a, t)) : (x >>= f).run s = (f a).run t := by
  change (Program.bind x f).run s = (f a).run t
  simp only [Program.bind, h]

theorem run_bind_err {e : ε} (h : x.run s = (.err e, t)) : (x >>= f).run s = (.err e, t) := by
  change (Program.bind x f).run s = _
  simp only [Program.bind, h]

theorem run_bind_panic (h : x.run s = (.panic, t)) : (x >>= f).run s = (.panic, t) := by
  change (Program.bind x f).run s = _
  simp only [Program.bind, h]

theorem run_orElse_ok {a : α} (h : x.run s = (.ok a, t)) :
    (orElse x g).run s = (.ok a, t) := by
  simp only [orElse, h]

theorem run_orElse_err {e : ε} (h : x.run s = (.err e, t)) :
    (orElse x g).run s = (g e).run t := by
  simp only [orElse, h]

end Rules

section Keeps

variable {π : Type} {f : σ → π} {x : Program σ ε α} {g : α → Program σ ε β}
  {k : ε → Program σ ε α}

/-- The program leaves a part of the state as it was, however it ends. -/
def Keeps (f : σ → π) (x : Program σ ε α) : Prop := ∀ s, f (x.run s).2 = f s

theorem Keeps.comp {ρ : Type} (hx : Keeps f x) (h : π → ρ) : Keeps (fun s => h (f s)) x :=
  fun s => congrArg h (hx s)

theorem keeps_pure (a : α) : Keeps f (pure a : Program σ ε α) := fun _ => rfl

theorem keeps_lift (x : Outcome ε α) : Keeps f (lift x : Program σ ε α) := fun _ => rfl

theorem keeps_read (h : σ → α) : Keeps f (read h : Program σ ε α) := fun _ => rfl

theorem keeps_write {h : σ → σ} (hh : ∀ s, f (h s) = f s) :
    Keeps f (write h : Program σ ε Unit) := hh

theorem keeps_ite {c : Prop} [Decidable c] {y : Program σ ε α} (hx : Keeps f x)
    (hy : Keeps f y) : Keeps f (if c then x else y) := by
  split
  · exact hx
  · exact hy

theorem Keeps.bind (hx : Keeps f x) (hg : ∀ a, Keeps f (g a)) : Keeps f (x >>= g) := by
  intro s
  have hs := hx s
  change f ((Program.bind x g).run s).2 = f s
  rcases hrun : x.run s with ⟨out, t⟩
  rw [hrun] at hs
  cases out with
  | ok a => simpa only [Program.bind, hrun] using (hg a t).trans hs
  | err e => simpa only [Program.bind, hrun] using hs
  | panic => simpa only [Program.bind, hrun] using hs

theorem bind_keeps (hg : ∀ a, Keeps f (g a)) (s : σ) : f ((x >>= g).run s).2 = f (x.run s).2 := by
  change f ((Program.bind x g).run s).2 = _
  rcases hrun : x.run s with ⟨out, t⟩
  cases out with
  | ok a => simpa only [Program.bind, hrun] using hg a t
  | err e => simp only [Program.bind, hrun]
  | panic => simp only [Program.bind, hrun]

/-- If a program adds nothing to the empty list `g`, what is in it at the end comes from what
followed the program. -/
theorem mem_bind {β γ : Type} {g : σ → List β} {x : Program σ ε α} {k : α → Program σ ε γ} {s : σ}
    {m : β} (hx : x.Keeps g) (hs : g s = []) (hm : m ∈ g ((x >>= k).run s).2) :
    ∃ a t, x.run s = (.ok a, t) ∧ g t = [] ∧ m ∈ g ((k a).run t).2 := by
  have hkeeps := hx s
  rcases hrun : x.run s with ⟨out, t⟩
  rw [hrun, hs] at hkeeps
  cases out with
  | ok a =>
    rw [run_bind_ok hrun] at hm
    exact ⟨a, t, rfl, hkeeps, hm⟩
  | err e =>
    rw [run_bind_err hrun, hkeeps] at hm
    cases hm
  | panic =>
    rw [run_bind_panic hrun, hkeeps] at hm
    cases hm

theorem orElse_keeps (hk : ∀ e, Keeps f (k e)) (s : σ) :
    f ((orElse x k).run s).2 = f (x.run s).2 := by
  rcases hrun : x.run s with ⟨out, t⟩
  cases out with
  | ok a => simp only [Program.orElse, hrun]
  | err e => simpa only [Program.orElse, hrun] using hk e t
  | panic => simp only [Program.orElse, hrun]

/-- Two programs with the same beginning agree on a part if what follows agrees on it. -/
theorem bind_agree {γ : Type} {g' : α → Program σ ε γ} {s : σ}
    (h : ∀ a t, x.run s = (.ok a, t) → f ((g a).run t).2 = f ((g' a).run t).2) :
    f ((x >>= g).run s).2 = f ((x >>= g').run s).2 := by
  rcases hrun : x.run s with ⟨out, t⟩
  cases out with
  | ok a => rw [run_bind_ok hrun, run_bind_ok hrun, h a t hrun]
  | err e => rw [run_bind_err hrun, run_bind_err hrun]
  | panic => rw [run_bind_panic hrun, run_bind_panic hrun]

theorem Keeps.orElse (hx : Keeps f x) (hk : ∀ e, Keeps f (k e)) : Keeps f (orElse x k) := by
  intro s
  have hs := hx s
  rcases hrun : x.run s with ⟨out, t⟩
  rw [hrun] at hs
  cases out with
  | ok a => simpa only [Program.orElse, hrun] using hs
  | err e => simpa only [Program.orElse, hrun] using (hk e t).trans hs
  | panic => simpa only [Program.orElse, hrun] using hs

theorem Keeps.zoom {get : σ → τ} {put : τ → σ → σ} {h : τ → π} {y : Program τ ε α}
    (hput : ∀ t s, f (put t s) = h t) (hget : ∀ s, f s = h (get s)) (hy : Keeps h y) :
    Keeps f (zoom get put y) := by
  intro s
  rw [run_zoom, hput, hy (get s), hget]

end Keeps

end Program

end StatefulExecution
