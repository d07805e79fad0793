import Mathlib.Algebra.Ring.Int.Defs
import Mathlib.Algebra.Ring.Nat
import Mathlib.Data.List.Basic

/-!
# Execution with errors and panics

A call of a checked systems language ends in one of three ways: it returns a
value, it returns an error, or it panics. Unsigned arithmetic depends on how the
program was built: with overflow checks an overflow panics, without them it wraps.
Slicing and indexing are checked in every build.
-/
namespace CheckedExecution

inductive Outcome (ε α : Type) where
  | ok (a : α)
  | err (e : ε)
  | panic
  deriving DecidableEq, Repr

namespace Outcome

variable {ε α β γ : Type}

/-- The `?` operator: errors and panics leave the enclosing function. -/
def bind (x : Outcome ε α) (f : α → Outcome ε β) : Outcome ε β :=
  match x with
  | .ok a => f a
  | .err e => .err e
  | .panic => .panic

instance : Monad (Outcome ε) where
  pure := .ok
  bind := bind

@[simp] theorem ok_bind (a : α) (f : α → Outcome ε β) : (.ok a >>= f) = f a := rfl
@[simp] theorem err_bind (e : ε) (f : α → Outcome ε β) : (.err e >>= f) = .err e := rfl
@[simp] theorem panic_bind (f : α → Outcome ε β) : ((.panic : Outcome ε α) >>= f) = .panic := rfl

def okOr (e : ε) : Option α → Outcome ε α
  | some a => .ok a
  | none => .err e

@[simp] theorem okOr_some (e : ε) (a : α) : okOr e (some a) = .ok a := rfl

/-- The call returns, with a value or an error. -/
def Returns (x : Outcome ε α) : Prop := x ≠ .panic

instance (x : Outcome ε α) : Decidable x.Returns :=
  match x with
  | .ok _ => isTrue (by intro h; cases h)
  | .err _ => isTrue (by intro h; cases h)
  | .panic => isFalse (fun h => h rfl)

@[simp] theorem returns_err (e : ε) : (err e : Outcome ε α).Returns := by intro h; cases h

theorem bind_eq_ok {x : Outcome ε α} {f : α → Outcome ε β} {b : β}
    (h : (x >>= f) = .ok b) : ∃ a, x = .ok a ∧ f a = .ok b := by
  cases x with
  | ok a => exact ⟨a, rfl, h⟩
  | err e => cases h
  | panic => cases h

def ReturnsWith (P : ε → Prop) : Outcome ε α → Prop
  | .ok _ => True
  | .err e => P e
  | .panic => False

section ReturnsWith

variable {P : ε → Prop} {x : Outcome ε α}

theorem ReturnsWith.returns (h : x.ReturnsWith P) : x.Returns := by
  rintro rfl
  exact h

theorem ReturnsWith.bind {f : α → Outcome ε β} (hx : x.ReturnsWith P)
    (hf : ∀ a, x = .ok a → (f a).ReturnsWith P) : (x >>= f).ReturnsWith P := by
  cases x with
  | ok a => exact hf a rfl
  | err e => exact hx
  | panic => exact hx

theorem returnsWith_okOr {e : ε} (h : P e) (o : Option α) : (okOr e o).ReturnsWith P := by
  cases o with
  | some a => trivial
  | none => exact h

end ReturnsWith

section Search

/-- The first result among several attempts. An error or a panic ends the search. -/
def firstSome (f : α → Outcome ε (Option β)) : List α → Outcome ε (Option β)
  | [] => .ok none
  | a :: rest => do
    match ← f a with
    | some b => .ok (some b)
    | none => firstSome f rest

variable {f : α → Outcome ε (Option β)} {a : α} {b : β} {xs ys : List α}

theorem firstSome_found (h : f a = .ok (some b)) (rest : List α) :
    firstSome f (a :: rest) = .ok (some b) := by
  rw [firstSome, h, ok_bind]

theorem firstSome_next (h : f a = .ok none) (rest : List α) :
    firstSome f (a :: rest) = firstSome f rest := by
  rw [firstSome, h, ok_bind]

theorem firstSome_none (h : ∀ a ∈ xs, f a = .ok none) : firstSome f xs = .ok none := by
  induction xs with
  | nil => rfl
  | cons a xs ih =>
    rw [firstSome_next (h a List.mem_cons_self)]
    exact ih fun b hb => h b (List.mem_cons_of_mem a hb)

theorem firstSome_skip (h : ∀ a ∈ xs, f a = .ok none) (ys : List α) :
    firstSome f (xs ++ ys) = firstSome f ys := by
  induction xs with
  | nil => rfl
  | cons a xs ih =>
    rw [List.cons_append, firstSome_next (h a List.mem_cons_self)]
    exact ih fun b hb => h b (List.mem_cons_of_mem a hb)

theorem firstSome_repeated (h : ∃ c ∈ xs, f c = f a) :
    firstSome f (xs ++ a :: ys) = firstSome f (xs ++ ys) := by
  induction xs with
  | nil =>
    obtain ⟨c, hc, -⟩ := h
    cases hc
  | cons x xs ih =>
    rw [List.cons_append, List.cons_append]
    cases hx : f x with
    | err e => simp only [firstSome, hx, err_bind]
    | panic => simp only [firstSome, hx, panic_bind]
    | ok found =>
      cases found with
      | some b => rw [firstSome_found hx, firstSome_found hx]
      | none =>
        rw [firstSome_next hx, firstSome_next hx]
        obtain ⟨c, hc, hsame⟩ := h
        rcases List.mem_cons.mp hc with rfl | hc
        · -- The attempt itself has failed already, wherever it is made again.
          have hfail : f a = .ok none := hsame ▸ hx
          clear ih hc
          induction xs with
          | nil => exact firstSome_next hfail ys
          | cons y xs ih => simp only [List.cons_append, firstSome, ih]
        · exact ih ⟨c, hc, hsame⟩

end Search

end Outcome

structure Build where
  overflowChecks : Bool
  deriving DecidableEq, Repr

def Build.release : Build := ⟨false⟩

section Checked

variable {ε α : Type}

def addU32 (build : Build) (a b : UInt32) : Outcome ε UInt32 :=
  if a.toNat + b.toNat < 2 ^ 32 then .ok (a + b)
  else if build.overflowChecks then .panic else .ok (a + b)

def addI32 (build : Build) (a b : Int32) : Outcome ε Int32 :=
  if -2 ^ 31 ≤ a.toInt + b.toInt ∧ a.toInt + b.toInt < 2 ^ 31 then .ok (a + b)
  else if build.overflowChecks then .panic else .ok (a + b)

/-- `a - b` on `usize`, which is 64 bits wide, and on `u64`. -/
def subUsize (build : Build) (a b : Nat) : Outcome ε Nat :=
  if b ≤ a then .ok (a - b)
  else if build.overflowChecks then .panic else .ok (a + 2 ^ 64 - b)

def remUsize (a b : Nat) : Outcome ε Nat := if b = 0 then .panic else .ok (a % b)

/-- What an operation on `u64` returns if its exact result is `n`. -/
def exactU64 (build : Build) (n : Nat) : Outcome ε Nat :=
  if n < 2 ^ 64 then .ok n
  else if build.overflowChecks then .panic else .ok (n % 2 ^ 64)

def addU64 (build : Build) (a b : Nat) : Outcome ε Nat := exactU64 build (a + b)

def mulU64 (build : Build) (a b : Nat) : Outcome ε Nat := exactU64 build (a * b)

def powU64 (build : Build) (a n : Nat) : Outcome ε Nat := exactU64 build (a ^ n)

/-- No object is larger, so no slice holds more bytes. -/
def isizeMax : Nat := 2 ^ 63 - 1

/-- `&xs[i..j]`. A bound above `isizeMax` is past the end of every slice. -/
def slice (xs : List α) (i j : Nat) : Outcome ε (List α) :=
  if i ≤ j ∧ j ≤ xs.length ∧ j ≤ isizeMax then .ok ((xs.take j).drop i) else .panic

def sliceFrom (xs : List α) (i : Nat) : Outcome ε (List α) :=
  if i ≤ xs.length then .ok (xs.drop i) else .panic

def index (xs : List α) (i : Nat) : Outcome ε α :=
  match xs[i]? with
  | some a => .ok a
  | none => .panic

theorem addU32_of_lt (build : Build) {a b : UInt32} (h : a.toNat + b.toNat < 2 ^ 32) :
    addU32 build a b = (.ok (a + b) : Outcome ε UInt32) := if_pos h

theorem addU32_cases (build : Build) (a b : UInt32) :
    addU32 build a b = (.ok (a + b) : Outcome ε UInt32) ∨
      addU32 build a b = (.panic : Outcome ε UInt32) := by
  unfold addU32
  split
  · exact .inl rfl
  · split
    · exact .inr rfl
    · exact .inl rfl

theorem addU32_eq_ok {build : Build} {a b n : UInt32}
    (h : addU32 build a b = (.ok n : Outcome ε UInt32)) :
    n = a + b ∧ (build.overflowChecks = true → a.toNat + b.toNat < 2 ^ 32) := by
  unfold addU32 at h
  split at h
  next hfits =>
    cases h
    exact ⟨rfl, fun _ => hfits⟩
  · split at h
    · cases h
    next hwraps =>
      cases h
      exact ⟨rfl, fun hchecks => absurd hchecks hwraps⟩

theorem addU32_ne_err {build : Build} {a b : UInt32} {e : ε} : addU32 build a b ≠ .err e := by
  intro h
  rcases addU32_cases (ε := ε) build a b with hok | hpanic
  · rw [h] at hok
    cases hok
  · rw [h] at hpanic
    cases hpanic

theorem addU32_eq_panic {build : Build} {a b : UInt32}
    (h : addU32 build a b = (.panic : Outcome ε UInt32)) :
    build.overflowChecks = true ∧ 2 ^ 32 ≤ a.toNat + b.toNat := by
  unfold addU32 at h
  split at h
  · cases h
  next hover =>
    split at h
    next hchecks => exact ⟨hchecks, Nat.le_of_not_lt hover⟩
    · cases h

theorem addU32_ok {build : Build} {a b : UInt32}
    (h : build.overflowChecks = true → a.toNat + b.toNat < 2 ^ 32) :
    addU32 build a b = (.ok (a + b) : Outcome ε UInt32) := by
  cases hc : build.overflowChecks with
  | true => exact addU32_of_lt build (h hc)
  | false => simp [addU32, hc]

theorem addI32_ok {build : Build} {a b : Int32} (h : build.overflowChecks = true →
      -2 ^ 31 ≤ a.toInt + b.toInt ∧ a.toInt + b.toInt < 2 ^ 31) :
    addI32 build a b = (.ok (a + b) : Outcome ε Int32) := by
  cases hc : build.overflowChecks with
  | true => exact if_pos (h hc)
  | false => simp [addI32, hc]

theorem toInt_succ {a : Int32} (h₀ : 0 ≤ a.toInt) (h₁ : a.toInt + 1 < 2 ^ 31) :
    (a + 1).toInt = a.toInt + 1 := by
  have hone : (1 : Int32).toInt = 1 := rfl
  rw [Int32.toInt_add, hone, Int.bmod_eq_of_le (by omega) (by omega)]

theorem subUsize_of_le (build : Build) {a b : Nat} (h : b ≤ a) :
    subUsize build a b = (.ok (a - b) : Outcome ε Nat) := if_pos h

theorem remUsize_of_pos {a b : Nat} (h : 0 < b) :
    remUsize a b = (.ok (a % b) : Outcome ε Nat) := if_neg (by omega)

theorem exactU64_of_lt (build : Build) {n : Nat} (h : n < 2 ^ 64) :
    exactU64 build n = (.ok n : Outcome ε Nat) := if_pos h

/-- A negative difference panics, or wraps to a number no slice is as long as. -/
theorem subUsize_of_lt (build : Build) {a b : Nat} (h : a < b) (hb : b ≤ 2 ^ 63) :
    subUsize build a b = (.panic : Outcome ε Nat) ∨
      ∃ n, subUsize build a b = (.ok n : Outcome ε Nat) ∧ isizeMax < n := by
  have hmax : isizeMax = 2 ^ 63 - 1 := rfl
  cases hc : build.overflowChecks with
  | true => exact Or.inl (by simp [subUsize, hc, Nat.not_le.mpr h])
  | false =>
    refine Or.inr ⟨a + 2 ^ 64 - b, by simp [subUsize, hc, Nat.not_le.mpr h], ?_⟩
    omega

theorem slice_of_le {xs : List α} {i j : Nat} (hij : i ≤ j) (hj : j ≤ xs.length)
    (hm : j ≤ isizeMax) : slice xs i j = (.ok ((xs.take j).drop i) : Outcome ε (List α)) :=
  if_pos ⟨hij, hj, hm⟩

theorem slice_past_max {xs : List α} {i j : Nat} (h : isizeMax < j) :
    slice xs i j = (.panic : Outcome ε (List α)) :=
  if_neg (fun hc => by omega)

theorem sliceFrom_of_le {xs : List α} {i : Nat} (h : i ≤ xs.length) :
    sliceFrom xs i = (.ok (xs.drop i) : Outcome ε (List α)) := if_pos h

theorem index_of_lt {xs : List α} {i : Nat} (h : i < xs.length) :
    index xs i = (.ok xs[i] : Outcome ε α) := by
  simp [index, List.getElem?_eq_getElem h]

end Checked

end CheckedExecution
