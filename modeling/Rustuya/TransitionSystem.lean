import Mathlib.Data.List.Basic

/-!
# Runs of labelled systems

A system takes a step for every label it enables. A run is a list of labels, and what
every allowed step preserves, every run of allowed steps preserves.
-/
namespace TransitionSystem

variable {σ ι : Type}

inductive Execution (next : σ → ι → Option σ) (allowed : σ → ι → Prop) :
    σ → List ι → σ → Prop where
  | nil (s : σ) : Execution next allowed s [] s
  | cons {s t u : σ} {e : ι} {es : List ι} (ha : allowed s e) (h : next s e = some t)
      (k : Execution next allowed t es u) : Execution next allowed s (e :: es) u

variable {next : σ → ι → Option σ} {allowed : σ → ι → Prop}

theorem Execution.invariant {P : σ → Prop}
    (hstep : ∀ s e t, allowed s e → next s e = some t → P s → P t) {s t : σ} {es : List ι}
    (h : Execution next allowed s es t) (hs : P s) : P t := by
  induction h with
  | nil s => exact hs
  | cons ha h _ ih => exact ih (hstep _ _ _ ha h hs)

theorem Execution.append {s t u : σ} {es fs : List ι} (h : Execution next allowed s es t)
    (k : Execution next allowed t fs u) : Execution next allowed s (es ++ fs) u := by
  induction h with
  | nil s => exact k
  | cons ha h _ ih => exact .cons ha h (ih k)

theorem Execution.mono {allowed' : σ → ι → Prop} (hmono : ∀ s e, allowed s e → allowed' s e)
    {s t : σ} {es : List ι} (h : Execution next allowed s es t) :
    Execution next allowed' s es t := by
  induction h with
  | nil s => exact .nil s
  | cons ha h _ ih => exact .cons (hmono _ _ ha) h ih

/-- A run that ends in `P` and did not start there has entered `P` for a last time. -/
theorem Execution.last_entry {P : σ → Prop} {s t : σ} {es : List ι}
    (h : Execution next allowed s es t) (hs : ¬ P s) (ht : P t) :
    ∃ fs e gs u v, es = fs ++ e :: gs ∧ Execution next allowed s fs u ∧ ¬ P u ∧ allowed u e ∧
      next u e = some v ∧ Execution next (fun s _ => P s) v gs t := by
  -- Either the run stays in `P`, or it has entered it.
  suffices hsplit : P s ∧ Execution next (fun s _ => P s) s es t ∨
      ∃ fs e gs u v, es = fs ++ e :: gs ∧ Execution next allowed s fs u ∧ ¬ P u ∧ allowed u e ∧
        next u e = some v ∧ Execution next (fun s _ => P s) v gs t by
    rcases hsplit with ⟨hin, -⟩ | hentry
    · exact absurd hin hs
    · exact hentry
  clear hs
  induction h with
  | nil s => exact .inl ⟨ht, .nil s⟩
  | @cons s t u e es ha h k ih =>
    rcases ih ht with ⟨hin, hstays⟩ | ⟨fs, f, gs, v, v', rfl, hfs, hv, hf, hnext, hgs⟩
    · by_cases hs : P s
      · exact .inl ⟨hs, .cons hs h hstays⟩
      · exact .inr ⟨[], e, es, s, t, rfl, .nil s, hs, ha, h, hstays⟩
    · exact .inr ⟨e :: fs, f, gs, v, v', rfl, .cons ha h hfs, hv, hf, hnext, hgs⟩

def run (next : σ → ι → Option σ) (s : σ) : List ι → Option σ
  | [] => some s
  | e :: es => (next s e).bind fun t => run next t es

def guarded (g : σ → ι → Bool) (next : σ → ι → Option σ) (s : σ) (e : ι) : Option σ :=
  if g s e then next s e else none

theorem execution_of_guarded_run {g : σ → ι → Bool} (hg : ∀ s e, g s e = true → allowed s e)
    {t : σ} {es : List ι} : ∀ {s : σ}, run (guarded g next) s es = some t →
      Execution next allowed s es t := by
  induction es with
  | nil =>
    intro s h
    cases h
    exact .nil _
  | cons e es ih =>
    intro s h
    obtain ⟨u, hu, hrest⟩ := Option.bind_eq_some_iff.mp h
    by_cases hs : g s e = true
    · rw [guarded, if_pos hs] at hu
      exact .cons (hg s e hs) hu (ih hrest)
    · rw [guarded, if_neg hs] at hu
      cases hu

theorem execution_of_run (hall : ∀ s e, allowed s e) {s t : σ} {es : List ι}
    (h : run next s es = some t) : Execution next allowed s es t :=
  execution_of_guarded_run (g := fun _ _ => true) (fun s e _ => hall s e) h

section Ranks

variable {P : ι → Bool} {f : σ → Nat}

/-- If some steps lower a rank and no step raises it, there are no more of them in a run than the
rank was at its start. -/
theorem Execution.bounded
    (hstep : ∀ s e t, allowed s e → next s e = some t →
      f t + (if P e then 1 else 0) ≤ f s)
    {s t : σ} {es : List ι} (h : Execution next allowed s es t) :
    f t + (es.filter P).length ≤ f s := by
  induction h with
  | nil s => exact Nat.le_refl _
  | @cons s t u e es ha h _ ih =>
    have hfirst := hstep _ _ _ ha h
    rw [List.filter_cons]
    cases hown : P e with
    | true =>
      rw [hown, if_pos rfl] at hfirst
      rw [if_pos rfl, List.length_cons]
      omega
    | false =>
      rw [hown, if_neg Bool.false_ne_true] at hfirst
      rw [if_neg Bool.false_ne_true]
      omega

end Ranks

section Harvest

variable {α : Type}

/-- What the steps of a run bring in, in the order of the run. -/
def harvest (f : σ → ι → List α) (next : σ → ι → Option σ) (s : σ) : List ι → List α
  | [] => []
  | e :: es => f s e ++ (next s e).elim [] fun t => harvest f next t es

/-- If every step adds to the stock `m` just what it brings in, as long as the system is
alive, then so does every run that ends alive. -/
theorem Execution.conserves {f : σ → ι → List α} {m : σ → List α} {P : σ → Prop}
    (halive : ∀ s e t, allowed s e → next s e = some t → P t → P s)
    (hstep : ∀ s e t, allowed s e → next s e = some t → P t → (m t).Perm (m s ++ f s e))
    {s t : σ} {es : List ι} (h : Execution next allowed s es t) (ht : P t) :
    P s ∧ (m t).Perm (m s ++ harvest f next s es) := by
  induction h with
  | nil s =>
    refine ⟨ht, ?_⟩
    rw [harvest, List.append_nil]
  | @cons s t u e es ha h _ ih =>
    obtain ⟨hlive, hrest⟩ := ih ht
    refine ⟨halive _ _ _ ha h hlive, ?_⟩
    have hperm := hrest.trans ((hstep _ _ _ ha h hlive).append_right _)
    rw [harvest, h, Option.elim_some, ← List.append_assoc]
    exact hperm

theorem Execution.queues {f : σ → ι → List α} {m : σ → List α}
    (hstep : ∀ s e t, allowed s e → next s e = some t → (m t).Sublist (m s ++ f s e))
    {s t : σ} {es : List ι} (h : Execution next allowed s es t) :
    (m t).Sublist (m s ++ harvest f next s es) := by
  induction h with
  | nil s => rw [harvest, List.append_nil]
  | @cons s t u e es ha h _ ih =>
    rw [harvest, h, Option.elim_some, ← List.append_assoc]
    exact ih.trans ((hstep _ _ _ ha h).append_right _)

theorem Execution.pipes {f g : σ → ι → List α} {m : σ → List α}
    (hstep : ∀ s e t, allowed s e → next s e = some t →
      (g s e ++ m t).Sublist (m s ++ f s e))
    {s t : σ} {es : List ι} (h : Execution next allowed s es t) :
    (harvest g next s es ++ m t).Sublist (m s ++ harvest f next s es) := by
  induction h with
  | nil s =>
    rw [harvest, harvest, List.nil_append, List.append_nil]
  | @cons s t u e es ha h _ ih =>
    rw [harvest, harvest, h, Option.elim_some, Option.elim_some, List.append_assoc,
      ← List.append_assoc (m s)]
    calc
      (g s e ++ (harvest g next t es ++ m u)).Sublist
          (g s e ++ (m t ++ harvest f next t es)) := ih.append_left _
      _ = g s e ++ m t ++ harvest f next t es := (List.append_assoc ..).symm
      List.Sublist _ (m s ++ f s e ++ harvest f next t es) :=
        (hstep _ _ _ ha h).append_right _

theorem Execution.accumulates {g : ι → List α} {P : List α → σ → Prop}
    (hstep : ∀ xs s e t, allowed s e → next s e = some t → P xs s → P (xs ++ g e) t)
    {s t : σ} {es : List ι} (h : Execution next allowed s es t) {xs : List α} (hs : P xs s) :
    P (xs ++ es.flatMap g) t := by
  induction h generalizing xs with
  | nil s =>
    rw [List.flatMap_nil, List.append_nil]
    exact hs
  | cons ha h _ ih =>
    rw [List.flatMap_cons, ← List.append_assoc]
    exact ih (hstep xs _ _ _ ha h hs)

theorem Execution.records {f : σ → ι → List α} {P : List α → σ → Prop}
    (hstep : ∀ xs s e t, allowed s e → next s e = some t → P xs s → P (xs ++ f s e) t)
    {s t : σ} {es : List ι} (h : Execution next allowed s es t) {xs : List α} (hs : P xs s) :
    P (xs ++ harvest f next s es) t := by
  induction h generalizing xs with
  | nil s =>
    rw [harvest, List.append_nil]
    exact hs
  | @cons s t u e es ha h _ ih =>
    rw [harvest, h, Option.elim_some, ← List.append_assoc]
    exact ih (hstep xs _ _ _ ha h hs)

end Harvest

/-- What every step keeps of a state together with the run that led to it. -/
theorem Execution.history {s : σ} {P : List ι → σ → Prop} (hstart : P [] s)
    (hstep : ∀ es t e u, Execution next allowed s es t → allowed t e → next t e = some u →
      P es t → P (es ++ [e]) u)
    {t : σ} {es : List ι} (h : Execution next allowed s es t) : P es t := by
  have hboth := h.accumulates (g := fun e => [e])
    (P := fun fs u => Execution next allowed s fs u ∧ P fs u)
    (fun fs u e v ha hnext hu => ⟨hu.1.append (.cons ha hnext (.nil v)),
      hstep fs u e v hu.1 ha hnext hu.2⟩) ⟨.nil s, hstart⟩
  rw [List.nil_append, List.flatMap_singleton'] at hboth
  exact hboth.2

theorem runs_of_observed {α β : Type} {f : σ → α} {g : σ → β} {s : σ} {es fs : List ι} {a : α}
    {b : β} (h : (run next s es).map (fun t => (f t, (run next t fs).map g)) = some (a, some b)) :
    ∃ t u, run next s es = some t ∧ f t = a ∧ run next t fs = some u ∧ g u = b := by
  obtain ⟨t, ht, hobserved⟩ := Option.map_eq_some_iff.mp h
  obtain ⟨u, hu, hg⟩ := Option.map_eq_some_iff.mp (congrArg Prod.snd hobserved)
  exact ⟨t, u, ht, congrArg Prod.fst hobserved, hu, hg⟩

end TransitionSystem
