import Mathlib.Data.List.Basic
import Rustuya.TransitionSystem

/-!
# Workers that serve one client at a time

A worker takes actions from a bounded queue, in order. For each of them it starts a call in a
system underneath, waits until that call has an outcome, and hands the outcome to the client
that had asked for it. Other workers, and others still, use the same system.

Nothing is said here about the system but how a call of it begins, by which token it is known
while it runs, and when it has an outcome.
-/
namespace SerialWorkers

open TransitionSystem

/-- A system whose calls take several steps. -/
structure Service (σ ι κ τ ρ : Type) where
  next : σ → ι → Option σ
  /-- The step by which an action begins. -/
  begins : κ → ι
  /-- The call that begins with an action in a state. -/
  token : σ → κ → τ
  /-- The same call after a step. -/
  follow : σ → ι → σ → τ → τ
  outcome : σ → τ → Option ρ
  /-- The steps that only the owner of a call can take. -/
  reserved : ι → τ → Bool

inductive Stage (τ ρ : Type) where
  | sending
  | waiting
  | returned (call : Option τ) (result : ρ)

structure Client (κ τ ρ : Type) where
  worker : Nat
  action : Except ρ κ
  stage : Stage τ ρ

structure Worker (κ τ : Type) where
  queue : List (Nat × κ)
  job : Option (Nat × κ × τ)

structure Office (σ κ τ ρ : Type) where
  base : σ
  workers : List (Worker κ τ)
  clients : List (Client κ τ ρ)

inductive OfficeEvent (ι κ ρ : Type) where
  | hire
  /-- A client comes to a worker, or is turned away at once. -/
  | arrive (worker : Nat) (action : Except ρ κ)
  | send (i : Nat)
  | take (k : Nat)
  | finish (k : Nat)
  | base (e : ι)

variable {σ ι κ τ ρ : Type}

def arrival (worker : Nat) (action : Except ρ κ) : Client κ τ ρ :=
  match action with
  | .ok a => ⟨worker, .ok a, .sending⟩
  | .error r => ⟨worker, .error r, .returned none r⟩

section Steps

variable (service : Service σ ι κ τ ρ) (capacity : Nat)

def Worker.follow (s : σ) (e : ι) (t : σ) (w : Worker κ τ) : Worker κ τ :=
  { w with job := w.job.map fun job => (job.1, job.2.1, service.follow s e t job.2.2) }

def Worker.reserves (e : ι) (w : Worker κ τ) : Bool :=
  w.job.any fun job => service.reserved e job.2.2

def send (o : Office σ κ τ ρ) (i : Nat) : Option (Office σ κ τ ρ) :=
  match o.clients[i]? with
  | some ⟨k, .ok a, .sending⟩ =>
    match o.workers[k]? with
    | some w =>
      if w.queue.length < capacity then
        some { o with
          workers := o.workers.set k { w with queue := w.queue ++ [(i, a)] }
          clients := o.clients.modify i fun c => { c with stage := .waiting } }
      else none
    | none => none
  | _ => none

def take (o : Office σ κ τ ρ) (k : Nat) : Option (Office σ κ τ ρ) :=
  match o.workers[k]? with
  | some ⟨(i, a) :: queue, none⟩ =>
    (service.next o.base (service.begins a)).map fun t =>
      { o with
        base := t
        workers := (o.workers.map (Worker.follow service o.base (service.begins a) t)).set k
          ⟨queue, some (i, a, service.token o.base a)⟩ }
  | _ => none

def finish (o : Office σ κ τ ρ) (k : Nat) : Option (Office σ κ τ ρ) :=
  match o.workers[k]? with
  | some ⟨queue, some (i, _, call)⟩ =>
    (service.outcome o.base call).map fun r =>
      { o with
        workers := o.workers.set k ⟨queue, none⟩
        clients := o.clients.modify i fun c => { c with stage := .returned (some call) r } }
  | _ => none

def officeNext (o : Office σ κ τ ρ) : OfficeEvent ι κ ρ → Option (Office σ κ τ ρ)
  | .hire => some { o with workers := o.workers ++ [⟨[], none⟩] }
  | .arrive worker action => some { o with clients := o.clients ++ [arrival worker action] }
  | .send i => send capacity o i
  | .take k => take service o k
  | .finish k => finish service o k
  | .base e =>
    if o.workers.any (Worker.reserves service e) then none
    else (service.next o.base e).map fun t =>
      { o with base := t, workers := o.workers.map (Worker.follow service o.base e t) }

end Steps

section Rules

variable {service : Service σ ι κ τ ρ} {capacity : Nat} {o o' : Office σ κ τ ρ}
  {e : OfficeEvent ι κ ρ}

def setStage (clients : List (Client κ τ ρ)) (i : Nat) (stage : Stage τ ρ) :
    List (Client κ τ ρ) := clients.modify i fun c => { c with stage }

inductive OfficeStep (service : Service σ ι κ τ ρ) (o : Office σ κ τ ρ) :
    OfficeEvent ι κ ρ → Office σ κ τ ρ → Prop where
  | hires : OfficeStep service o .hire { o with workers := o.workers ++ [⟨[], none⟩] }
  | arrives (worker : Nat) (action : Except ρ κ) :
      OfficeStep service o (.arrive worker action)
        { o with clients := o.clients ++ [arrival worker action] }
  | sends (i k : Nat) (a : κ) (w : Worker κ τ) (hclient : o.clients[i]? = some ⟨k, .ok a, .sending⟩)
      (hworker : o.workers[k]? = some w) :
      OfficeStep service o (.send i) { o with
        workers := o.workers.set k { w with queue := w.queue ++ [(i, a)] }
        clients := setStage o.clients i .waiting }
  | takes (k i : Nat) (a : κ) (queue : List (Nat × κ)) (t : σ)
      (hworker : o.workers[k]? = some ⟨(i, a) :: queue, none⟩)
      (hnext : service.next o.base (service.begins a) = some t) :
      OfficeStep service o (.take k) { o with
        base := t
        workers := (o.workers.map (Worker.follow service o.base (service.begins a) t)).set k
          ⟨queue, some (i, a, service.token o.base a)⟩ }
  | finishes (k i : Nat) (a : κ) (queue : List (Nat × κ)) (call : τ) (r : ρ)
      (hworker : o.workers[k]? = some ⟨queue, some (i, a, call)⟩)
      (houtcome : service.outcome o.base call = some r) :
      OfficeStep service o (.finish k) { o with
        workers := o.workers.set k ⟨queue, none⟩
        clients := setStage o.clients i (.returned (some call) r) }
  | works (e : ι) (t : σ)
      (hfree : ∀ w ∈ o.workers, ∀ job, w.job = some job → service.reserved e job.2.2 = false)
      (hnext : service.next o.base e = some t) :
      OfficeStep service o (.base e)
        { o with base := t, workers := o.workers.map (Worker.follow service o.base e t) }

theorem officeNext_step (h : officeNext service capacity o e = some o') :
    OfficeStep service o e o' := by
  cases e with
  | hire =>
    cases h
    exact .hires
  | arrive worker action =>
    cases h
    exact .arrives worker action
  | send i =>
    replace h : send capacity o i = some o' := h
    unfold send at h
    split at h
    next k a hclient =>
      split at h
      next w hworker =>
        split at h
        · cases h
          exact .sends i k a w hclient hworker
        · cases h
      · cases h
    · cases h
  | take k =>
    replace h : take service o k = some o' := h
    unfold take at h
    split at h
    next i a queue hworker =>
      obtain ⟨t, hnext, rfl⟩ := Option.map_eq_some_iff.mp h
      exact .takes k i a queue t hworker hnext
    · cases h
  | finish k =>
    replace h : finish service o k = some o' := h
    unfold finish at h
    split at h
    next queue i a call hworker =>
      obtain ⟨r, houtcome, rfl⟩ := Option.map_eq_some_iff.mp h
      exact .finishes k i a queue call r hworker houtcome
    · cases h
  | base e =>
    rw [officeNext] at h
    split at h
    · cases h
    next hfree =>
      obtain ⟨t, hnext, rfl⟩ := Option.map_eq_some_iff.mp h
      refine .works e t (fun w hw job hjob => ?_) hnext
      by_contra hreserved
      refine hfree (List.any_eq_true.mpr ⟨w, hw, ?_⟩)
      rw [Worker.reserves, hjob]
      exact Bool.not_eq_false _ ▸ hreserved

end Rules

section Order

variable {service : Service σ ι κ τ ρ} {capacity : Nat} {o o' : Office σ κ τ ρ}
  {e : OfficeEvent ι κ ρ} {allowed : Office σ κ τ ρ → OfficeEvent ι κ ρ → Prop}

/-- The clients of a worker that it has not finished with, the first one first. -/
def Worker.stock (w : Worker κ τ) : List Nat :=
  (w.job.map fun job => job.1).toList ++ w.queue.map fun entry => entry.1

def stock (k : Nat) (o : Office σ κ τ ρ) : List Nat := (o.workers[k]?.map Worker.stock).getD []

def leaves (k : Nat) (o : Office σ κ τ ρ) : OfficeEvent ι κ ρ → List Nat
  | .finish j => if j = k then (stock k o).take 1 else []
  | _ => []

end Order

section Contracts

/-- What a system guarantees about its calls. A call belongs to an action as long as it runs;
what holds of its outcome holds ever after. Calls that have a key are told apart by it. -/
structure Contract (service : Service σ ι κ τ ρ) where
  Good : σ → Prop
  Owns : σ → κ → τ → Prop
  Meets : σ → κ → τ → ρ → Prop
  key : τ → Option Nat
  bound : σ → Nat
  good_next : ∀ {s e t}, service.next s e = some t → Good s → Good t
  free : ∀ a call, service.reserved (service.begins a) call = false
  owns_begins : ∀ {s a t}, Good s → service.next s (service.begins a) = some t →
    Owns t a (service.token s a)
  owns_follow : ∀ {s e t a call}, Good s → service.next s e = some t →
    service.reserved e call = false → Owns s a call → Owns t a (service.follow s e t call)
  meets_outcome : ∀ {s a call r}, Good s → Owns s a call → service.outcome s call = some r →
    Meets s a call r
  meets_next : ∀ {s e t a call r}, Good s → service.next s e = some t → Meets s a call r →
    Meets t a call r
  key_token : ∀ {s a t c}, service.next s (service.begins a) = some t →
    key (service.token s a) = some c → c = bound s ∧ c < bound t
  key_follow : ∀ s e t call, key (service.follow s e t call) = key call
  bound_next : ∀ {s e t}, service.next s e = some t → bound s ≤ bound t

variable {service : Service σ ι κ τ ρ} {capacity : Nat} {o o' : Office σ κ τ ρ}
  {e : OfficeEvent ι κ ρ} {allowed : Office σ κ τ ρ → OfficeEvent ι κ ρ → Prop}
  (K : Contract service)

def Asked (clients : List (Client κ τ ρ)) (i : Nat) (a : κ) : Prop :=
  ∃ c, clients[i]? = some c ∧ c.action = .ok a

/-- The call with this key is made for this client. -/
def Holds (o : Office σ κ τ ρ) (i c : Nat) : Prop :=
  (∃ w ∈ o.workers, ∃ a call, w.job = some (i, a, call) ∧ K.key call = some c) ∨
    ∃ client call r, o.clients[i]? = some client ∧ client.stage = .returned (some call) r ∧
      K.key call = some c

structure Orderly (o : Office σ κ τ ρ) : Prop where
  good : K.Good o.base
  queued : ∀ w ∈ o.workers, ∀ i a, (i, a) ∈ w.queue → Asked o.clients i a
  jobs : ∀ w ∈ o.workers, ∀ i a call, w.job = some (i, a, call) →
    Asked o.clients i a ∧ K.Owns o.base a call
  refused : ∀ (i : Nat) (client : Client κ τ ρ) r, o.clients[i]? = some client →
    client.stage = .returned none r → client.action = .error r
  returned : ∀ (i : Nat) (client : Client κ τ ρ) call r, o.clients[i]? = some client →
    client.stage = .returned (some call) r →
    ∃ a, client.action = .ok a ∧ K.Meets o.base a call r
  bounded : ∀ i c, Holds K o i c → c < K.bound o.base
  own : ∀ i j c, Holds K o i c → Holds K o j c → i = j

section Lists

variable {clients : List (Client κ τ ρ)} {workers : List (Worker κ τ)} {i j k : Nat}
  {a : κ} {stage : Stage τ ρ} {client : Client κ τ ρ} {w v : Worker κ τ}

theorem getElem?_setStage : (setStage clients i stage)[j]?
    = if i = j then clients[j]?.map fun c => { c with stage } else clients[j]? := by
  rw [setStage, List.getElem?_modify]
  split
  · rfl
  · exact Option.map_id'

theorem asked_setStage (h : Asked clients j a) : Asked (setStage clients i stage) j a := by
  obtain ⟨c, hc, hasked⟩ := h
  rw [Asked, getElem?_setStage, hc]
  split
  · exact ⟨_, rfl, hasked⟩
  · exact ⟨c, rfl, hasked⟩

theorem asked_append (h : Asked clients j a) (cs : List (Client κ τ ρ)) :
    Asked (clients ++ cs) j a := by
  obtain ⟨c, hc, hasked⟩ := h
  exact ⟨c, List.getElem?_append_left (List.getElem?_eq_some_iff.mp hc).1 ▸ hc, hasked⟩

theorem setStage_inv (h : (setStage clients i stage)[j]? = some client) :
    clients[j]? = some client ∨
      i = j ∧ client.stage = stage ∧ ∃ c, clients[j]? = some c ∧ client.action = c.action := by
  rw [getElem?_setStage] at h
  split at h
  next hij =>
    obtain ⟨c, hc, rfl⟩ := Option.map_eq_some_iff.mp h
    exact .inr ⟨hij, rfl, c, hc, rfl⟩
  · exact .inl h

theorem arrival_inv {worker : Nat} {action : Except ρ κ}
    (h : (clients ++ [arrival worker action])[j]? = some client) :
    clients[j]? = some client ∨ client = arrival worker action := by
  rw [List.getElem?_append] at h
  split at h
  · exact .inl h
  · have hmem := List.mem_of_getElem? h
    exact .inr (List.mem_singleton.mp hmem)

theorem arrival_returned {worker : Nat} {action : Except ρ κ} {call : Option τ} {r : ρ}
    (h : (arrival worker action : Client κ τ ρ).stage = .returned call r) :
    call = none ∧ (arrival worker action : Client κ τ ρ).action = .error r := by
  cases action with
  | ok a => cases h
  | error r =>
    cases h
    exact ⟨rfl, rfl⟩

theorem follow_job {s : σ} {ev : ι} {t : σ} {call' : τ}
    (h : (w.follow service s ev t).job = some (i, a, call')) :
    ∃ call, w.job = some (i, a, call) ∧ call' = service.follow s ev t call := by
  obtain ⟨⟨i', a', call⟩, hjob, heq⟩ := Option.map_eq_some_iff.mp h
  cases heq
  exact ⟨call, hjob, rfl⟩

end Lists

section Steps

variable {K}

/-- A call that is made for a client has been made for it before, or has just begun. -/
theorem step_holds (h : OfficeStep service o e o') {j c : Nat} (hholds : Holds K o' j c) :
    Holds K o j c ∨
      c = K.bound o.base ∧ c < K.bound o'.base ∧
        ∃ k a queue, e = .take k ∧ o.workers[k]? = some ⟨(j, a) :: queue, none⟩ := by
  cases h with
  | hires =>
    rcases hholds with ⟨w, hw, a, call, hjob, hkey⟩ | hreturned
    · rcases List.mem_append.mp hw with hold | hnew
      · exact .inl (.inl ⟨w, hold, a, call, hjob, hkey⟩)
      · cases List.mem_singleton.mp hnew
        cases hjob
    · exact .inl (.inr hreturned)
  | arrives worker action =>
    rcases hholds with hjob | ⟨client, call, r, hclient, hstage, hkey⟩
    · exact .inl (.inl hjob)
    · rcases arrival_inv hclient with hold | rfl
      · exact .inl (.inr ⟨client, call, r, hold, hstage, hkey⟩)
      · cases (arrival_returned hstage).1
  | sends i k a w hclient hworker =>
    rcases hholds with ⟨v, hv, b, call, hjob, hkey⟩ | ⟨client, call, r, hjoined, hstage, hkey⟩
    · rcases List.mem_or_eq_of_mem_set hv with hold | rfl
      · exact .inl (.inl ⟨v, hold, b, call, hjob, hkey⟩)
      · exact .inl (.inl ⟨w, List.mem_of_getElem? hworker, b, call, hjob, hkey⟩)
    · rcases setStage_inv hjoined with hold | ⟨-, hnew, -⟩
      · exact .inl (.inr ⟨client, call, r, hold, hstage, hkey⟩)
      · rw [hnew] at hstage
        cases hstage
  | takes k i a queue t hworker hnext =>
    rcases hholds with ⟨v, hv, b, call, hjob, hkey⟩ | hreturned
    · rcases List.mem_or_eq_of_mem_set hv with hold | rfl
      · obtain ⟨w, hw, rfl⟩ := List.mem_map.mp hold
        obtain ⟨before, hbefore, rfl⟩ := follow_job hjob
        rw [K.key_follow] at hkey
        exact .inl (.inl ⟨w, hw, b, before, hbefore, hkey⟩)
      · cases hjob
        obtain ⟨hc, hlt⟩ := K.key_token hnext hkey
        exact .inr ⟨hc, hlt, k, a, queue, rfl, hworker⟩
    · exact .inl (.inr hreturned)
  | finishes k i a queue call r hworker houtcome =>
    rcases hholds with ⟨v, hv, b, call', hjob, hkey⟩ | ⟨client, call', r', hclient, hstage, hkey⟩
    · rcases List.mem_or_eq_of_mem_set hv with hold | rfl
      · exact .inl (.inl ⟨v, hold, b, call', hjob, hkey⟩)
      · cases hjob
    · rcases setStage_inv hclient with hold | ⟨rfl, hnew, -⟩
      · exact .inl (.inr ⟨client, call', r', hold, hstage, hkey⟩)
      · rw [hnew] at hstage
        cases hstage
        exact .inl (.inl ⟨_, List.mem_of_getElem? hworker, a, call, rfl, hkey⟩)
  | works ev t hfree hnext =>
    rcases hholds with ⟨v, hv, b, call, hjob, hkey⟩ | hreturned
    · obtain ⟨w, hw, rfl⟩ := List.mem_map.mp hv
      obtain ⟨before, hbefore, rfl⟩ := follow_job hjob
      rw [K.key_follow] at hkey
      exact .inl (.inl ⟨w, hw, b, before, hbefore, hkey⟩)
    · exact .inl (.inr hreturned)

theorem step_bound (h : OfficeStep service o e o') : K.bound o.base ≤ K.bound o'.base := by
  cases h with
  | takes k i a queue t hworker hnext => exact K.bound_next hnext
  | works ev t hfree hnext => exact K.bound_next hnext
  | _ => exact Nat.le_refl _

theorem step_base (h : OfficeStep service o e o') :
    o'.base = o.base ∨ ∃ ev, service.next o.base ev = some o'.base := by
  cases h with
  | takes k i a queue t hworker hnext => exact .inr ⟨_, hnext⟩
  | works ev t hfree hnext => exact .inr ⟨_, hnext⟩
  | _ => exact .inl rfl

theorem step_asked (h : OfficeStep service o e o') {j : Nat} {a : κ}
    (hasked : Asked o.clients j a) : Asked o'.clients j a := by
  cases h with
  | arrives => exact asked_append hasked _
  | sends | finishes => exact asked_setStage hasked
  | _ => exact hasked

theorem step_queued (h : OfficeStep service o e o') (ho : Orderly K o) :
    ∀ w ∈ o'.workers, ∀ i a, (i, a) ∈ w.queue → Asked o.clients i a := by
  intro v hv j b hqueue
  cases h with
  | hires =>
    rcases List.mem_append.mp hv with hold | hnew
    · exact ho.queued v hold j b hqueue
    · cases List.mem_singleton.mp hnew
      cases hqueue
  | arrives => exact ho.queued v hv j b hqueue
  | sends i k a w hclient hworker =>
    rcases List.mem_or_eq_of_mem_set hv with hold | rfl
    · exact ho.queued v hold j b hqueue
    · rcases List.mem_append.mp hqueue with hold | hnew
      · exact ho.queued w (List.mem_of_getElem? hworker) j b hold
      · cases List.mem_singleton.mp hnew
        exact ⟨_, hclient, rfl⟩
  | takes k i a queue t hworker hnext =>
    rcases List.mem_or_eq_of_mem_set hv with hold | rfl
    · obtain ⟨w, hw, rfl⟩ := List.mem_map.mp hold
      exact ho.queued w hw j b hqueue
    · exact ho.queued _ (List.mem_of_getElem? hworker) j b (List.mem_cons_of_mem _ hqueue)
  | finishes k i a queue call r hworker houtcome =>
    rcases List.mem_or_eq_of_mem_set hv with hold | rfl
    · exact ho.queued v hold j b hqueue
    · exact ho.queued _ (List.mem_of_getElem? hworker) j b hqueue
  | works ev t hfree hnext =>
    obtain ⟨w, hw, rfl⟩ := List.mem_map.mp hv
    exact ho.queued w hw j b hqueue

theorem step_jobs (h : OfficeStep service o e o') (ho : Orderly K o) :
    ∀ w ∈ o'.workers, ∀ i a call, w.job = some (i, a, call) →
      Asked o.clients i a ∧ K.Owns o'.base a call := by
  intro v hv j b call hjob
  cases h with
  | hires =>
    rcases List.mem_append.mp hv with hold | hnew
    · exact ho.jobs v hold j b call hjob
    · cases List.mem_singleton.mp hnew
      cases hjob
  | arrives => exact ho.jobs v hv j b call hjob
  | sends i k a w hclient hworker =>
    rcases List.mem_or_eq_of_mem_set hv with hold | rfl
    · exact ho.jobs v hold j b call hjob
    · exact ho.jobs w (List.mem_of_getElem? hworker) j b call hjob
  | takes k i a queue t hworker hnext =>
    rcases List.mem_or_eq_of_mem_set hv with hold | rfl
    · obtain ⟨w, hw, rfl⟩ := List.mem_map.mp hold
      obtain ⟨before, hbefore, rfl⟩ := follow_job hjob
      obtain ⟨hasked, howns⟩ := ho.jobs w hw j b before hbefore
      exact ⟨hasked, K.owns_follow ho.good hnext (K.free a before) howns⟩
    · cases hjob
      exact ⟨ho.queued _ (List.mem_of_getElem? hworker) j b List.mem_cons_self,
        K.owns_begins ho.good hnext⟩
  | finishes k i a queue call' r hworker houtcome =>
    rcases List.mem_or_eq_of_mem_set hv with hold | rfl
    · exact ho.jobs v hold j b call hjob
    · cases hjob
  | works ev t hfree hnext =>
    obtain ⟨w, hw, rfl⟩ := List.mem_map.mp hv
    obtain ⟨before, hbefore, rfl⟩ := follow_job hjob
    obtain ⟨hasked, howns⟩ := ho.jobs w hw j b before hbefore
    exact ⟨hasked, K.owns_follow ho.good hnext (hfree w hw _ hbefore) howns⟩

theorem step_refused (h : OfficeStep service o e o') (ho : Orderly K o) {i : Nat}
    {client : Client κ τ ρ} {r : ρ} (hclient : o'.clients[i]? = some client)
    (hstage : client.stage = .returned none r) : client.action = .error r := by
  cases h with
  | arrives worker action =>
    rcases arrival_inv hclient with hold | rfl
    · exact ho.refused i client r hold hstage
    · exact (arrival_returned hstage).2
  | sends | finishes =>
    rcases setStage_inv hclient with hold | ⟨-, hnew, -⟩
    · exact ho.refused i client r hold hstage
    · rw [hnew] at hstage
      cases hstage
  | _ => exact ho.refused i client r hclient hstage

theorem step_returned (h : OfficeStep service o e o') (ho : Orderly K o) {i : Nat}
    {client : Client κ τ ρ} {call : τ} {r : ρ} (hclient : o'.clients[i]? = some client)
    (hstage : client.stage = .returned (some call) r) :
    ∃ a, client.action = .ok a ∧ K.Meets o'.base a call r := by
  cases h with
  | hires => exact ho.returned i client call r hclient hstage
  | arrives worker action =>
    rcases arrival_inv hclient with hold | rfl
    · exact ho.returned i client call r hold hstage
    · cases (arrival_returned hstage).1
  | sends =>
    rcases setStage_inv hclient with hold | ⟨-, hnew, -⟩
    · exact ho.returned i client call r hold hstage
    · rw [hnew] at hstage
      cases hstage
  | takes k j a queue t hworker hnext =>
    obtain ⟨b, haction, hmeets⟩ := ho.returned i client call r hclient hstage
    exact ⟨b, haction, K.meets_next ho.good hnext hmeets⟩
  | finishes k j a queue call' r' hworker houtcome =>
    rcases setStage_inv hclient with hold | ⟨rfl, hnew, c, hc, haction⟩
    · exact ho.returned i client call r hold hstage
    · rw [hnew] at hstage
      cases hstage
      obtain ⟨⟨c', hc', hasked⟩, howns⟩ :=
        ho.jobs _ (List.mem_of_getElem? hworker) j a call rfl
      cases hc.symm.trans hc'
      exact ⟨a, haction.trans hasked, K.meets_outcome ho.good howns houtcome⟩
  | works ev t hfree hnext =>
    obtain ⟨b, haction, hmeets⟩ := ho.returned i client call r hclient hstage
    exact ⟨b, haction, K.meets_next ho.good hnext hmeets⟩

theorem step_orderly (h : OfficeStep service o e o') (ho : Orderly K o) : Orderly K o' where
  good := by
    rcases step_base h with heq | ⟨ev, hnext⟩
    · rw [heq]
      exact ho.good
    · exact K.good_next hnext ho.good
  queued w hw i a hqueue := step_asked h (step_queued h ho w hw i a hqueue)
  jobs w hw i a call hjob := by
    obtain ⟨hasked, howns⟩ := step_jobs h ho w hw i a call hjob
    exact ⟨step_asked h hasked, howns⟩
  refused _ _ _ := step_refused h ho
  returned _ _ _ _ := step_returned h ho
  bounded i c hholds := by
    rcases step_holds h hholds with hold | ⟨-, hlt, -⟩
    · exact Nat.lt_of_lt_of_le (ho.bounded i c hold) (step_bound h)
    · exact hlt
  own i j c hi hj := by
    rcases step_holds h hi with hi | ⟨hc, -, k, a, queue, rfl, hworker⟩
    · rcases step_holds h hj with hj | ⟨hc, -, -⟩
      · exact ho.own i j c hi hj
      · exact absurd (ho.bounded i c hi) (hc ▸ Nat.lt_irrefl _)
    · rcases step_holds h hj with hj | ⟨-, -, k', a', queue', heq, hworker'⟩
      · exact absurd (ho.bounded j c hj) (hc ▸ Nat.lt_irrefl _)
      · cases heq
        cases hworker.symm.trans hworker'
        rfl

/-- Every client that has been served got the outcome of a call that was made for the action it
had asked for, and for nobody else. -/
theorem run_orderly {es : List (OfficeEvent ι κ ρ)}
    (h : Execution (officeNext service capacity) allowed o es o') (ho : Orderly K o) :
    Orderly K o' :=
  h.invariant (fun _ _ _ _ hnext hs => step_orderly (officeNext_step hnext) hs) ho

theorem orderly_open {s : σ} (hgood : K.Good s) : Orderly K ⟨s, [], []⟩ where
  good := hgood
  queued _ hw := by cases hw
  jobs _ hw := by cases hw
  refused _ _ _ hclient := by cases hclient
  returned _ _ _ _ hclient := by cases hclient
  bounded _ _ hholds := by
    rcases hholds with ⟨_, hw, -⟩ | ⟨_, _, _, hclient, -⟩
    · cases hw
    · cases hclient
  own _ _ _ hholds := by
    rcases hholds with ⟨_, hw, -⟩ | ⟨_, _, _, hclient, -⟩
    · cases hw
    · cases hclient

end Steps

end Contracts

end SerialWorkers
