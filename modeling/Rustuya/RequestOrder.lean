import Rustuya.Transcript
import Rustuya.RequestAccounting

/-!
# Requests are served in order

The task takes requests from one end of the queue, has at most one of them in hand and
answers it before it takes the next. So the frames of requests are made, and the requests
are answered, in the order in which the queue accepted them, across reconnections, drained
queues and requests that had to wait for a connection of their own.
-/
namespace RequestOrder

open CheckedExecution ByteCodec Error Crypto Message Protocol Json DeviceState ConnectionTask
open TransitionSystem
open RequestLifecycle RequestRefinement RequestAccounting
open TaskBranches hiding Call
open Transcript

variable {C : Crates} {S : Codec} {build : Build} {device : Device} {w w' : World} {e : Event}
  {es : List Event}

section Answers

/-- The requests that have been answered, the one in hand and those that wait. -/
def file (w : World) : List Nat := answered w ++ (held w ++ queued w)

theorem file_over {pc : Pc} (hpc : phaseOf pc = .over) : file (w.finish pc) = answered w := by
  have hheld : held (w.finish pc) = [] := by
    change heldIds (phaseOf pc) = []
    rw [hpc]
    rfl
  rw [file, hheld]
  exact List.append_nil _

theorem file_finish {pc : Pc} (hpc : phaseOf pc = .over) (hreplies : w'.replies = w.replies) :
    (file (w'.finish pc)).Sublist (file w) := by
  rw [file_over hpc, answered, hreplies]
  exact List.sublist_append_left _ _

theorem phaseOf_concluded (initial : Bool) :
    phaseOf (if initial then .spawnReader else .maintain) = .idle := by
  cases initial <;> rfl

theorem held_conclude (req : Request) (initial : Bool) (answer : Answer) :
    held (w.conclude req initial answer) = [] := by
  rw [held, World.conclude, phaseOf_concluded, heldIds_idle]

theorem file_conclude {req : Request} (hheld : held w = [req.id])
    (hreplies : w'.replies = w.replies) (hqueue : w'.queue = w.queue) (initial : Bool)
    (answer : Answer) :
    (file (w'.conclude req initial answer)).Sublist (file w) := by
  have hanswered : answered (w'.conclude req initial answer) = answered w ++ [req.id] := by
    rw [answered, World.conclude, World.answer, answeredIds_append, hreplies]
    rfl
  have hqueued : queued (w'.conclude req initial answer) = queued w := by
    change queuedIds w'.queue = queuedIds w.queue
    rw [hqueue]
  rw [file, hanswered, held_conclude, hqueued, file, hheld, List.nil_append, List.append_assoc]

theorem held_of_attempt {p : Purpose} {a : Attempt} (hp : p.attempt = some a) :
    heldIds (purposePhase p) = heldIds (attemptPhase a) := by
  cases p <;> cases hp <;> rfl

theorem held_of_sendFailure {p : Purpose} {t : TaskEvent} {err : TuyaError} {s : State}
    (h : SendFailure C build device w p t err s) : held w = heldIds (purposePhase p) := by
  cases h with
  | packing msg protocol iv _ hpc => rw [held, hpc, phaseOf]
  | writing f failure hpc => rw [held, hpc, phaseOf]

theorem file_afterDisconnect {err : Option TuyaError} (hpc : w.pc = .announceDisconnect err)
    (hreplies : w'.replies = w.replies) (hqueue : w'.queue = w.queue) :
    (file (w'.goto (afterDisconnect err))).Sublist (file w) := by
  have hheld : held (w'.goto (afterDisconnect err)) = held w := by
    rw [held, held, hpc]
    cases err <;> rfl
  rw [file, hheld, file, answered, answered, queued, queued, ← hreplies, ← hqueue]
  exact List.Sublist.refl _

/-- The queue is emptied from the front: whoever is refused leaves the file as it is. -/
theorem branch_file {t : TaskEvent} (h : Branch C S build device w t w') :
    (file w').Sublist (file w) := by
  cases h
  case jitterCancelled => exact file_finish rfl rfl
  case failureOverflows => exact file_finish rfl rfl
  case exits => exact file_finish rfl rfl
  case retryOverflows => exact file_finish rfl rfl
  case responseCrashes => exact file_finish rfl rfl
  case storeCrashes => exact file_finish rfl rfl
  case buildOverflows => exact file_finish rfl rfl
  case packCrashes => exact file_finish rfl rfl
  case requestDone hpc _ _ _ => exact file_conclude (by rw [held, hpc]; rfl) rfl rfl _ _
  case lags hpc _ _ => exact file_conclude (by rw [held, hpc]; rfl) rfl rfl _ _
  case replies hpc _ _ => exact file_conclude (by rw [held, hpc]; rfl) rfl rfl _ _
  case replyTimesOut hpc => exact file_conclude (by rw [held, hpc]; rfl) rfl rfl _ _
  case requestUnsent hfail => exact file_conclude (held_of_sendFailure hfail) rfl rfl _ _
  case negotiationUnsent hp hfail =>
    have hheld := (held_of_sendFailure hfail).trans (held_of_attempt hp)
    simp only [file, hheld]
    exact List.Sublist.refl _
  case heartbeatUnsent hfail =>
    have hheld := held_of_sendFailure hfail
    simp only [file, hheld]
    exact List.Sublist.refl _
  case writeElapsed hpc hp =>
    simp only [file, held, hpc, phaseOf, held_of_attempt hp]
    exact List.Sublist.refl _
  case disconnectSilent hpc _ => exact file_afterDisconnect hpc rfl rfl
  case disconnectTold hpc _ => exact file_afterDisconnect hpc rfl rfl
  case backoffRejects cmd rest _ hpc hqueue =>
    simp only [file, answered, held, queued, World.broadcastError, World.publish, hpc, hqueue,
      phaseOf, heldIds_idle, answeredIds_append, answeredIds_refusals, List.nil_append,
      List.append_assoc]
    rw [queuedIds_cons cmd rest]
  case serveClosed hpc hqueue _ =>
    simp only [file, answered, held, queued, World.goto, hpc, hqueue]
    exact List.Sublist.refl _
  -- What is left moves at most one request from one part of the file to the next.
  all_goals
    unfold file answered held queued
    simp only [World.goto, World.lock, World.answer, World.broadcastError, World.publish, phaseOf,
      *, answeredIds_append, answeredIds_refusals, answeredIds_singleton, queuedIds_cons_request,
      queuedIds_nil, heldIds_idle, heldIds_counting, heldIds_closing,
      List.append_nil, List.nil_append, List.append_assoc]
    exact List.Sublist.refl _

theorem call_queued {u : UserEvent} (h : TaskBranches.Call w u w') :
    w'.pc = w.pc ∧ w'.replies = w.replies ∧ queued w' = queued w ++ accepted w (.user u) := by
  cases h with
  | submits req hopen =>
    refine ⟨rfl, rfl, ?_⟩
    rw [queued, queuedIds_append, accepted, hopen]
    rfl
  | turnedAway req hclosed =>
    refine ⟨rfl, rfl, ?_⟩
    rw [accepted, hclosed]
    exact (List.append_nil _).symm
  | asksNow | disconnects =>
    refine ⟨rfl, rfl, ?_⟩
    rw [queued, queuedIds_append, queuedIds_cons_other rfl]
    rfl
  | sets u f hf =>
    refine ⟨rfl, rfl, ?_⟩
    cases u <;> cases hf <;> exact (List.append_nil _).symm
  | _ => exact ⟨rfl, rfl, (List.append_nil _).symm⟩

theorem next_file (h : next C S build device w e = some w') :
    (file w').Sublist (file w ++ accepted w e) := by
  cases next_move h with
  | task hbranch => exact (branch_file hbranch).trans (List.sublist_append_left _ _)
  | drop =>
    -- The request in hand is lost.
    have hdropped : (file (w.goto .exiting)).Sublist (file w) :=
      (List.sublist_append_right _ _).append_left _
    exact hdropped.trans (List.sublist_append_left _ _)
  | reader hreader =>
    refine List.Sublist.trans ?_ (List.sublist_append_left _ _)
    cases hreader <;> exact List.Sublist.refl _
  | user hcall =>
    obtain ⟨hpc, hreplies, hqueued⟩ := call_queued hcall
    rw [file, file, answered, answered, held, held, hpc, hreplies, hqueued, List.append_assoc,
      List.append_assoc]

end Answers

section Transmissions

/-- The request in hand, as long as its frame has not been made. -/
def unsentAt : Pc → List Nat
  | .sending (.session _) .write | .readEffective _ _ | .awaitReply _ _ _ => []
  | pc => heldIds (phaseOf pc)

def backlog (w : World) : List Nat := unsentAt w.pc ++ queued w

def requestOf (post : Post) : Option Nat :=
  match post.purpose with
  | .session (.request req _) => some req.id
  | .session .heartbeat | .negStart _ _ _ | .negFinish _ _ _ _ => none

def transmitted (C : Crates) (build : Build) (device : Device) (w : World) (e : Event) : List Nat :=
  (posted C build device w e).filterMap requestOf

theorem transmitted_cases (C : Crates) (build : Build) (device : Device) (w : World) (e : Event) :
    transmitted C build device w e = [] ∨
      ∃ iv req initial msg protocol, e = .task (.packed iv) ∧
        w.pc = .sending (.session (.request req initial)) (.encrypt msg protocol) ∧
        transmitted C build device w e = [req.id] := by
  unfold transmitted
  rcases posted_cases C build device w e with hnone | ⟨iv, p, msg, protocol, he, hpc, hsome⟩
  · rw [hnone]
    exact .inl rfl
  · rw [hsome]
    rcases p with ⟨a, _, nonce⟩ | ⟨a, _, nonce, key⟩ | ⟨req, initial⟩ | _
    · exact .inl rfl
    · exact .inl rfl
    · exact .inr ⟨iv, req, initial, msg, protocol, he, hpc, rfl⟩
    · exact .inl rfl

theorem unsentAt_sublist (pc : Pc) : (unsentAt pc).Sublist (heldIds (phaseOf pc)) := by
  unfold unsentAt
  split
  · exact List.nil_sublist _
  · exact List.nil_sublist _
  · exact List.nil_sublist _
  · exact List.Sublist.refl _

theorem backlog_eq_queued (hheld : held w = []) : backlog w = queued w := by
  have hsub := unsentAt_sublist w.pc
  change (unsentAt w.pc).Sublist (held w) at hsub
  rw [hheld] at hsub
  rw [backlog, List.sublist_nil.mp hsub, List.nil_append]

theorem backlog_of_idle (hheld : held w' = []) (hqueue : (queued w').Sublist (queued w)) :
    (backlog w').Sublist (backlog w) := by
  rw [backlog_eq_queued hheld]
  exact hqueue.trans (List.sublist_append_right _ _)

theorem backlog_conclude (hqueue : w'.queue = w.queue) (req : Request) (initial : Bool)
    (answer : Answer) : backlog (w'.conclude req initial answer) = queued w := by
  rw [backlog_eq_queued (held_conclude req initial answer), queued, queued, ← hqueue]
  rfl

theorem sublist_conclude (hqueue : w'.queue = w.queue) (req : Request) (initial : Bool)
    (answer : Answer) : (backlog (w'.conclude req initial answer)).Sublist (backlog w) := by
  rw [backlog_conclude hqueue]
  exact List.sublist_append_right _ _

theorem held_afterDisconnect (err : Option TuyaError) :
    held (w.goto (afterDisconnect err)) = [] := by
  cases err <;> rfl

theorem unsentAt_of_attempt {p : Purpose} {a : Attempt} (hp : p.attempt = some a) (s : Sending) :
    unsentAt (.sending p s) = heldIds (attemptPhase a) := by
  cases p <;> cases hp <;> rfl

theorem branch_backlog {t : TaskEvent} (h : Branch C S build device w t w') :
    (backlog w').Sublist (backlog w) := by
  cases h
  case requestDone => exact sublist_conclude rfl _ _ _
  case requestUnsent => exact sublist_conclude rfl _ _ _
  case lags => exact sublist_conclude rfl _ _ _
  case replies => exact sublist_conclude rfl _ _ _
  case replyTimesOut => exact sublist_conclude rfl _ _ _
  case disconnectSilent => exact backlog_of_idle (held_afterDisconnect _) (List.Sublist.refl _)
  case disconnectTold => exact backlog_of_idle (held_afterDisconnect _) (List.Sublist.refl _)
  case backoffRejects cmd rest _ hpc hqueue =>
    refine backlog_of_idle (by rw [held, World.broadcastError, World.publish, hpc]; rfl) ?_
    rw [queued, queued, hqueue, queuedIds_cons]
    exact List.sublist_append_right _ _
  case negotiationUnsent a _ _ hp hfail =>
    have hunsent : unsentAt w.pc = heldIds (attemptPhase a) := by
      cases hfail with
      | packing msg protocol iv _ hpc => rw [hpc, unsentAt_of_attempt hp]
      | writing f failure hpc => rw [hpc, unsentAt_of_attempt hp]
    rw [backlog, backlog, hunsent]
    exact List.Sublist.refl _
  case writeElapsed hpc hp =>
    rw [backlog, backlog, hpc, unsentAt_of_attempt hp]
    exact List.Sublist.refl _
  case packs p msg protocol iv cipher bytes hpc _ _ =>
    rw [backlog, backlog, hpc]
    refine List.Sublist.append_right ?_ _
    cases p with
    | session sender => exact List.nil_sublist _
    | _ => exact List.Sublist.refl _
  all_goals first
    | exact backlog_of_idle rfl (List.Sublist.refl _)
    | exact backlog_of_idle rfl (List.nil_sublist _)
    | skip
  -- What is left keeps the request in hand, or takes the next one from the queue.
  all_goals
    simp only [backlog, queued, unsentAt, World.goto, World.lock, World.broadcastError,
      World.publish, phaseOf, *, queuedIds_cons_request, heldIds_idle, List.nil_append]
    exact List.Sublist.refl _

/-- The request whose frame is being made is not in the backlog any more. -/
theorem packed_backlog {iv : U8Array 12} {req : Request} {initial : Bool} {msg : TuyaMessage}
    {protocol : TuyaProtocol}
    (hpc : w.pc = .sending (.session (.request req initial)) (.encrypt msg protocol))
    (h : Branch C S build device w (.packed iv) w') : (backlog w').Sublist (queued w) := by
  cases h with
  | packs _ _ _ _ _ _ hat =>
    rw [hpc] at hat
    cases hat
    exact List.Sublist.refl _
  | packCrashes => exact List.nil_sublist _
  | requestUnsent =>
    rw [backlog_conclude rfl]
    exact List.Sublist.refl _
  | negotiationUnsent p a _ _ _ hp hfail =>
    cases hfail with
    | packing _ _ _ _ hat =>
      rw [hpc] at hat
      cases hat
      cases hp
  | heartbeatUnsent _ _ _ hfail =>
    cases hfail with
    | packing _ _ _ _ hat =>
      rw [hpc] at hat
      cases hat
  | dialFails _ _ _ _ hat =>
    rw [hpc] at hat
    cases hat
  | unanswered _ _ _ _ _ hat =>
    rw [hpc] at hat
    cases hat

theorem branch_transmits {t : TaskEvent} (h : Branch C S build device w t w') :
    (transmitted C build device w (.task t) ++ backlog w').Sublist (backlog w) := by
  rcases transmitted_cases C build device w (.task t) with
    hnone | ⟨iv, req, initial, msg, protocol, ht, hpc, hsome⟩
  · rw [hnone]
    exact branch_backlog h
  · cases ht
    have hbacklog : backlog w = req.id :: queued w := by rw [backlog, hpc]; rfl
    rw [hsome, hbacklog]
    exact (packed_backlog hpc h).cons_cons _

theorem next_transmits (h : next C S build device w e = some w') :
    (transmitted C build device w e ++ backlog w').Sublist (backlog w ++ accepted w e) := by
  cases next_move h with
  | task hbranch => exact (branch_transmits hbranch).trans (List.sublist_append_left _ _)
  | drop =>
    have hdropped : (backlog (w.goto .exiting)).Sublist (backlog w) :=
      backlog_of_idle rfl (List.Sublist.refl _)
    exact hdropped.trans (List.sublist_append_left _ _)
  | reader hreader =>
    refine List.Sublist.trans ?_ (List.sublist_append_left _ _)
    cases hreader <;> exact List.Sublist.refl _
  | user hcall =>
    obtain ⟨hpc, -, hqueued⟩ := call_queued hcall
    change (backlog w').Sublist _
    rw [backlog, backlog, hpc, hqueued, List.append_assoc]

end Transmissions

/-- In every run, whatever is refused, lost or cancelled, the requests are answered in the order
in which the queue accepted them, and their frames are made in that order, at most one for each
time a request was accepted. As long as the task is neither cancelled nor gone, nobody is left
out: the answered requests, then the one in hand, then those in the queue are the accepted
ones. -/
theorem requests_in_order (C : Crates) (S : Codec) (build : Build) (b : DeviceBuilder)
    (hrun : Execution (next C S build b.device) (fun _ _ => True) b.run es w) :
    (answered w ++ (held w ++ queued w)).Sublist
      (harvest accepted (next C S build b.device) b.run es) ∧
    (harvest (transmitted C build b.device) (next C S build b.device) b.run es ++
      (unsentAt w.pc ++ queued w)).Sublist
      (harvest accepted (next C S build b.device) b.run es) ∧
    (Execution (next C S build b.device) (fun w _ => w.cancelled = false) b.run es w →
      ¬ Exited w →
      answered w ++ (held w ++ queued w)
        = harvest accepted (next C S build b.device) b.run es) := by
  have hanswers : (file w).Sublist (file b.run ++
      harvest accepted (next C S build b.device) b.run es) :=
    hrun.queues fun _ _ _ _ hnext => next_file hnext
  have hframes : (harvest (transmitted C build b.device) (next C S build b.device) b.run es ++
      backlog w).Sublist (backlog b.run ++ harvest accepted (next C S build b.device) b.run es) :=
    hrun.pipes (f := accepted) (g := transmitted C build b.device) (m := backlog)
      fun _ _ _ _ hnext => next_transmits hnext
  -- At the start nothing has been accepted.
  refine ⟨hanswers, hframes, fun hlive hthere => hanswers.eq_of_length ?_⟩
  obtain ⟨-, hperm⟩ := hlive.conserves (f := accepted) (m := fun w => (desk w).ids)
    (P := fun w => ¬ Exited w)
    (fun _ _ _ hc hnext hw' => (next_conserves hc hnext hw').1)
    (fun _ _ _ hc hnext hw' => (next_conserves hc hnext hw').2) hthere
  have hlength : (desk w).ids.length
      = (harvest accepted (next C S build b.device) b.run es).length := hperm.length_eq
  change (file w).length = (harvest accepted (next C S build b.device) b.run es).length
  rw [← hlength, file, answered, held, queued, Desk.ids, List.length_append, List.length_append,
    List.length_append, List.length_append]
  have hsum : ∀ a b c : Nat, a + (b + c) = c + b + a := by omega
  exact hsum _ _ _

section Sample

theorem three_requests_in_order :
    ∃ w, run (guarded (fun w _ => !w.cancelled) (sampleNext .v33)) (sampleBuilder .v33).run
        threeRequests = some w ∧
      answered w = [1] ∧ held w = [2] ∧ queued w = [3] ∧ unsentAt w.pc = [] ∧
      harvest accepted (sampleNext .v33) (sampleBuilder .v33).run threeRequests = [1, 2, 3] ∧
      (harvest (transmitted KnownAnswers.crates .release (sampleBuilder .v33).device)
        (sampleNext .v33) (sampleBuilder .v33).run threeRequests ++ [3]).Sublist [1, 2, 3] := by
  obtain ⟨w, hrun, hobserved⟩ : ∃ w, run (guarded (fun w _ => !w.cancelled) (sampleNext .v33))
      (sampleBuilder .v33).run threeRequests = some w ∧
      (phaseOf w.pc matches .over, answered w, held w, queued w, unsentAt w.pc)
        = (false, [1], [2], [3], []) :=
    Option.map_eq_some_iff.mp (by decide +kernel)
  simp only [Prod.mk.injEq] at hobserved
  obtain ⟨hphase, hanswered, hheld, hqueued, hunsent⟩ := hobserved
  have hlive : ¬ Exited w := by
    rintro (hpc | hpc) <;> rw [hpc] at hphase <;> cases hphase
  have hexec : Execution (sampleNext .v33) (fun w _ => w.cancelled = false)
      (sampleBuilder .v33).run threeRequests w :=
    execution_of_guarded_run (fun _ _ h => by simpa using h) hrun
  obtain ⟨-, hframes, hall⟩ := requests_in_order KnownAnswers.crates (KnownAnswers.json []) .release
    (sampleBuilder .v33) (hexec.mono fun _ _ _ => trivial)
  have haccepted := hall hexec hlive
  rw [hanswered, hheld, hqueued] at haccepted
  rw [← haccepted, hunsent, hqueued] at hframes
  exact ⟨w, hrun, hanswered, hheld, hqueued, hunsent, haccepted.symm, hframes⟩

end Sample

end RequestOrder
