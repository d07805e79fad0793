import Rustuya.RequestCalls
import Rustuya.SerialWorkers

/-!
# The blocking interface

A `sync::Device` or `sync::SubDevice` sends its commands to a worker task of its own, which calls
the methods of the wrapped handle one after the other and returns their results. All workers of
a device, and whoever uses the asynchronous interface beside them, share the device.
-/
namespace SyncCalls

open CheckedExecution Error Crypto Protocol Json DeviceState ConnectionTask
open TransitionSystem RequestLifecycle RequestRefinement RequestAccounting
open TaskBranches hiding Call
open RequestCalls SerialWorkers

section Commands

inductive DeviceCommand where
  | status
  | setDps (dps : Value)
  | setValue (dpId : String) (value : Value)
  | request (command : CommandType) (data : Option Value) (cid : Option String)
  | subDiscover
  | close
  | stop

inductive SubDeviceCommand where
  | status
  | setDps (dps : Value)
  | setValue (index : String) (value : Value)
  | request (command : CommandType) (data : Option Value)

inductive Action where
  | call (method : Method)
  | close
  | stop

/-- `request` of the device with the identifier of a sub-device is `request` of that one. -/
def requestOf : Option String → Handle
  | none => .device
  | some cid => .sub cid

/-- A value that has been serialised once is so again. -/
def DeviceCommand.action : DeviceCommand → Action
  | .status => .call (.status .device)
  | .setDps dps => .call (.setDps .device dps)
  | .setValue dpId value => .call (.setValue .device dpId (some value))
  | .request command data cid => .call (.request (requestOf cid) command data)
  | .subDiscover => .call .subDiscover
  | .close => .close
  | .stop => .stop

def SubDeviceCommand.action (cid : String) : SubDeviceCommand → Action
  | .status => .call (.status (.sub cid))
  | .setDps dps => .call (.setDps (.sub cid) dps)
  | .setValue index value => .call (.setValue (.sub cid) index (some value))
  | .request command data => .call (.request (.sub cid) command data)

inductive SyncCommand where
  | device (command : DeviceCommand)
  | sub (cid : String) (command : SubDeviceCommand)

def SyncCommand.action : SyncCommand → Action
  | .device command => command.action
  | .sub cid command => command.action cid

abbrev Outcome := Except TuyaError (Option String)

def syncSetValue (command : Value → SyncCommand) : Option Value → Except Outcome SyncCommand
  | some val => .ok (command val)
  | none => .error (.error .invalidPayload)

end Commands

section Service

structure Ledger where
  site : Site
  asked : List Method

def calledMethod : CallEvent → List Method
  | .call method => [method]
  | _ => []

def ledgerNext (C : Crates) (S : Codec) (build : Build) (device : Device) (l : Ledger)
    (e : CallEvent) : Option Ledger :=
  (callNext C S build device l.site e).map fun site => ⟨site, l.asked ++ calledMethod e⟩

/-- What a worker waits for: the caller with this number, the pending `close` or `stop` at this
position, or nothing any more. -/
inductive Token where
  | call (i : Nat)
  | closing (position : Nat)
  | closed

def Action.event : Action → CallEvent
  | .call method => .call method
  | .close => .world (.user .close)
  | .stop => .world (.user .stop)

def Action.token (l : Ledger) : Action → Token
  | .call _ => .call l.site.callers.length
  | .close | .stop => .closing l.site.world.calls.length

/-- The pending call at position `p` after the one at `j` has made a step. -/
def advanced (before after : World) (j p : Nat) : Token :=
  if after.calls.length < before.calls.length then
    if j = p then .closed else .closing (if j < p then p - 1 else p)
  else .closing p

def followClosing (before after : World) (p : Nat) : CallEvent → Token
  | .world (.user (.advance j)) => advanced before after j p
  | _ => .closing p

def follow (l : Ledger) (e : CallEvent) (l' : Ledger) : Token → Token
  | .closing p => followClosing l.site.world l'.site.world p e
  | token => token

def callerResult : Option Caller → Option Outcome
  | some (.refused e) => some (.error e)
  | some .dispatched => some (.ok none)
  | some (.resumed result) => some result
  | _ => none

def outcome (l : Ledger) : Token → Option Outcome
  | .call i => callerResult l.site.callers[i]?
  | .closing _ => none
  | .closed => some (.ok none)

/-- Nobody else gives up the call of a worker. -/
def reserved : CallEvent → Token → Bool
  | .abandon i, .call j => decide (i = j)
  | _, _ => false

def service (C : Crates) (S : Codec) (build : Build) (device : Device) :
    Service Ledger CallEvent SyncCommand Token Outcome where
  next := ledgerNext C S build device
  begins cmd := cmd.action.event
  token l cmd := cmd.action.token l
  follow := follow
  outcome := outcome
  reserved := reserved

def chanWorkerCapacity : Nat := 32

def syncNext (C : Crates) (S : Codec) (build : Build) (device : Device) :=
  officeNext (service C S build device) chanWorkerCapacity

def opened (b : DeviceBuilder) : Office Ledger SyncCommand Token Outcome := ⟨⟨start b, []⟩, [], []⟩

end Service

section Calls

variable {C : Crates} {S : Codec} {build : Build} {device : Device} {site site' : Site}
  {l l' : Ledger} {e : CallEvent} {w w' : World}

theorem abandonCall_inv {i : Nat} (h : abandonCall site i = some site') :
    callerResult site.callers[i]? = none ∧ site' = site.set i .abandoned := by
  unfold abandonCall at h
  split at h
  next hcaller =>
    cases h
    rw [hcaller]
    exact ⟨rfl, rfl⟩
  next hcaller =>
    cases h
    rw [hcaller]
    exact ⟨rfl, rfl⟩
  · cases h

theorem callNext_callers (h : callNext C S build device site e = some site') :
    site'.callers = site.callers ++ (calledMethod e).map Method.caller ∨
      calledMethod e = [] ∧ ∃ i c, callerResult site.callers[i]? = none ∧
        site'.callers = site.callers.set i c ∧ (∀ err, c ≠ .refused err) ∧
        (c = .abandoned → e = .abandon i) := by
  cases callNext_step h with
  | calls method => exact .inl rfl
  | sends i ask w hcaller _ =>
    refine .inr ⟨rfl, i, .deciding, ?_, rfl, (fun _ h => by cases h), fun h => by cases h⟩
    rw [hcaller]
    rfl
  | dispatches i hcaller =>
    refine .inr ⟨rfl, i, .dispatched, ?_, rfl, (fun _ h => by cases h), fun h => by cases h⟩
    rw [hcaller]
    rfl
  | waits i hcaller =>
    refine .inr ⟨rfl, i, .waiting, ?_, rfl, (fun _ h => by cases h), fun h => by cases h⟩
    rw [hcaller]
    rfl
  | resumes i answer hcaller _ =>
    refine .inr ⟨rfl, i, _, ?_, rfl, (fun _ h => by cases h), fun h => by cases h⟩
    rw [hcaller]
    rfl
  | abandons i =>
    obtain ⟨hnone, -⟩ := abandonCall_inv h
    exact .inr ⟨rfl, i, .abandoned, hnone, rfl, (fun _ h => by cases h), fun _ => rfl⟩
  | works ev w _ _ => exact .inl (List.append_nil _).symm

theorem callerResult_lt {callers : List Caller} {i : Nat} {r : Outcome}
    (h : callerResult callers[i]? = some r) : i < callers.length := by
  by_contra hge
  rw [List.getElem?_eq_none (Nat.le_of_not_lt hge)] at h
  cases h

theorem callNext_result (h : callNext C S build device site e = some site') {i : Nat} {r : Outcome}
    (hresult : callerResult site.callers[i]? = some r) :
    callerResult site'.callers[i]? = some r := by
  rcases callNext_callers h with hcallers | ⟨-, j, c, hnone, hcallers, -, -⟩
  · rw [hcallers, List.getElem?_append_left (callerResult_lt hresult)]
    exact hresult
  · have hij : j ≠ i := by
      rintro rfl
      rw [hnone] at hresult
      cases hresult
    rw [hcallers, List.getElem?_set_ne hij]
    exact hresult

theorem callNext_present (h : callNext C S build device site e = some site') {i : Nat}
    (hown : e ≠ .abandon i) (hi : i < site.callers.length)
    (hpresent : site.callers[i]? ≠ some .abandoned) : site'.callers[i]? ≠ some .abandoned := by
  rcases callNext_callers h with hcallers | ⟨-, j, c, -, hcallers, -, habandoned⟩
  · rw [hcallers, List.getElem?_append_left hi]
    exact hpresent
  · rw [hcallers, List.getElem?_set]
    split
    next hji =>
      subst hji
      rw [if_pos hi]
      rintro heq
      exact hown (habandoned (Option.some.inj heq))
    · exact hpresent

theorem ledgerNext_eq_some (h : ledgerNext C S build device l e = some l') :
    callNext C S build device l.site e = some l'.site ∧ l'.asked = l.asked ++ calledMethod e := by
  obtain ⟨site, hnext, rfl⟩ := Option.map_eq_some_iff.mp h
  exact ⟨hnext, rfl⟩

/-- How the caller stands who has called this method: it is refused if it cannot ask anything. -/
def Standing (method : Method) (caller : Option Caller) : Prop :=
  match method.ask with
  | .error e => caller = some (.refused e)
  | .ok _ => ∀ e, caller ≠ some (.refused e)

structure Matched (l : Ledger) : Prop where
  length : l.asked.length = l.site.callers.length
  standing : ∀ (i : Nat) method, l.asked[i]? = some method → Standing method l.site.callers[i]?

theorem standing_caller (method : Method) : Standing method (some method.caller) := by
  unfold Standing Method.caller
  split
  next err herr => rw [herr]
  next ask hask =>
    rw [hask]
    intro e h
    cases h

theorem standing_goes_on {method : Method} {caller : Option Caller} {c : Caller}
    (h : Standing method caller) (hnone : callerResult caller = none)
    (hc : ∀ err, c ≠ .refused err) : Standing method (some c) := by
  unfold Standing at *
  split at h
  · rw [h] at hnone
    cases hnone
  · exact fun e heq => hc e (Option.some.inj heq)

theorem ledgerNext_matched (h : ledgerNext C S build device l e = some l') (hl : Matched l) :
    Matched l' := by
  obtain ⟨hnext, hasked⟩ := ledgerNext_eq_some h
  rcases callNext_callers hnext with hcallers | ⟨hnone, j, c, hresult, hcallers, hc, -⟩
  · refine ⟨?_, fun i method hi => ?_⟩
    · rw [hasked, hcallers, List.length_append, List.length_append, List.length_map, hl.length]
    · rw [hasked, List.getElem?_append] at hi
      rw [hcallers, List.getElem?_append, ← hl.length]
      split at hi
      next hlt =>
        rw [if_pos hlt]
        exact hl.standing i method hi
      next hge =>
        rw [if_neg hge, List.getElem?_map, hi]
        exact standing_caller method
  · refine ⟨?_, fun i method hi => ?_⟩
    · rw [hasked, hnone, List.append_nil, hcallers, List.length_set, hl.length]
    · rw [hasked, hnone, List.append_nil] at hi
      have hstanding := hl.standing i method hi
      rw [hcallers, List.getElem?_set]
      split
      next hji =>
        subst hji
        rw [if_pos (hl.length ▸ (List.getElem?_eq_some_iff.mp hi).1)]
        exact standing_goes_on hstanding hresult hc
      · exact hstanding

end Calls

section Closing

variable {C : Crates} {S : Codec} {build : Build} {device : Device} {w w' : World} {ev : Event}

def Pending (stop : Bool) (w : World) : Token → Prop
  | .call _ => False
  | .closing p => ∃ call, w.calls[p]? = some call ∧
      (stop = true → call = .cancel ∨ w.cancelled = true)
  | .closed => stop = true → w.cancelled = true

theorem enqueue_calls {cmd : Command} (h : w.enqueue cmd = some w') :
    w'.calls = w.calls ∧ w'.cancelled = w.cancelled := by
  rcases enqueue_eq_some h with ⟨-, rfl⟩ | ⟨-, -, rfl⟩ <;> exact ⟨rfl, rfl⟩

theorem branch_calls {t : TaskEvent} (h : Branch C S build device w t w') :
    w'.calls = w.calls := by
  cases h <;> rfl

theorem next_calls (h : next C S build device w ev = some w')
    (hother : ∀ j, ev ≠ .user (.advance j)) : w.calls <+: w'.calls := by
  cases next_move h with
  | task hbranch => exact ⟨[], by rw [branch_calls hbranch, List.append_nil]⟩
  | drop => exact List.prefix_refl _
  | reader hreader => cases hreader <;> exact List.prefix_refl _
  | user hcall =>
    cases hcall with
    | stops => exact List.prefix_append _ _
    | closes => exact List.prefix_append _ _
    | cancels j | marksClosed j | disconnects j | disconnectsInVain j =>
      exact absurd rfl (hother j)
    | _ => exact List.prefix_refl _

theorem next_pending {stop : Bool} {token : Token} (h : next C S build device w ev = some w')
    (hother : ∀ j, ev ≠ .user (.advance j)) (hpending : Pending stop w token) :
    Pending stop w' token := by
  have hcancelled := step_cancelled (next_step h)
  cases token with
  | call i => exact hpending
  | closing p =>
    obtain ⟨call, hcall, hstop⟩ := hpending
    obtain ⟨rest, hrest⟩ := next_calls h hother
    refine ⟨call, ?_, fun hs => (hstop hs).imp_right hcancelled⟩
    rw [← hrest, List.getElem?_append_left (List.getElem?_eq_some_iff.mp hcall).1]
    exact hcall
  | closed => exact fun hs => hcancelled (hpending hs)

theorem advanced_set {j p : Nat} {call : Call} (hcalls : w'.calls = w.calls.set j call) :
    advanced w w' j p = .closing p := by
  rw [advanced, hcalls, List.length_set, if_neg (Nat.lt_irrefl _)]

theorem pending_set {stop : Bool} {j p : Nat} {call : Call}
    (hcalls : w'.calls = w.calls.set j call) (hcancelled : w.cancelled = true → w'.cancelled = true)
    (hown : j = p → stop = true → w'.cancelled = true) (hpending : Pending stop w (.closing p)) :
    Pending stop w' (.closing p) := by
  obtain ⟨before, hbefore, hstop⟩ := hpending
  by_cases hjp : j = p
  · refine ⟨call, ?_, fun hs => .inr (hown hjp hs)⟩
    rw [hcalls, hjp, List.getElem?_set_self (List.getElem?_eq_some_iff.mp hbefore).1]
  · refine ⟨before, ?_, fun hs => (hstop hs).imp_right hcancelled⟩
    rw [hcalls, List.getElem?_set_ne hjp]
    exact hbefore

theorem getElem?_eraseIdx_other {calls : List Call} {j p : Nat} (hjp : j ≠ p) :
    (calls.eraseIdx j)[if j < p then p - 1 else p]? = calls[p]? := by
  rw [List.getElem?_eraseIdx]
  split
  next hlt =>
    have hback : p - 1 + 1 = p := by omega
    rw [if_neg (by omega), hback]
  next hge => rw [if_pos (by omega)]

theorem advance_pending {stop : Bool} {j p : Nat}
    (h : next C S build device w (.user (.advance j)) = some w')
    (hpending : Pending stop w (.closing p)) : Pending stop w' (advanced w w' j p) := by
  replace h : advanceCall w j = some w' := h
  unfold advanceCall at h
  split at h
  next hj =>
    cases h
    rw [advanced_set rfl]
    exact pending_set rfl (fun _ => rfl) (fun _ _ => rfl) hpending
  next hj =>
    cases h
    rw [advanced_set rfl]
    refine pending_set rfl id (fun hjp hs => ?_) hpending
    obtain ⟨call, hcall, hstop⟩ := hpending
    rw [← hjp, hj] at hcall
    cases hcall
    exact (hstop hs).resolve_left fun h => by cases h
  next hj =>
    obtain ⟨hcalls, hcancelled⟩ := enqueue_calls h
    obtain ⟨call, hcall, hstop⟩ := hpending
    have hlt : w'.calls.length < w.calls.length := by
      rw [hcalls, List.length_eraseIdx_of_lt (List.getElem?_eq_some_iff.mp hj).1]
      have := (List.getElem?_eq_some_iff.mp hj).1
      omega
    rw [advanced, if_pos hlt]
    split
    next hjp =>
      rw [← hjp, hj] at hcall
      cases hcall
      intro hs
      rw [hcancelled]
      exact (hstop hs).resolve_left fun h => by cases h
    next hjp =>
      refine ⟨call, ?_, fun hs => ?_⟩
      · rw [hcalls, getElem?_eraseIdx_other hjp]
        exact hcall
      · rw [hcancelled]
        exact hstop hs
  · cases h

end Closing

section Contract

variable {C : Crates} {S : Codec} {build : Build} {device : Device} {l l' : Ledger}
  {e : CallEvent}

/-- The call that a worker waits for is the one it has made for this action. -/
def OwnsAction (l : Ledger) : Action → Token → Prop
  | .call method, .call i =>
    l.asked[i]? = some method ∧ l.site.callers[i]? ≠ some .abandoned
  | .call _, _ => False
  | .close, token => Pending false l.site.world token
  | .stop, token => Pending true l.site.world token

def MeetsAction (l : Ledger) : Action → Token → Outcome → Prop
  | .call method, .call i, r =>
    l.asked[i]? = some method ∧ callerResult l.site.callers[i]? = some r
  | .call _, _, _ => False
  | .close, _, r => r = .ok none
  | .stop, _, r => r = .ok none ∧ l.site.world.cancelled = true

theorem ledgerNext_world (h : ledgerNext C S build device l e = some l') :
    l'.site.world = l.site.world ∨
      ∃ ev, next C S build device l.site.world ev = some l'.site.world ∧
        ∀ j, ev = .user (.advance j) → e = .world (.user (.advance j)) := by
  obtain ⟨hnext, -⟩ := ledgerNext_eq_some h
  generalize l'.site = site' at hnext
  cases callNext_step hnext with
  | sends i ask w _ hworld => exact .inr ⟨_, hworld, fun _ h => by cases h⟩
  | works ev w _ hworld => exact .inr ⟨ev, hworld, fun _ h => by rw [h]⟩
  | _ => exact .inl rfl

theorem follow_pending {stop : Bool} {token : Token}
    (h : ledgerNext C S build device l e = some l')
    (hpending : Pending stop l.site.world token) :
    Pending stop l'.site.world (follow l e l' token) := by
  cases token with
  | call i => exact hpending
  | closing p =>
    change Pending stop l'.site.world (followClosing l.site.world l'.site.world p e)
    unfold followClosing
    split
    next j =>
      have hnext := (ledgerNext_eq_some h).1
      generalize l'.site = site' at hnext ⊢
      cases callNext_step hnext with
      | works _ w _ hworld => exact advance_pending hworld hpending
    next hother =>
      rcases ledgerNext_world h with heq | ⟨ev, hworld, hev⟩
      · rw [heq]
        exact hpending
      · exact next_pending hworld (fun j hj => hother j (hev j hj)) hpending
  | closed =>
    rcases ledgerNext_world h with heq | ⟨ev, hworld, -⟩
    · exact fun hs => heq ▸ hpending hs
    · exact fun hs => step_cancelled (next_step hworld) (hpending hs)

theorem begins_owns (action : Action) (hl : Matched l)
    (h : ledgerNext C S build device l action.event = some l') :
    OwnsAction l' action (action.token l) := by
  cases action with
  | call method =>
    cases h
    refine ⟨?_, ?_⟩
    · rw [← hl.length]
      exact List.getElem?_concat_length
    · change (l.site.callers ++ [method.caller])[l.site.callers.length]? ≠ _
      rw [List.getElem?_concat_length]
      unfold Method.caller
      split <;> exact fun h => by cases h
  | close =>
    cases h
    exact ⟨.markClosed, List.getElem?_concat_length, fun hs => by cases hs⟩
  | stop =>
    cases h
    exact ⟨.cancel, List.getElem?_concat_length, fun _ => .inl rfl⟩

theorem follow_owns {action : Action} {token : Token} (hl : Matched l)
    (h : ledgerNext C S build device l e = some l') (hfree : reserved e token = false)
    (howns : OwnsAction l action token) : OwnsAction l' action (follow l e l' token) := by
  cases action with
  | call method =>
    cases token with
    | call i =>
      obtain ⟨hnext, hasked⟩ := ledgerNext_eq_some h
      obtain ⟨hi, hpresent⟩ := howns
      have hlt := (List.getElem?_eq_some_iff.mp hi).1
      refine ⟨?_, callNext_present hnext ?_ (hl.length ▸ hlt) hpresent⟩
      · rw [hasked, List.getElem?_append_left hlt]
        exact hi
      · rintro rfl
        exact of_decide_eq_false hfree rfl
    | _ => exact False.elim howns
  | close => exact follow_pending h howns
  | stop => exact follow_pending h howns

theorem outcome_meets {action : Action} {token : Token} {r : Outcome}
    (howns : OwnsAction l action token) (houtcome : outcome l token = some r) :
    MeetsAction l action token r := by
  cases token with
  | call i =>
    cases action with
    | call method => exact ⟨howns.1, houtcome⟩
    | close => exact False.elim howns
    | stop => exact False.elim howns
  | closing p => cases houtcome
  | closed =>
    cases houtcome
    cases action with
    | call method => exact False.elim howns
    | close => rfl
    | stop => exact ⟨rfl, howns rfl⟩

theorem next_meets {action : Action} {token : Token} {r : Outcome}
    (h : ledgerNext C S build device l e = some l') (hmeets : MeetsAction l action token r) :
    MeetsAction l' action token r := by
  obtain ⟨hnext, hasked⟩ := ledgerNext_eq_some h
  cases action with
  | call method =>
    cases token with
    | call i =>
      obtain ⟨hi, hresult⟩ := hmeets
      refine ⟨?_, callNext_result hnext hresult⟩
      rw [hasked, List.getElem?_append_left (List.getElem?_eq_some_iff.mp hi).1]
      exact hi
    | _ => exact False.elim hmeets
  | close => exact hmeets
  | stop =>
    refine ⟨hmeets.1, ?_⟩
    rcases ledgerNext_world h with heq | ⟨ev, hworld, -⟩
    · rw [heq]
      exact hmeets.2
    · exact step_cancelled (next_step hworld) hmeets.2

def callKey : Token → Option Nat
  | .call i => some i
  | _ => none

theorem callKey_follow (l : Ledger) (e : CallEvent) (l' : Ledger) (token : Token) :
    callKey (follow l e l' token) = callKey token := by
  cases token with
  | closing p =>
    change callKey (followClosing l.site.world l'.site.world p e) = none
    unfold followClosing advanced
    split
    · split
      · split <;> rfl
      · rfl
    · rfl
  | _ => rfl

theorem ledgerNext_callers (h : ledgerNext C S build device l e = some l') :
    l.site.callers.length ≤ l'.site.callers.length := by
  rcases callNext_callers (ledgerNext_eq_some h).1 with hcallers | ⟨-, i, c, -, hcallers, -, -⟩
  · rw [hcallers, List.length_append]
    exact Nat.le_add_right _ _
  · rw [hcallers, List.length_set]

theorem token_key {action : Action} {i : Nat}
    (h : ledgerNext C S build device l action.event = some l')
    (hkey : callKey (action.token l) = some i) :
    i = l.site.callers.length ∧ i < l'.site.callers.length := by
  cases action with
  | call method =>
    cases hkey
    obtain ⟨site, hnext, rfl⟩ := Option.map_eq_some_iff.mp h
    cases hnext
    exact ⟨rfl, by simp⟩
  | close => cases hkey
  | stop => cases hkey

theorem event_unreserved (cmd : SyncCommand) (token : Token) :
    reserved cmd.action.event token = false := by
  cases cmd.action <;> cases token <;> rfl

def contract (C : Crates) (S : Codec) (build : Build) (device : Device) :
    Contract (service C S build device) where
  Good := Matched
  Owns l cmd := OwnsAction l cmd.action
  Meets l cmd := MeetsAction l cmd.action
  key := callKey
  bound l := l.site.callers.length
  good_next := ledgerNext_matched
  free := event_unreserved
  owns_begins := begins_owns _
  owns_follow := follow_owns
  meets_outcome _ := outcome_meets
  meets_next _ := next_meets
  key_token := token_key
  key_follow := callKey_follow
  bound_next := ledgerNext_callers

end Contract

section Results

variable {C : Crates} {S : Codec} {build : Build} {b : DeviceBuilder}
  {o : Office Ledger SyncCommand Token Outcome}
  {es : List (OfficeEvent CallEvent SyncCommand Outcome)}

section Sample

open KnownAnswers

def onDevice (es : List Event) : List (OfficeEvent CallEvent SyncCommand Outcome) :=
  es.map fun e => .base (.world e)

def sampleSync : Office Ledger SyncCommand Token Outcome →
    OfficeEvent CallEvent SyncCommand Outcome → Option (Office Ledger SyncCommand Token Outcome) :=
  syncNext crates (json []) .release (sampleBuilder .v33).device

def clientSteps : List (OfficeEvent CallEvent SyncCommand Outcome) :=
  [.hire, .arrive 0 (.ok (.device (.request .lanExtStream
      (some (.object [("reqType", .string "query")])) none))),
    .arrive 0 (.ok (.device .stop)),
    .arrive 0 (syncSetValue (fun val => .device (.setValue "1" val)) none), .send 0, .send 1]

def turnedAway : Option (Client SyncCommand Token Outcome) → Bool
  | some ⟨_, _, .returned none (.error .invalidPayload)⟩ => true
  | _ => false

end Sample

/-- What keeps the call of a worker from going on: its request is in the queue or in hand, or
the queue of the device is full. -/
def Blocked (w : World) : Token → Prop
  | .call c => c ∈ held w ∨ c ∈ queued w ∨ w.enqueue .connectNow = none
  | .closing _ => w.enqueue .connectNow = none
  | .closed => False

def stepsOf : Token → List CallEvent
  | .call c => [.send c, .decide c, .receive c]
  | .closing p => [.world (.user (.advance p))]
  | .closed => []

theorem enqueue_isSome {w w' : World} {cmd cmd' : Command} (h : w'.queue = w.queue)
    (hclosed : w'.queueClosed = w.queueClosed) (hroom : w.enqueue cmd ≠ none) :
    ∃ v, w'.enqueue cmd' = some v := by
  unfold World.enqueue at *
  rw [h, hclosed]
  split
  · exact ⟨_, rfl⟩
  next hopen =>
    rw [if_neg hopen] at hroom
    split
    · exact ⟨_, rfl⟩
    next hfull =>
      rw [if_neg hfull] at hroom
      exact absurd rfl hroom

theorem call_goes_on {site : Site} {c : Nat} {caller : Caller}
    (hcaller : site.callers[c]? = some caller) (hpresent : caller ≠ .abandoned)
    (hfree : ¬ Blocked site.world (.call c)) :
    (∃ r, callerResult site.callers[c]? = some r) ∨
      ∃ e ∈ stepsOf (.call c), ∃ site', callNext C S build b.device site e = some site' := by
  rw [Blocked, not_or, not_or] at hfree
  obtain ⟨hheld, hqueued, hroom⟩ := hfree
  cases caller with
  | sending ask =>
    obtain ⟨v, hv⟩ : ∃ v, site.world.enqueue (.request ⟨c, ask.command, ask.data, ask.cid⟩)
      = some v := enqueue_isSome rfl rfl hroom
    refine .inr ⟨.send c, List.mem_cons_self, ⟨v, site.callers.set c .deciding⟩, ?_⟩
    change sendToTask site c = _
    rw [sendToTask, hcaller]
    change Option.map _ (site.world.enqueue _) = _
    rw [hv]
    rfl
  | deciding =>
    refine .inr ⟨.decide c, List.mem_cons_of_mem _ List.mem_cons_self,
      site.set c (if site.world.nowait then .dispatched else .waiting), ?_⟩
    change decideToWait site c = _
    rw [decideToWait, hcaller]
  | waiting =>
    have henabled : ∃ site', callNext C S build b.device site (.receive c) = some site' :=
      receive_enabled hcaller hheld hqueued
    obtain ⟨site', hnext⟩ := henabled
    exact .inr ⟨.receive c, by simp [stepsOf], site', hnext⟩
  | refused err =>
    rw [hcaller]
    exact .inl ⟨_, rfl⟩
  | dispatched =>
    rw [hcaller]
    exact .inl ⟨_, rfl⟩
  | resumed result =>
    rw [hcaller]
    exact .inl ⟨_, rfl⟩
  | abandoned => exact absurd rfl hpresent

theorem closing_goes_on {site : Site} {p : Nat} {call : Call}
    (hcall : site.world.calls[p]? = some call) (hfree : ¬ Blocked site.world (.closing p)) :
    ∃ e ∈ stepsOf (.closing p), ∃ site', callNext C S build b.device site e = some site' := by
  have hadvance : ∃ v, advanceCall site.world p = some v := by
    unfold advanceCall
    rw [hcall]
    cases call with
    | cancel => exact ⟨_, rfl⟩
    | markClosed => exact ⟨_, rfl⟩
    | sendDisconnect =>
      exact enqueue_isSome (w := site.world) rfl rfl hfree
  obtain ⟨v, hv⟩ := hadvance
  refine ⟨.world (.user (.advance p)), List.mem_singleton_self _, ⟨v, site.callers⟩, ?_⟩
  change Option.map _ (advanceCall site.world p) = _
  rw [hv]
  rfl

/-- The call that a worker waits for has an outcome, or goes on. -/
theorem token_goes_on {l : Ledger} {action : Action} {token : Token} (hl : Matched l)
    (howns : OwnsAction l action token) (hfree : ¬ Blocked l.site.world token) :
    (∃ r, outcome l token = some r) ∨
      ∃ e ∈ stepsOf token, ∃ site', callNext C S build b.device l.site e = some site' := by
  cases token with
  | call c =>
    cases action with
    | call method =>
      obtain ⟨hasked, hpresent⟩ := howns
      have hlt : c < l.site.callers.length := hl.length ▸ (List.getElem?_eq_some_iff.mp hasked).1
      have hcaller := List.getElem?_eq_getElem hlt
      refine call_goes_on hcaller (fun habandoned => hpresent ?_) hfree
      rw [hcaller, habandoned]
    | close => exact False.elim howns
    | stop => exact False.elim howns
  | closing p =>
    have hcall : ∃ call, l.site.world.calls[p]? = some call := by
      cases action with
      | call method => exact False.elim howns
      | close => exact ⟨_, howns.choose_spec.1⟩
      | stop => exact ⟨_, howns.choose_spec.1⟩
    obtain ⟨call, hcall⟩ := hcall
    exact .inr (closing_goes_on hcall hfree)
  | closed => exact .inl ⟨_, rfl⟩

/-- Whatever a worker is told to do, it can begin with it. -/
theorem event_enabled (l : Ledger) (action : Action) :
    ∃ l', ledgerNext C S build b.device l action.event = some l' := by
  cases action <;> exact ⟨_, rfl⟩

theorem stepsOf_unreserved {token other : Token} {e : CallEvent} (he : e ∈ stepsOf token) :
    reserved e other = false := by
  cases token with
  | call c =>
    simp only [stepsOf, List.mem_cons, List.not_mem_nil, or_false] at he
    rcases he with rfl | rfl | rfl <;> rfl
  | closing p =>
    cases List.mem_singleton.mp he
    rfl
  | closed => cases he

theorem base_goes_on {token : Token} {e : CallEvent} {site' : Site} (he : e ∈ stepsOf token)
    (h : callNext C S build b.device o.base.site e = some site') :
    ∃ o', syncNext C S build b.device o (.base e) = some o' := by
  have hfree : o.workers.any (Worker.reserves (service C S build b.device) e) = false := by
    refine List.any_eq_false.mpr fun w _ hreserves => ?_
    rw [Worker.reserves] at hreserves
    cases hjob : w.job with
    | none =>
      rw [hjob] at hreserves
      cases hreserves
    | some job =>
      rw [hjob] at hreserves
      exact Bool.false_ne_true ((stepsOf_unreserved he).symm.trans hreserves)
  have hnext : ledgerNext C S build b.device o.base e
      = some ⟨site', o.base.asked ++ calledMethod e⟩ := by
    rw [ledgerNext, h]
    rfl
  rw [syncNext, officeNext, if_neg (by rw [hfree]; exact Bool.false_ne_true)]
  exact ⟨_, congrArg (Option.map _) hnext⟩

/-- A worker that has something to do goes on: it takes the next command, it returns what the
call has brought that it has made, or that call goes on. The only exception is a call whose
request is in the queue or in hand of the device, or that finds the queue of the device full. -/
theorem sync_workers_go_on (C : Crates) (S : Codec) (build : Build) (b : DeviceBuilder)
    (hrun : Execution (syncNext C S build b.device) (fun _ _ => True) (opened b) es o)
    {k : Nat} {w : Worker SyncCommand Token} (hworker : o.workers[k]? = some w) :
    (w.job = none → w.queue ≠ [] → ∃ o', syncNext C S build b.device o (.take k) = some o') ∧
    ∀ i cmd call, w.job = some (i, cmd, call) → ¬ Blocked o.base.site.world call →
      (∃ o', syncNext C S build b.device o (.finish k) = some o') ∨
      ∃ e ∈ stepsOf call, ∃ o', syncNext C S build b.device o (.base e) = some o' := by
  have ho : Orderly (contract C S build b.device) o :=
    run_orderly hrun (orderly_open ⟨rfl, fun _ _ h => by cases h⟩)
  obtain ⟨queue, job⟩ := w
  refine ⟨fun hjob hqueue => ?_, fun i cmd call hjob hfree => ?_⟩
  · cases hjob
    cases queue with
    | nil => exact absurd rfl hqueue
    | cons entry rest =>
      obtain ⟨i, cmd⟩ := entry
      obtain ⟨l, hl⟩ : ∃ l', ledgerNext C S build b.device o.base cmd.action.event = some l' :=
        event_enabled o.base cmd.action
      change ∃ o', take (service C S build b.device) o k = some o'
      rw [take, hworker]
      exact ⟨_, congrArg (Option.map _) hl⟩
  · cases hjob
    obtain ⟨-, howns⟩ := ho.jobs _ (List.mem_of_getElem? hworker) i cmd call rfl
    rcases token_goes_on ho.good howns hfree with ⟨r, hr⟩ | ⟨e, he, site', hnext⟩
    · refine .inl ?_
      change ∃ o', finish (service C S build b.device) o k = some o'
      rw [finish, hworker]
      exact ⟨_, congrArg (Option.map _) hr⟩
    · exact .inr ⟨e, he, base_goes_on he hnext⟩

def unblocked (w : World) (c : Nat) : Bool :=
  !(held w).contains c && !(queued w).contains c && (w.enqueue .connectNow).isSome

theorem unblocked_call {w : World} {c : Nat} (h : unblocked w c = true) :
    ¬ Blocked w (.call c) := by
  simp only [unblocked, Bool.and_eq_true, Bool.not_eq_true', List.contains_eq_mem,
    decide_eq_false_iff_not] at h
  rintro (hheld | hqueued | hfull)
  · exact h.1.1 hheld
  · exact h.1.2 hqueued
  · rw [hfull] at h
    cases h.2

def callsFirst (w : Worker SyncCommand Token) : Bool :=
  match w.job with
  | some (0, _, .call 0) => true
  | _ => false

theorem callsFirst_inv {w : Worker SyncCommand Token} (h : callsFirst w = true) :
    ∃ cmd, w.job = some (0, cmd, .call 0) := by
  unfold callsFirst at h
  split at h
  next hjob => exact ⟨_, hjob⟩
  · cases h

/-- A worker whose queue has a command takes it, and goes on with the call that it makes then. -/
theorem first_command_taken :
    ∃ o o', run sampleSync (opened (sampleBuilder .v33)) clientSteps = some o ∧
      run sampleSync (opened (sampleBuilder .v33)) (clientSteps ++ [.take 0]) = some o' ∧
      (∃ t, sampleSync o (.take 0) = some t) ∧
      ((∃ t, sampleSync o' (.finish 0) = some t) ∨
        ∃ e ∈ stepsOf (.call 0), ∃ t, sampleSync o' (.base e) = some t) := by
  obtain ⟨o, hrun, hobserved⟩ : ∃ o,
      run sampleSync (opened (sampleBuilder .v33)) clientSteps = some o ∧
      (o.workers[0]?.map fun w => (w.job.isNone, w.queue.length)) = some (true, 2) :=
    Option.map_eq_some_iff.mp (by decide +kernel)
  obtain ⟨w, hworker, hw⟩ := Option.map_eq_some_iff.mp hobserved
  rw [Prod.mk.injEq, Option.isNone_iff_eq_none] at hw
  obtain ⟨o', hrun', hobserved'⟩ : ∃ o,
      run sampleSync (opened (sampleBuilder .v33)) (clientSteps ++ [.take 0]) = some o ∧
      (o.workers[0]?.map fun w => callsFirst w && unblocked o.base.site.world 0) = some true :=
    Option.map_eq_some_iff.mp (by decide +kernel)
  obtain ⟨w', hworker', hw'⟩ := Option.map_eq_some_iff.mp hobserved'
  rw [Bool.and_eq_true] at hw'
  obtain ⟨cmd, hjob⟩ := callsFirst_inv hw'.1
  refine ⟨o, o', hrun, hrun', ?_, ?_⟩
  · refine (sync_workers_go_on KnownAnswers.crates (KnownAnswers.json []) .release
      (sampleBuilder .v33) (execution_of_run (fun _ _ => trivial) hrun) hworker).1 hw.1 ?_
    intro hempty
    rw [hempty] at hw
    cases hw.2
  · exact (sync_workers_go_on KnownAnswers.crates (KnownAnswers.json []) .release
      (sampleBuilder .v33) (execution_of_run (fun _ _ => trivial) hrun') hworker').2 0 cmd
      (.call 0) hjob (unblocked_call hw'.2)

end Results

end SyncCalls
