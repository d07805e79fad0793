import Rustuya.ChannelContents
import Rustuya.RequestOrder
import Rustuya.ResponseMatching
import Rustuya.TaskProgress

/-!
# Calls of `request`

A caller of `request`, or of one of the methods that are built on it, makes a channel for the
answer, sends its command to the task and waits for the answer, unless the device is set not
to wait. Any number of callers do so at once and may give up at any `await`. The number of a
caller stands for its channel.
-/
namespace RequestCalls

open CheckedExecution ByteCodec Error Crypto Message Protocol Json DeviceState ConnectionTask
open TransitionSystem RequestLifecycle RequestRefinement RequestAccounting
open TaskBranches hiding Call
open RequestOrder (file next_file)
open TaskProgress (pending)
open ChannelContents

section Methods

structure Ask where
  command : CommandType
  data : Option Value
  cid : Option String

inductive Handle where
  | device
  | sub (cid : String)

def Handle.cid : Handle → Option String
  | .device => none
  | .sub cid => some cid

namespace Handle

variable (handle : Handle)

def request (command : CommandType) (data : Option Value) : Ask := ⟨command, data, handle.cid⟩

def status : Ask := handle.request .dpQuery none

def setDps (dps : Value) : Ask := handle.request .control (some dps)

/-- `none` stands for a value that cannot be serialised. -/
def setValue (index : String) (value : Option Value) : Except TuyaError Ask :=
  match value with
  | some val => .ok (handle.setDps (.object [(index, val)]))
  | none => .error .invalidPayload

end Handle

def subDiscover : Ask :=
  Handle.device.request .lanExtStream
    (some (.object [("cids", .array []), ("reqType", .string "subdev_online_stat_query")]))

inductive Method where
  | request (handle : Handle) (command : CommandType) (data : Option Value)
  | status (handle : Handle)
  | setDps (handle : Handle) (dps : Value)
  | setValue (handle : Handle) (index : String) (value : Option Value)
  | subDiscover

def Method.ask : Method → Except TuyaError Ask
  | .request handle command data => .ok (handle.request command data)
  | .status handle => .ok handle.status
  | .setDps handle dps => .ok (handle.setDps dps)
  | .setValue handle index value => handle.setValue index value
  | .subDiscover => .ok RequestCalls.subDiscover

end Methods

section Results

def payloadAsString (payload : Bytes) : Option String := String.fromUTF8? ⟨payload.toArray⟩

def responseText (msg : TuyaMessage) : String :=
  match payloadAsString msg.payload with
  | some s => s
  | none => StreamReader.hexText msg.payload

def requestResult : Answer → Except TuyaError (Option String)
  | .ok (some msg) => .ok (some (responseText msg))
  | .ok none => .ok none
  | .error e => .error e

end Results

inductive Caller where
  | sending (ask : Ask)
  /-- The command has left; the caller has not yet looked at `nowait`. -/
  | deciding
  | waiting
  /-- Returned without asking the task. -/
  | refused (e : TuyaError)
  /-- Returned `Ok(None)` without waiting. -/
  | dispatched
  /-- Returned with what came through the channel. -/
  | resumed (result : Except TuyaError (Option String))
  /-- Dropped at an `await`. -/
  | abandoned

structure Site where
  world : World
  callers : List Caller

inductive CallEvent where
  | call (method : Method)
  | send (i : Nat)
  | decide (i : Nat)
  | receive (i : Nat)
  | abandon (i : Nat)
  /-- A step of the device, or a call to another method of it. -/
  | world (e : Event)

section Steps

variable (C : Crates) (S : Codec) (build : Build) (device : Device)

def Method.caller (method : Method) : Caller :=
  match method.ask with
  | .ok ask => .sending ask
  | .error e => .refused e

/-- What the receiving end of a channel yields. The sending end travels with the command, and
without it the answer cannot come any more. -/
def channel (w : World) (i : Nat) : Option Answer :=
  match w.replies.lookup i with
  | some answer => some answer
  | none => if i ∈ held w ∨ i ∈ queued w then none else some (.error .offline)

def Site.set (site : Site) (i : Nat) (caller : Caller) : Site :=
  { site with callers := site.callers.set i caller }

def abandonCall (site : Site) (i : Nat) : Option Site :=
  match site.callers[i]? with
  | some (.sending _) | some .waiting => some (site.set i .abandoned)
  | _ => none

/-- `send_command_to_task` up to the end of `send_to_task`. The outcome is only logged. -/
def sendToTask (site : Site) (i : Nat) : Option Site :=
  match site.callers[i]? with
  | some (.sending ask) =>
    (userNext site.world (.submit ⟨i, ask.command, ask.data, ask.cid⟩)).map fun w =>
      { site with world := w }.set i .deciding
  | _ => none

def decideToWait (site : Site) (i : Nat) : Option Site :=
  match site.callers[i]? with
  | some .deciding => some (site.set i (if site.world.nowait then .dispatched else .waiting))
  | _ => none

def receiveResponse (site : Site) (i : Nat) : Option Site :=
  match site.callers[i]? with
  | some .waiting =>
    (channel site.world i).map fun answer => site.set i (.resumed (requestResult answer))
  | _ => none

def submits : Event → Bool
  | .user (.submit _) => true
  | _ => false

def callNext (site : Site) : CallEvent → Option Site
  | .call method => some { site with callers := site.callers ++ [method.caller] }
  | .send i => sendToTask site i
  | .decide i => decideToWait site i
  | .receive i => receiveResponse site i
  | .abandon i => abandonCall site i
  | .world e =>
    if submits e then none
    else (next C S build device site.world e).map fun w => { site with world := w }

def start (b : DeviceBuilder) : Site := ⟨b.run, []⟩

end Steps

section Rules

variable {C : Crates} {S : Codec} {build : Build} {device : Device} {site site' : Site}

inductive CallStep (C : Crates) (S : Codec) (build : Build) (device : Device) (site : Site) :
    CallEvent → Site → Prop where
  | calls (method : Method) :
      CallStep C S build device site (.call method)
        { site with callers := site.callers ++ [method.caller] }
  | sends (i : Nat) (ask : Ask) (w : World) (hcaller : site.callers[i]? = some (.sending ask))
      (hnext : next C S build device site.world
        (.user (.submit ⟨i, ask.command, ask.data, ask.cid⟩)) = some w) :
      CallStep C S build device site (.send i) ⟨w, site.callers.set i .deciding⟩
  | dispatches (i : Nat) (hcaller : site.callers[i]? = some .deciding) :
      CallStep C S build device site (.decide i) (site.set i .dispatched)
  | waits (i : Nat) (hcaller : site.callers[i]? = some .deciding) :
      CallStep C S build device site (.decide i) (site.set i .waiting)
  | resumes (i : Nat) (answer : Answer) (hcaller : site.callers[i]? = some .waiting)
      (hanswer : channel site.world i = some answer) :
      CallStep C S build device site (.receive i) (site.set i (.resumed (requestResult answer)))
  | abandons (i : Nat) : CallStep C S build device site (.abandon i) (site.set i .abandoned)
  | works (e : Event) (w : World) (hother : submits e = false)
      (hnext : next C S build device site.world e = some w) :
      CallStep C S build device site (.world e) ⟨w, site.callers⟩

theorem callNext_step {e : CallEvent} (h : callNext C S build device site e = some site') :
    CallStep C S build device site e site' := by
  cases e with
  | call method =>
    cases h
    exact .calls method
  | send i =>
    replace h : sendToTask site i = some site' := h
    unfold sendToTask at h
    split at h
    next ask hcaller =>
      obtain ⟨w, hnext, rfl⟩ := Option.map_eq_some_iff.mp h
      exact .sends i ask w hcaller hnext
    · cases h
  | decide i =>
    replace h : decideToWait site i = some site' := h
    unfold decideToWait at h
    split at h
    next hcaller =>
      cases h
      split
      · exact .dispatches i hcaller
      · exact .waits i hcaller
    · cases h
  | receive i =>
    replace h : receiveResponse site i = some site' := h
    unfold receiveResponse at h
    split at h
    next hcaller =>
      obtain ⟨answer, hanswer, rfl⟩ := Option.map_eq_some_iff.mp h
      exact .resumes i answer hcaller hanswer
    · cases h
  | abandon i =>
    replace h : abandonCall site i = some site' := h
    unfold abandonCall at h
    split at h <;> cases h <;> exact .abandons i
  | world e =>
    rw [callNext] at h
    split at h
    · cases h
    next hother =>
      obtain ⟨w, hnext, rfl⟩ := Option.map_eq_some_iff.mp h
      exact .works e w (Bool.not_eq_true _ ▸ hother) hnext

end Rules

section Device

variable {C : Crates} {S : Codec} {build : Build} {device : Device} {w w' : World} {e : Event}

/-- The task has been told to end, or is about to. -/
def Ended (w : World) : Prop := w.cancelled = true ∨ w.queueClosed = true ∨ Exited w

theorem step_closed {d d' : Desk} {deed : Deed} (h : DeskStep S d deed d')
    (hclosed : d.closed = true) : d'.closed = true := by
  cases h with
  | giveUp | count | refuse =>
    rw [Desk.drain]
    exact Bool.or_eq_true_iff.mpr (.inl hclosed)
  | finish => rfl
  | _ => exact hclosed

theorem next_ended (h : next C S build device w e = some w') (hw : Ended w) : Ended w' := by
  have hstep := next_step h
  rcases hw with hcancelled | hclosed | hexited
  · exact .inl (step_cancelled hstep hcancelled)
  · exact .inr (.inl (step_closed hstep hclosed))
  · refine .inr (.inr (exited_of_over (step_over hstep ?_)))
    rcases hexited with hpc | hpc <;> (rw [desk, hpc]; rfl)

theorem step_replies {d d' : Desk} {deed : Deed} (h : DeskStep S d deed d') :
    d.replies <+: d'.replies := by
  cases h with
  | reject | giveUp | failCarried | count | refuse => exact List.prefix_append _ _
  | reply | unanswered | sent | sendFailed => exact List.prefix_append _ _
  | _ => exact List.prefix_refl _

theorem next_replies (h : next C S build device w e = some w') {reply : Nat × Answer}
    (hreply : reply ∈ w.replies) : reply ∈ w'.replies :=
  (step_replies (next_step h)).subset hreply

theorem mem_file_iff {i : Nat} : i ∈ file w ↔ i ∈ (desk w).ids := by
  have hperm : (file w).Perm (desk w).ids := by
    change (answered w ++ (held w ++ queued w)).Perm (queued w ++ held w ++ answered w)
    exact List.perm_append_comm.trans (List.perm_append_comm.append_right _)
  exact hperm.mem_iff

/-- As long as the task goes on, it loses nobody. -/
theorem next_file_grows (h : next C S build device w e = some w') (hgoes : ¬ Ended w') {i : Nat}
    (hi : i ∈ file w ++ accepted w e) : i ∈ file w' := by
  have hcancelled : w.cancelled = false :=
    Bool.eq_false_iff.mpr fun hw => hgoes (next_ended h (.inl hw))
  obtain ⟨-, hperm⟩ := next_conserves hcancelled h fun hexited => hgoes (.inr (.inr hexited))
  rw [mem_file_iff, hperm.mem_iff, List.mem_append, ← mem_file_iff]
  exact List.mem_append.mp hi

end Device

section Invariant

variable {C : Crates} {S : Codec} {build : Build} {device : Device} {site site' : Site}

/-- What a caller may be told: the answer to its own request, or that the device is offline if
the request is nowhere and never will be. -/
def Justified (w : World) (i : Nat) (result : Except TuyaError (Option String)) : Prop :=
  (∃ answer, (i, answer) ∈ w.replies ∧ result = requestResult answer) ∨
    (result = .error .offline ∧ Ended w ∧ i ∉ file w)

def Caller.sent : Caller → Bool
  | .deciding | .waiting | .dispatched | .resumed _ => true
  | .sending _ | .refused _ | .abandoned => false

/-- The requests are those of the callers, one for each. -/
structure Kept (site : Site) : Prop where
  nodup : (file site.world).Nodup
  known : ∀ i ∈ file site.world, ∃ c, site.callers[i]? = some c ∧ ∀ ask, c ≠ .sending ask
  located : ¬ Ended site.world → ∀ i c, site.callers[i]? = some c → c.sent = true →
    i ∈ file site.world
  justified : ∀ i result, site.callers[i]? = some (.resumed result) →
    Justified site.world i result

theorem channel_justified {w : World} {i : Nat} {answer : Answer}
    (hfile : ¬ Ended w → i ∈ file w) (h : channel w i = some answer) :
    Justified w i (requestResult answer) := by
  unfold channel at h
  split at h
  next answer' hlookup =>
    cases h
    obtain ⟨before, after, hreplies, -⟩ := List.lookup_eq_some_iff.mp hlookup
    refine .inl ⟨_, ?_, rfl⟩
    rw [hreplies]
    exact List.mem_append_right _ List.mem_cons_self
  next hlookup =>
    split at h
    · cases h
    next hgone =>
      cases h
      have hanswered : i ∉ answered w := by
        intro hmem
        obtain ⟨⟨j, a⟩, hreply, rfl⟩ := List.mem_map.mp hmem
        have hnone := List.lookup_eq_none_iff.mp hlookup (j, a) hreply
        simp at hnone
      have hout : i ∉ file w := by
        simp only [file, List.mem_append]
        rintro (hin | hin | hin)
        · exact hanswered hin
        · exact hgone (.inl hin)
        · exact hgone (.inr hin)
      exact .inr ⟨rfl, Classical.byContradiction fun hgoes => hout (hfile hgoes), hout⟩

theorem caller_set {callers : List Caller} {i j : Nat} {c c' : Caller}
    (h : (callers.set i c)[j]? = some c') : (j = i ∧ c' = c) ∨ callers[j]? = some c' := by
  rw [List.getElem?_set] at h
  split at h
  next hij =>
    split at h <;> cases h
    exact .inl ⟨hij.symm, rfl⟩
  · exact .inr h

theorem known_set {callers : List Caller} {i j : Nat} {c : Caller}
    (hsending : ∀ ask, c ≠ .sending ask)
    (h : ∃ c', callers[j]? = some c' ∧ ∀ ask, c' ≠ .sending ask) :
    ∃ c', (callers.set i c)[j]? = some c' ∧ ∀ ask, c' ≠ .sending ask := by
  obtain ⟨c', hcaller, hc'⟩ := h
  have hlt : j < callers.length := (List.getElem?_eq_some_iff.mp hcaller).1
  by_cases hij : i = j
  · subst hij
    exact ⟨c, List.getElem?_set_self hlt, hsending⟩
  · exact ⟨c', (List.getElem?_set_ne hij).trans hcaller, hc'⟩

theorem Justified.later {w w' : World} {e : Event} {i : Nat}
    {result : Except TuyaError (Option String)} (h : Justified w i result)
    (hnext : next C S build device w e = some w') (hi : i ∉ accepted w e) :
    Justified w' i result := by
  rcases h with ⟨answer, hreply, hresult⟩ | ⟨hresult, hended, hout⟩
  · exact .inl ⟨answer, next_replies hnext hreply, hresult⟩
  · refine .inr ⟨hresult, next_ended hnext hended, fun hin => ?_⟩
    rcases List.mem_append.mp ((next_file hnext).subset hin) with hin | hin
    · exact hout hin
    · exact hi hin

theorem accepted_other {w : World} {e : Event} (h : submits e = false) : accepted w e = [] := by
  cases e with
  | user u =>
    cases u with
    | submit req => cases h
    | _ => rfl
  | _ => rfl

theorem Kept.works (h : Kept site) {e : Event} {w : World} (hother : submits e = false)
    (hnext : next C S build device site.world e = some w) : Kept ⟨w, site.callers⟩ := by
  have hnone := accepted_other (w := site.world) hother
  have hfile : (file w).Sublist (file site.world) := by
    have hsub := next_file hnext
    rwa [hnone, List.append_nil] at hsub
  refine ⟨h.nodup.sublist hfile, fun i hi => h.known i (hfile.subset hi), ?_, ?_⟩
  · intro hgoes i c hcaller hsent
    have hearlier : ¬ Ended site.world := fun hended => hgoes (next_ended hnext hended)
    have hi := h.located hearlier i c hcaller hsent
    exact next_file_grows hnext hgoes (List.mem_append_left _ hi)
  · intro i result hcaller
    refine (h.justified i result hcaller).later hnext ?_
    rw [hnone]
    exact List.not_mem_nil

theorem Kept.set (h : Kept site) {i : Nat} {c : Caller} (hsending : ∀ ask, c ≠ .sending ask)
    (hlocated : ¬ Ended site.world → c.sent = true → i ∈ file site.world)
    (hjustified : ∀ result, c = .resumed result → Justified site.world i result) :
    Kept (site.set i c) := by
  refine ⟨h.nodup, fun j hj => ?_, fun hgoes j c' hcaller hsent => ?_,
    fun j result hcaller => ?_⟩
  · exact known_set hsending (h.known j hj)
  · rcases caller_set hcaller with ⟨rfl, rfl⟩ | hcaller
    · exact hlocated hgoes hsent
    · exact h.located hgoes j c' hcaller hsent
  · rcases caller_set hcaller with ⟨rfl, hresult⟩ | hcaller
    · exact hjustified result hresult.symm
    · exact h.justified j result hcaller

theorem Kept.sends (h : Kept site) {i : Nat} {ask : Ask} {w : World}
    (hcaller : site.callers[i]? = some (.sending ask))
    (hnext : next C S build device site.world
      (.user (.submit ⟨i, ask.command, ask.data, ask.cid⟩)) = some w) :
    Kept ⟨w, site.callers.set i .deciding⟩ := by
  have hnew : i ∉ file site.world := by
    intro hi
    obtain ⟨c, hsame, hc⟩ := h.known i hi
    rw [hcaller] at hsame
    exact hc ask (Option.some.inj hsame).symm
  have haccepted : (accepted site.world
      (.user (.submit ⟨i, ask.command, ask.data, ask.cid⟩))).Sublist [i] := by
    rw [accepted]
    split
    · exact List.nil_sublist _
    · exact List.Sublist.refl _
  have hfile : (file w).Sublist (file site.world ++ [i]) :=
    (next_file hnext).trans (haccepted.append_left _)
  refine ⟨?_, fun j hj => ?_, fun hgoes j c hj hsent => ?_, fun j result hj => ?_⟩
  · refine List.Nodup.sublist hfile ?_
    rw [List.nodup_append]
    refine ⟨h.nodup, List.nodup_cons.mpr ⟨List.not_mem_nil, List.nodup_nil⟩, ?_⟩
    intro a ha b hb
    rw [List.mem_singleton.mp hb]
    rintro rfl
    exact hnew ha
  · rcases List.mem_append.mp (hfile.subset hj) with hj | hj
    · exact known_set (fun _ => Caller.noConfusion) (h.known j hj)
    · rw [List.mem_singleton.mp hj]
      have hlt : i < site.callers.length := (List.getElem?_eq_some_iff.mp hcaller).1
      exact ⟨.deciding, List.getElem?_set_self hlt, fun _ => Caller.noConfusion⟩
  · have hearlier : ¬ Ended site.world := fun hended => hgoes (next_ended hnext hended)
    refine next_file_grows hnext hgoes (List.mem_append.mpr ?_)
    rcases caller_set hj with ⟨rfl, rfl⟩ | hj
    · have hopen : site.world.queueClosed = false :=
        Bool.eq_false_iff.mpr fun hclosed => hearlier (.inr (.inl hclosed))
      right
      rw [accepted, hopen]
      exact List.mem_singleton_self j
    · exact .inl (h.located hearlier j c hj hsent)
  · rcases caller_set hj with ⟨-, hfalse⟩ | hj
    · cases hfalse
    · refine (h.justified j result hj).later hnext fun hmem => ?_
      rw [List.mem_singleton.mp (haccepted.subset hmem), hcaller] at hj
      cases hj

theorem step_kept {e : CallEvent} (hstep : CallStep C S build device site e site')
    (h : Kept site) : Kept site' := by
  cases hstep with
  | calls method =>
    have hold : ∀ {i : Nat} {c : Caller}, c.sent = true →
        (site.callers ++ [method.caller])[i]? = some c → site.callers[i]? = some c := by
      intro i c hsent hcaller
      rw [List.getElem?_append] at hcaller
      split at hcaller
      · exact hcaller
      next hge =>
        have hnew : method.caller = c := by
          have hsome := List.getElem?_eq_some_iff.mp hcaller
          simpa using hsome.2
        rw [← hnew, Method.caller] at hsent
        split at hsent <;> cases hsent
    refine ⟨h.nodup, fun i hi => ?_, fun hgoes i c hcaller hsent => ?_,
      fun i result hcaller => ?_⟩
    · obtain ⟨c, hcaller, hc⟩ := h.known i hi
      have hlt : i < site.callers.length := (List.getElem?_eq_some_iff.mp hcaller).1
      exact ⟨c, (List.getElem?_append_left hlt).trans hcaller, hc⟩
    · exact h.located hgoes i c (hold hsent hcaller) hsent
    · exact h.justified i result (hold rfl hcaller)
  | sends i ask w hcaller hnext => exact h.sends hcaller hnext
  | dispatches i hcaller | waits i hcaller =>
    refine h.set (fun _ => Caller.noConfusion) (fun hgoes _ => ?_) fun _ => Caller.noConfusion
    exact h.located hgoes i _ hcaller rfl
  | resumes i answer hcaller hanswer =>
    have hlocated : ¬ Ended site.world → i ∈ file site.world :=
      fun hgoes => h.located hgoes i _ hcaller rfl
    refine h.set (fun _ => Caller.noConfusion) (fun hgoes _ => hlocated hgoes) ?_
    intro result hresult
    cases hresult
    exact channel_justified hlocated hanswer
  | abandons i =>
    exact h.set (fun _ => Caller.noConfusion) (fun _ => Bool.noConfusion)
      fun _ => Caller.noConfusion
  | works e w hother hnext => exact h.works hother hnext

theorem run_kept (b : DeviceBuilder) {es : List CallEvent}
    (h : Execution (callNext C S build b.device) (fun _ _ => True) (start b) es site) :
    Kept site := by
  refine h.invariant (P := Kept) (fun _ _ _ _ hnext hsite => step_kept (callNext_step hnext) hsite)
    ⟨List.nodup_nil, ?_, ?_, ?_⟩
  · intro i hi
    cases hi
  · intro _ i c hcaller
    cases hcaller
  · intro i result hcaller
    cases hcaller

end Invariant

section Calls

variable {C : Crates} {S : Codec} {build : Build} {b : DeviceBuilder} {site : Site}
  {es : List CallEvent}

/-- The device does not notice by whom it is called. -/
theorem run_world
    (h : Execution (callNext C S build b.device) (fun _ _ => True) (start b) es site) :
    ∃ fs, Execution (next C S build b.device) (fun _ _ => True) b.run fs site.world := by
  refine h.invariant (P := fun site =>
    ∃ fs, Execution (next C S build b.device) (fun _ _ => True) b.run fs site.world) ?_
    ⟨[], .nil _⟩
  rintro site e site' - hnext ⟨fs, hfs⟩
  cases callNext_step hnext with
  | sends i ask w hcaller hworld =>
    exact ⟨_, hfs.append (.cons trivial hworld (.nil _))⟩
  | works e w hother hworld => exact ⟨_, hfs.append (.cons trivial hworld (.nil _))⟩
  | _ => exact ⟨fs, hfs⟩

/-- A caller has to wait only while its request is in the queue or in hand. -/
theorem receive_enabled {i : Nat} (hcaller : site.callers[i]? = some .waiting)
    (hheld : i ∉ held site.world) (hqueued : i ∉ queued site.world) :
    ∃ site', callNext C S build b.device site (.receive i) = some site' := by
  have hanswer : ∃ answer, channel site.world i = some answer := by
    unfold channel
    split
    · exact ⟨_, rfl⟩
    · rw [if_neg (not_or.mpr ⟨hheld, hqueued⟩)]
      exact ⟨_, rfl⟩
  obtain ⟨answer, hanswer⟩ := hanswer
  refine ⟨site.set i (.resumed (requestResult answer)), ?_⟩
  rw [callNext, receiveResponse, hcaller]
  simp only [hanswer, Option.map_some]

theorem unpending_absent {w : World} (h : pending w = false) (i : Nat) :
    i ∉ held w ∧ i ∉ queued w := by
  rw [pending, Bool.or_eq_false_iff, Bool.not_eq_false', Bool.not_eq_false',
    List.isEmpty_iff, List.isEmpty_iff] at h
  rw [queued, h.1, h.2]
  exact ⟨List.not_mem_nil, List.not_mem_nil⟩

/-- In every run with any number of callers, which may give up at any time: a request has been
answered at most once and is in one place only, and as long as the task has not been told to
end, the request of everyone who has sent one is in some place. Whoever has waited got the
answer to their own request; they were told that the device is offline without an answer only
if the task had been told to end and their request is gone for good. A caller that still waits
can go on unless its request is in the queue or in hand; so once the task has nothing to do, or
has ended, everyone can. -/
theorem calls_get_own_answers (C : Crates) (S : Codec) (build : Build) (b : DeviceBuilder)
    (hrun : Execution (callNext C S build b.device) (fun _ _ => True) (start b) es site) :
    (answered site.world ++ (held site.world ++ queued site.world)).Nodup ∧
    (¬ Ended site.world → ∀ i c, site.callers[i]? = some c → c.sent = true →
      i ∈ answered site.world ∨ i ∈ held site.world ∨ i ∈ queued site.world) ∧
    (∀ i result, site.callers[i]? = some (.resumed result) →
      Justified site.world i result) ∧
    (∀ i, site.callers[i]? = some .waiting → i ∉ held site.world → i ∉ queued site.world →
      ∃ site', callNext C S build b.device site (.receive i) = some site') ∧
    (pending site.world = false ∨ Exited site.world → ∀ i, site.callers[i]? = some .waiting →
      ∃ site', callNext C S build b.device site (.receive i) = some site') := by
  have hkept := run_kept b hrun
  refine ⟨hkept.nodup, fun hgoes i c hcaller hsent => ?_, hkept.justified,
    fun i hcaller hheld hqueued => receive_enabled hcaller hheld hqueued, fun hidle i hcaller => ?_⟩
  · have hi := hkept.located hgoes i c hcaller hsent
    rw [file, List.mem_append, List.mem_append] at hi
    exact hi
  · obtain ⟨fs, hworld⟩ := run_world hrun
    have hdone : pending site.world = false :=
      hidle.elim id (TaskProgress.unpending_of_exited (TaskProgress.run_closed b hworld))
    obtain ⟨hheld, hqueued⟩ := unpending_absent hdone i
    exact receive_enabled hcaller hheld hqueued

section Sample

open KnownAnswers

def callSteps : List CallEvent :=
  WireIntegrity.connectSteps.map .world ++
    [.call (.request .device .lanExtStream (some (.object [("reqType", .string "query")]))),
      .call (.status .device), .send 0, .send 1, .decide 1, .decide 0] ++
    [.task .recv, .task .go, .task (.clock 1700000000), .task .go, .task .go,
      .task (.packed sampleIv), .task (.wrote 56), .task .writeDone, .task .go,
      .reader (.packet 0 ⟨ResponseMatching.queryResponse.tail, .silent⟩),
      .task .reply].map CallEvent.world ++
    [.receive 0]

def sampleCalls (S : Codec) : Site → CallEvent → Option Site :=
  callNext crates S .release (sampleBuilder .v33).device

def textOf : Option Caller → Option String
  | some (.resumed (.ok (some text))) => some text
  | _ => none

theorem resumed_of_textOf {c : Option Caller} {text : String} (h : textOf c = some text) :
    c = some (.resumed (.ok (some text))) := by
  unfold textOf at h
  split at h <;> cases h
  rfl

theorem first_of_two_calls_answered :
    ∃ site, run (sampleCalls (json [])) (start (sampleBuilder .v33)) callSteps = some site ∧
      queued site.world = [1] ∧ answered site.world = [0] ∧
      Justified site.world 0 (.ok (some "\x7b\"t\":1\x7d")) := by
  obtain ⟨site, hrun, hobserved⟩ : ∃ site,
      run (sampleCalls (json [])) (start (sampleBuilder .v33)) callSteps = some site ∧
      (textOf site.callers[0]?, queued site.world, answered site.world)
        = (some "\x7b\"t\":1\x7d", [1], [0]) :=
    Option.map_eq_some_iff.mp (by decide +kernel)
  simp only [Prod.mk.injEq] at hobserved
  obtain ⟨htext, hqueued, hanswered⟩ := hobserved
  obtain ⟨-, -, hjustified, -⟩ := calls_get_own_answers crates (json []) .release
    (sampleBuilder .v33) (execution_of_run (fun _ _ => trivial) hrun)
  exact ⟨site, hrun, hqueued, hanswered, hjustified 0 _ (resumed_of_textOf htext)⟩

end Sample

end Calls

section Texts

variable {C : Crates} {S : Codec} {build : Build} {device : Device} {w w' : World} {e : Event}

/-- JSON texts are UTF-8. -/
def ReadsText (S : Codec) : Prop :=
  ∀ text v, S.fromSlice text = some v → (payloadAsString text).isSome = true

/-- What an open request can still read has been published before. -/
theorem step_subscription {d d' : Desk} {deed : Deed} (h : DeskStep S d deed d')
    {unread : List TuyaMessage} (hunread : d'.subscription = some unread) {m : TuyaMessage}
    (hm : m ∈ unread) : (∃ l, d.subscription = some l ∧ m ∈ l) ∨ m ∈ news d d' := by
  have hpublish : ∀ msgs, d.subscription.map (· ++ msgs) = some unread →
      (∃ l, d.subscription = some l ∧ m ∈ l) ∨ m ∈ msgs := by
    intro msgs hmap
    obtain ⟨l, hl, rfl⟩ := Option.map_eq_some_iff.mp hmap
    exact (List.mem_append.mp hm).imp (fun hin => ⟨l, hl, hin⟩) id
  cases h with
  | announce msgs | hear msgs | lose _ msgs | closeDown msgs =>
    rw [news_append rfl]
    exact hpublish msgs hunread
  | reject _ _ msg | giveUp _ msg | connected _ msg =>
    rw [news_append rfl]
    exact hpublish [msg] hunread
  | failCarried req err msg last =>
    rw [news_append (List.append_assoc _ [msg] [last])]
    refine hpublish ([msg] ++ [last]) (Eq.trans ?_ hunread)
    change _ = (d.subscription.map (· ++ [msg])).map (· ++ [last])
    rw [Option.map_map]
    congr 1
    funext l
    exact (List.append_assoc _ _ _).symm
  | subscribe req hphase =>
    replace hunread : (if !d.nowait && !unansweredCmds.contains req.command.code then some []
      else none) = some unread := hunread
    split at hunread <;> cases hunread
    cases hm
  | pass req effectiveCmd msg rest hphase hnext =>
    cases hunread
    exact .inl ⟨_, hnext, List.mem_cons_of_mem _ hm⟩
  | reply | unanswered | sent | sendFailed => cases hunread
  | _ => exact .inl ⟨unread, hunread, hm⟩

/-- Whatever the callers have been or can be handed is readable. -/
structure Legible (S : Codec) (w : World) : Prop where
  unread : ∀ l, w.subscription = some l → ∀ m ∈ l, Readable S m
  handed : ∀ i m, (i, .ok (some m)) ∈ w.replies → Readable S m

theorem next_legible (hS : S.Accepts) (h : next C S build device w e = some w')
    (hw : Legible S w) : Legible S w' := by
  have hstep := next_step h
  have hnews : ∀ m ∈ news (desk w) (desk w'), Readable S m := by
    intro m hm
    rcases next_publishes h m hm with hin | hann
    · exact (incoming_readable hin).elim id (Announcement.readable hS)
    · exact hann.readable hS
  refine ⟨fun l hl m hm => ?_, fun i m hreply => ?_⟩
  · rcases step_subscription hstep hl hm with ⟨l', hl', hm'⟩ | hm'
    · exact hw.unread l' hl' m hm'
    · exact hnews m hm'
  · obtain ⟨more, hmore⟩ := step_replies hstep
    have hall : (i, Except.ok (some m)) ∈ w.replies ++ more := by
      rw [show w.replies ++ more = w'.replies from hmore]
      exact hreply
    rcases List.mem_append.mp hall with hold | hnew
    · exact hw.handed i m hold
    · rw [← outcomes_append hmore.symm] at hnew
      obtain ⟨req, effectiveCmd, rest, -, -, hl, -⟩ := step_answered hstep hnew
      exact hw.unread _ hl m List.mem_cons_self

theorem run_legible (hS : S.Accepts) (b : DeviceBuilder) {es : List Event}
    (h : Execution (next C S build b.device) (fun _ _ => True) b.run es w) : Legible S w := by
  refine h.invariant (P := Legible S) (fun _ _ _ _ hnext hw => next_legible hS hnext hw) ⟨?_, ?_⟩
  · intro l hl
    cases hl
  · intro i m hreply
    cases hreply

theorem utf8_of_payloadAsString {payload : Bytes} {s : String}
    (h : payloadAsString payload = some s) : utf8 s = payload := by
  unfold payloadAsString String.fromUTF8? at h
  split at h
  · cases h
    rfl
  · cases h

theorem utf8_responseText (hT : ReadsText S) {msg : TuyaMessage} (h : Readable S msg) :
    utf8 (responseText msg) = msg.payload := by
  have hsome : ∃ s, payloadAsString msg.payload = some s := by
    rcases h with hnil | hparsed
    · rw [hnil]
      exact ⟨"", by decide +kernel⟩
    · obtain ⟨v, hv⟩ := Option.isSome_iff_exists.mp hparsed
      exact Option.isSome_iff_exists.mp (hT _ v hv)
  obtain ⟨s, hs⟩ := hsome
  rw [responseText, hs]
  exact utf8_of_payloadAsString hs

/-- In every run, what a caller is given as a text is, byte for byte, the payload of a message
that was handed to its own request; and this payload is empty or JSON. So nobody ever sees a
payload in hexadecimal. -/
theorem returned_text_is_payload (C : Crates) (S : Codec) (build : Build) (b : DeviceBuilder)
    (hS : S.Accepts) (hT : ReadsText S) {site : Site} {es : List CallEvent}
    (hrun : Execution (callNext C S build b.device) (fun _ _ => True) (start b) es site)
    {i : Nat} {text : String} (hcaller : site.callers[i]? = some (.resumed (.ok (some text)))) :
    ∃ msg, (i, .ok (some msg)) ∈ site.world.replies ∧ utf8 text = msg.payload ∧
      (msg.payload = [] ∨ (S.fromSlice msg.payload).isSome = true) := by
  obtain ⟨fs, hworld⟩ := run_world hrun
  have hlegible := run_legible hS b hworld
  rcases (run_kept b hrun).justified i _ hcaller with ⟨answer, hreply, hresult⟩ | ⟨hfalse, -⟩
  · cases answer with
    | error err => cases hresult
    | ok found =>
      cases found with
      | none => cases hresult
      | some msg =>
        have hreadable := hlegible.handed i msg hreply
        refine ⟨msg, hreply, ?_, hreadable⟩
        cases hresult
        exact utf8_responseText hT hreadable
  · cases hfalse

end Texts

section TextSample

open KnownAnswers

def IsText (bytes : Bytes) : Prop := ∃ cs : List Char, bytes = cs.flatMap String.utf8EncodeChar

theorem IsText.append {xs ys : Bytes} (hx : IsText xs) (hy : IsText ys) : IsText (xs ++ ys) := by
  obtain ⟨cs, rfl⟩ := hx
  obtain ⟨ds, rfl⟩ := hy
  exact ⟨cs ++ ds, List.flatMap_append.symm⟩

theorem isText_char (c : Char) : IsText (String.utf8EncodeChar c) :=
  ⟨[c], (List.flatMap_singleton ..).symm⟩

theorem IsText.cons {b : UInt8} {xs : Bytes} (c : Char) (hc : String.utf8EncodeChar c = [b])
    (hx : IsText xs) : IsText (b :: xs) := by
  have hchar := isText_char c
  rw [hc] at hchar
  exact hchar.append hx

theorem isText_utf8 (s : String) : IsText (utf8 s) := by
  refine ⟨s.toList, ?_⟩
  rw [utf8, String.toUTF8_eq_toByteArray, ← String.utf8Encode_toList, List.utf8Encode,
    List.data_toByteArray, List.toList_toArray]

theorem isText_flatMap {α : Type} {f : α → Bytes} (hf : ∀ a, IsText (f a)) :
    ∀ l : List α, IsText (l.flatMap f)
  | [] => ⟨[], rfl⟩
  | a :: l => (hf a).append (isText_flatMap hf l)

theorem isText_escapeChar (c : Char) : IsText (escapeChar c) := by
  unfold escapeChar
  split_ifs
  case pos | pos | pos | pos | pos | pos | pos => exact isText_utf8 _
  · exact ((isText_utf8 _).append (isText_char _)).append (isText_char _)
  · exact isText_char c

theorem isText_renderString (s : String) : IsText (renderString s) :=
  .cons '"' (by decide) ((isText_flatMap isText_escapeChar _).append (isText_utf8 "\""))

theorem utf8EncodeChar_digit {c : Char} (h : c.isDigit = true) :
    String.utf8EncodeChar c = [UInt8.ofNat c.toNat] := by
  have hrange : c.toNat ≤ 57 := by
    have hboth : 48 ≤ c.toNat ∧ c.toNat ≤ 57 := by
      simpa [Char.isDigit, UInt32.le_iff_toNat_le] using h
    exact hboth.2
  unfold String.utf8EncodeChar
  dsimp only
  rw [if_pos]
  · rfl
  · exact Nat.le_trans hrange (by decide)

theorem isText_renderNat (n : Nat) : IsText (renderNat n) := by
  refine ⟨Nat.toDigits 10 n, ?_⟩
  rw [renderNat, List.map_eq_flatMap]
  refine List.flatMap_congr fun c hc => ?_
  exact (utf8EncodeChar_digit (Nat.isDigit_of_mem_toDigits (by decide) (by decide) hc)).symm

theorem isText_renderNumber (n : Number) : IsText (renderNumber n) := by
  cases n with
  | posInt n => exact isText_renderNat _
  | negInt n => exact .cons '-' (by decide) (isText_renderNat _)
  | float bits => exact isText_utf8 _

mutual

theorem isText_render (v : Value) : IsText (render v) := by
  cases v with
  | null => exact isText_utf8 _
  | bool b => cases b <;> exact isText_utf8 _
  | number n => rw [render]; exact isText_renderNumber n
  | string s => rw [render]; exact isText_renderString s
  | array items =>
    rw [render]
    exact .cons '[' (by decide) ((isText_renderItems items).append (isText_utf8 "]"))
  | object fields =>
    rw [render]
    exact .cons '\x7b' (by decide) ((isText_renderFields fields).append (isText_utf8 "\x7d"))

theorem isText_renderItems (items : List Value) : IsText (renderItems items) := by
  cases items with
  | nil => exact ⟨[], rfl⟩
  | cons v rest =>
    cases rest with
    | nil => rw [renderItems]; exact isText_render v
    | cons u rest =>
      rw [renderItems]
      · exact (isText_render v).append (.cons ',' (by decide) (isText_renderItems (u :: rest)))
      · exact List.cons_ne_nil _ _

theorem isText_renderFields (fields : List (String × Value)) : IsText (renderFields fields) := by
  match fields with
  | [] => exact ⟨[], rfl⟩
  | [(k, v)] =>
    rw [renderFields]
    exact (isText_renderString k).append (.cons ':' (by decide) (isText_render v))
  | (k, v) :: kv :: rest =>
    rw [renderFields]
    · exact ((isText_renderString k).append (.cons ':' (by decide) (isText_render v))).append
        (.cons ',' (by decide) (isText_renderFields (kv :: rest)))
    · exact List.cons_ne_nil _ _

end

def textJson : Codec where
  toVec := render
  fromSlice text := if (payloadAsString text).isSome then (json []).fromSlice text else none

theorem textJson_accepts : textJson.Accepts := by
  intro v hdepth
  have htext : (payloadAsString (render v)).isSome = true := by
    obtain ⟨cs, hcs⟩ := isText_render v
    have hvalid : (ByteArray.mk (render v).toArray).IsValidUTF8 := by
      refine ⟨cs, ByteArray.ext ?_⟩
      rw [hcs, List.utf8Encode, List.data_toByteArray]
    rw [payloadAsString, String.fromUTF8?, dif_pos hvalid]
    rfl
  have hread : textJson.fromSlice (render v) = (json []).fromSlice (render v) := if_pos htext
  change (textJson.fromSlice (render v)).isSome = true
  rw [hread]
  exact json_accepts [] v hdepth

theorem textJson_readsText : ReadsText textJson := by
  intro text v hv
  change (if _ then _ else _ : Option Value) = some v at hv
  split at hv
  next htext => exact htext
  · cases hv

theorem first_call_returns_payload :
    ∃ site msg, run (sampleCalls textJson) (start (sampleBuilder .v33)) callSteps = some site ∧
      textOf site.callers[0]? = some "\x7b\"t\":1\x7d" ∧
      (0, .ok (some msg)) ∈ site.world.replies ∧ msg.payload = utf8 "\x7b\"t\":1\x7d" := by
  obtain ⟨site, hrun, htext⟩ : ∃ site,
      run (sampleCalls textJson) (start (sampleBuilder .v33)) callSteps = some site ∧
      textOf site.callers[0]? = some "\x7b\"t\":1\x7d" :=
    Option.map_eq_some_iff.mp (by decide +kernel)
  obtain ⟨msg, hreply, hpayload, -⟩ := returned_text_is_payload crates textJson .release
    (sampleBuilder .v33) textJson_accepts textJson_readsText
    (execution_of_run (fun _ _ => trivial) hrun) (resumed_of_textOf htext)
  exact ⟨site, msg, hrun, htext, hreply, hpayload.symm⟩

end TextSample

end RequestCalls
