import Rustuya.TaskBranches

/-!
# What is on the broadcast channel

The reader broadcasts a message if it has no payload or its payload is JSON, and an error
message in the place of any other. The task broadcasts error messages only.
-/
namespace ChannelContents

open CheckedExecution StatefulExecution ByteCodec Error Crypto Message Protocol Json
open SessionKey DeviceState StreamReader ConnectionTask TransitionSystem RequestRefinement
open RequestLifecycle (step_heard)
open TaskBranches (Branch disconnectCode taskNext_branch)

inductive Announcement (S : Codec) : TuyaMessage → Prop where
  | plain (s : State) (code : Nat) : Announcement S (errorHelper S s code none)
  | text (s : State) (code : Nat) (text : String) :
      Announcement S (errorHelper S s code (some (.string text)))
  | unparsed (s : State) (code : Nat) (msg : TuyaMessage) :
      Announcement S (errorHelper S s code (some (nonJsonPayload msg)))

/-- A message that a listener can read: without payload, or with a JSON payload. -/
def Readable (S : Codec) (msg : TuyaMessage) : Prop :=
  msg.payload = [] ∨ (S.fromSlice msg.payload).isSome = true

section Announcements

variable {S : Codec} {msg : TuyaMessage}

theorem Announcement.cmd (h : Announcement S msg) : msg.cmd = 0 := by
  cases h <;> rfl

theorem Announcement.payload (h : Announcement S msg) :
    ∃ v : Value, v.depth < 128 ∧ msg.payload = S.toVec v := by
  cases h with
  | plain s code => exact ⟨_, Nat.lt_of_le_of_lt (depth_errorResponse code none) (by decide), rfl⟩
  | text s code text =>
    refine ⟨_, Nat.lt_of_le_of_lt (depth_errorResponse code _) ?_, rfl⟩
    change 0 + 1 < 128
    decide
  | unparsed s code msg =>
    refine ⟨_, Nat.lt_of_le_of_lt (depth_errorResponse code _) ?_, rfl⟩
    change max 0 (max 0 0) + 1 + 1 < 128
    decide

theorem Announcement.readable (hS : S.Accepts) (h : Announcement S msg) : Readable S msg := by
  obtain ⟨v, hdepth, hpayload⟩ := h.payload
  refine .inr ?_
  rw [hpayload]
  exact hS v hdepth

end Announcements

section Reader

variable {C : Crates} {S : Codec} {build : Build} {device : Device}

theorem processSocketData_broadcast (firstByte : UInt8) (s : State) (stream : Stream) :
    ∀ m ∈ ((processSocketData C S build device firstByte).run ⟨s, stream, []⟩).2.broadcast,
      Readable S m ∨ Announcement S m := by
  intro m hm
  obtain ⟨msg, r, -, ⟨rfl, hreadable⟩ | ⟨-, rfl⟩⟩ := mem_processSocketData hm
  · exact .inl hreadable
  · exact .inr (.unparsed r.device errJson msg)

theorem incoming_readable {w : World} {e : Event} {m : TuyaMessage}
    (h : m ∈ incoming C S build device w e) : Readable S m ∨ Announcement S m := by
  unfold incoming at h
  split at h
  · exact processSocketData_broadcast _ _ _ m h
  · exact processSocketData_broadcast _ _ _ m h
  · cases h

end Reader

section Task

variable {C : Crates} {S : Codec} {build : Build} {device : Device} {w w' : World} {e : TaskEvent}

def Announces (S : Codec) (w w' : World) : Prop :=
  ∃ msgs, w'.broadcast = w.broadcast ++ msgs ∧ ∀ m ∈ msgs, Announcement S m

theorem announces_kept (h : w'.broadcast = w.broadcast) : Announces S w w' :=
  ⟨[], by rw [h, List.append_nil], List.forall_mem_nil _⟩

theorem Announces.trans {v : World} (h : Announces S w v) (h' : Announces S v w') :
    Announces S w w' := by
  obtain ⟨msgs, hmsgs, hall⟩ := h
  obtain ⟨more, hmore, hall'⟩ := h'
  refine ⟨msgs ++ more, by rw [hmore, hmsgs, List.append_assoc], ?_⟩
  intro m hm
  rcases List.mem_append.mp hm with hm | hm
  · exact hall m hm
  · exact hall' m hm

theorem broadcastError_announces (code : Nat) : Announces S w (w.broadcastError S code none) :=
  ⟨[_], rfl, fun _ hm => List.mem_singleton.mp hm ▸ .plain _ _⟩

theorem broadcastError_announces_text (code : Nat) (text : String) :
    Announces S w (w.broadcastError S code (some (.string text))) :=
  ⟨[_], rfl, fun _ hm => List.mem_singleton.mp hm ▸ .text _ _ _⟩

theorem branch_announces (h : Branch C S build device w e w') : Announces S w w' := by
  cases h
  case disconnectTold err _ _ => exact broadcastError_announces (disconnectCode err)
  case backoffRejects => exact broadcastError_announces (w := World.mk ..) errOffline
  case announcesScheduled | announcesOnDemand => exact broadcastError_announces errSuccess
  case failsScheduled err _ => exact broadcastError_announces_text err.code err.display
  case failsOnDemand req err _ =>
    refine (broadcastError_announces_text err.code err.display).trans ?_
    exact broadcastError_announces (w := World.answer _ req _) errOffline
  all_goals exact announces_kept rfl

end Task

section System

variable {C : Crates} {S : Codec} {build : Build} {device : Device} {w w' : World} {e : Event}

/-- Every message that a step broadcasts was read in the step, or is an error message. -/
theorem next_publishes (h : next C S build device w e = some w') :
    ∀ m ∈ newMessages w w', m ∈ incoming C S build device w e ∨ Announcement S m := by
  intro m hm
  have hkept : w'.broadcast = w.broadcast → m ∈ incoming C S build device w e ∨
      Announcement S m := by
    intro hsame
    rw [newMessages, hsame, List.drop_length] at hm
    cases hm
  cases e with
  | task e =>
    obtain ⟨msgs, hmsgs, hall⟩ := branch_announces (taskNext_branch h)
    rw [newMessages, hmsgs, List.drop_left] at hm
    exact .inr (hall m hm)
  | drop =>
    obtain ⟨-, -, rfl⟩ := dropTask_eq_some h
    exact hkept rfl
  | reader r =>
    have hreader : readerNext C S build device w r = some w' := h
    cases r with
    | packet firstByte stream | late firstByte stream =>
      rw [show newMessages w w' = _ from step_heard (next_step h)] at hm
      exact .inl hm
    | ended | cancelled | gone =>
      cases readerNext_inv hreader
      exact hkept rfl
  | user u => exact hkept (userNext_aside h).broadcast

end System

end ChannelContents
