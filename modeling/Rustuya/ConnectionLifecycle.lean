import Rustuya.DeviceState

/-!
# The life of a connection

What the connection task is for, without its loops: connections are opened one after the
other, a key is agreed on before the first request, and frames are written one at a time.
A link is what of the whole system this depends on. The task is shown to refine it later;
the invariants are stated and proved here.
-/
namespace ConnectionLifecycle

open ByteCodec Protocol DeviceState

/-- A packed frame, the key it was packed under and how much of it has been written. -/
structure Frame where
  handshake : Bool
  cmd : UInt32
  seqno : UInt32
  key : Bytes
  bytes : Bytes
  written : Nat
  deriving DecidableEq

def Frame.Whole (f : Frame) : Prop := f.written = 0 ∨ f.written = f.bytes.length

def Frame.sent (f : Frame) : Bytes := f.bytes.take f.written

/-- The frames of a connection, the latest first, and the key negotiated on it. -/
structure Connection where
  frames : List Frame
  negotiated : Option Bytes
  deriving DecidableEq

def Connection.fresh : Connection := ⟨[], none⟩

def Connection.bytes (c : Connection) : Bytes := c.frames.reverse.flatMap Frame.sent

section Latest

def onLatest (f : Connection → Connection) : List Connection → List Connection
  | c :: rest => f c :: rest
  | [] => []

def framed (f : Frame) (c : Connection) : Connection := { c with frames := f :: c.frames }

def agreed (key : Bytes) (c : Connection) : Connection := { c with negotiated := some key }

def wrote (n : Nat) (c : Connection) : Connection :=
  match c.frames with
  | f :: fs => { c with frames := { f with written := f.written + n } :: fs }
  | [] => c

end Latest

inductive Stage where
  | idle | handshake | session | leaving | over
  deriving DecidableEq, Repr

def Stage.Live : Stage → Prop
  | .handshake | .session => True
  | .idle | .leaving | .over => False

structure Link where
  version : Version
  state : ConnectionState
  sessionKey : Option Bytes
  conns : List Connection
  stage : Stage
  writing : Bool

/-- Which of the steps a run may have to do without. -/
inductive Kind where
  | plain
  | torn
  | marked
  | reconfigured
  deriving DecidableEq, Repr

def dropped (s : ConnectionState) : ConnectionState :=
  if s ≠ .stopped then .disconnected else s

def Negotiates (version : Version) : Prop := version = .v34 ∨ version = .v35

/-- What a link works with: the key both sides know, which bytes are a frame under which
key, and which keys may be agreed on. -/
structure Terms where
  localKey : Bytes
  Packed : Bytes → Bytes → Prop
  Agreed : Bytes → Prop

inductive LinkStep (T : Terms) : Link → Kind → Link → Prop where
  | stay (l : Link) : LinkStep T l .plain l
  | detect (l : Link) (version : Version) (h : l.version = .auto) :
      LinkStep T l .plain { l with version }
  | configure (l : Link) (version : Version) :
      LinkStep T l .reconfigured { l with version }
  | disconnect (l : Link) : LinkStep T l .plain { l with state := dropped l.state }
  | stop (l : Link) : LinkStep T l .plain { l with state := .stopped }
  | connect (l : Link) (h : l.stage = .idle) :
      LinkStep T l .plain
        { l with conns := .fresh :: l.conns, stage := .handshake, writing := false }
  | frame (l : Link) (c : Connection) (rest : List Connection) (f : Frame)
      (hstage : f.handshake = true ∧ l.stage = .handshake ∧ (f.cmd = 3 ∨ f.cmd = 5) ∨
        f.handshake = false ∧ l.stage = .session)
      (hwriting : l.writing = false) (hconns : l.conns = c :: rest)
      (hkey : f.key = l.sessionKey.getD T.localKey) (hpacked : T.Packed f.key f.bytes)
      (hnew : f.written = 0) :
      LinkStep T l .plain
        { l with conns := { c with frames := f :: c.frames } :: rest, writing := true }
  | write (l : Link) (c : Connection) (rest : List Connection) (f : Frame) (fs : List Frame)
      (n : Nat) (hwriting : l.writing = true) (hconns : l.conns = c :: rest)
      (hframes : c.frames = f :: fs) (hfits : f.written + n ≤ f.bytes.length) :
      LinkStep T l .plain
        { l with conns := { c with frames := { f with written := f.written + n } :: fs } :: rest }
  | written (l : Link) (hlast : ∀ c rest f fs, l.conns = c :: rest → c.frames = f :: fs → f.Whole) :
      LinkStep T l .plain { l with writing := false }
  | tear (l : Link) : LinkStep T l .torn { l with writing := false }
  | agree (l : Link) (c : Connection) (rest : List Connection) (key : Bytes)
      (hstage : l.stage = .handshake) (hwriting : l.writing = false)
      (hconns : l.conns = c :: rest) (hagreed : T.Agreed key) :
      LinkStep T l .plain
        { l with sessionKey := some key, conns := { c with negotiated := some key } :: rest,
                 stage := .session }
  | proceed (l : Link) (hstage : l.stage = .handshake) (hversion : ¬ Negotiates l.version) :
      LinkStep T l .plain { l with stage := .session }
  | mark (l : Link) (hstage : l.stage = .session) :
      LinkStep T l .marked { l with state := .connected }
  | abandon (l : Link) (hstage : l.stage = .handshake) :
      LinkStep T l .plain { l with stage := .idle, writing := false }
  | leave (l : Link) (hstage : l.stage = .session) :
      LinkStep T l .plain { l with stage := .leaving, writing := false }
  | shutdown (l : Link) (hstage : l.stage = .session) :
      LinkStep T l .plain
        { l with state := .stopped, stage := .leaving, writing := false }
  | clear (l : Link) (hstage : l.stage = .leaving) :
      LinkStep T l .plain
        { l with state := dropped l.state, sessionKey := none, stage := .idle }
  | quit (l : Link) : LinkStep T l .plain { l with stage := .over, writing := false }

theorem of_head {P : Connection → Prop} {d : Connection} {ds : List Connection} (h : P d) :
    ∀ c rest, d :: ds = c :: rest → P c := by
  intro c rest hc
  obtain ⟨rfl, -⟩ := List.cons.inj hc
  exact h

section Frames

variable {T : Terms} {l l' : Link} {kind : Kind}

/-- Only the latest frame of a connection may be incomplete, and only while it is being
written or when nothing is written any more. -/
structure Framed (T : Terms) (l : Link) : Prop where
  packed : ∀ c ∈ l.conns, ∀ f ∈ c.frames, T.Packed f.key f.bytes ∧ f.written ≤ f.bytes.length
  earlier : ∀ c ∈ l.conns, ∀ f ∈ c.frames.tail, f.Whole
  latest : l.stage.Live → l.writing = false →
    ∀ c rest, l.conns = c :: rest → ∀ f ∈ c.frames, f.Whole

theorem framed_cons {c d : Connection} {rest : List Connection} (hconns : l.conns = c :: rest)
    (hconns' : l'.conns = d :: rest) (h : Framed T l)
    (hpacked : ∀ f ∈ d.frames, T.Packed f.key f.bytes ∧ f.written ≤ f.bytes.length)
    (hearlier : ∀ f ∈ d.frames.tail, f.Whole)
    (hlatest : l'.stage.Live → l'.writing = false → ∀ f ∈ d.frames, f.Whole) :
    Framed T l' := by
  have hold : ∀ e ∈ rest, e ∈ l.conns := fun e he => hconns ▸ List.mem_cons_of_mem c he
  refine ⟨fun e he => ?_, fun e he => ?_, fun hlive hw e es hes => ?_⟩
  · rw [hconns'] at he
    rcases List.mem_cons.mp he with rfl | he
    · exact hpacked
    · exact h.packed e (hold e he)
  · rw [hconns'] at he
    rcases List.mem_cons.mp he with rfl | he
    · exact hearlier
    · exact h.earlier e (hold e he)
  · rw [hconns'] at hes
    exact of_head (P := fun e => ∀ f ∈ e.frames, f.Whole) (hlatest hlive hw) e es hes

theorem Framed.head (h : Framed T l) {c : Connection} {rest : List Connection}
    (hconns : l.conns = c :: rest) :
    (∀ f ∈ c.frames, T.Packed f.key f.bytes ∧ f.written ≤ f.bytes.length) ∧
      ∀ f ∈ c.frames.tail, f.Whole := by
  have hc : c ∈ l.conns := hconns ▸ List.mem_cons_self
  exact ⟨h.packed c hc, h.earlier c hc⟩

def FrameSequence (IsFrame : Bytes → Prop) (bytes : Bytes) : Prop :=
  ∃ (pieces : List Bytes) (tail : Bytes), (∀ x ∈ pieces, IsFrame x) ∧
    (tail = [] ∨ ∃ x, IsFrame x ∧ tail <+: x) ∧ bytes = pieces.flatten ++ tail

theorem Frame.Whole.sent_eq {f : Frame} (h : f.Whole) : f.sent = [] ∨ f.sent = f.bytes := by
  rcases h with h | h
  · exact .inl (by rw [Frame.sent, h, List.take_zero])
  · exact .inr (by rw [Frame.sent, h, List.take_length])

theorem whole_frames (IsFrame : Bytes → Prop) (fs : List Frame)
    (hframe : ∀ f ∈ fs, IsFrame f.bytes) (hwhole : ∀ f ∈ fs, f.Whole) :
    ∃ pieces : List Bytes, (∀ x ∈ pieces, IsFrame x) ∧ fs.flatMap Frame.sent = pieces.flatten := by
  induction fs with
  | nil => exact ⟨[], nofun, rfl⟩
  | cons f fs ih =>
    obtain ⟨pieces, hpieces, heq⟩ := ih (fun g hg => hframe g (List.mem_cons_of_mem f hg))
      (fun g hg => hwhole g (List.mem_cons_of_mem f hg))
    rcases (hwhole f List.mem_cons_self).sent_eq with hsent | hsent
    · exact ⟨pieces, hpieces, by rw [List.flatMap_cons, hsent, List.nil_append, heq]⟩
    · refine ⟨f.bytes :: pieces, ?_, by rw [List.flatMap_cons, hsent, heq, List.flatten_cons]⟩
      intro x hx
      rcases List.mem_cons.mp hx with rfl | hx
      · exact hframe f List.mem_cons_self
      · exact hpieces x hx

theorem Framed.frameSequence (h : Framed T l) {c : Connection} (hc : c ∈ l.conns) :
    FrameSequence (fun x => ∃ key, T.Packed key x) c.bytes := by
  have hpacked : ∀ f ∈ c.frames, ∃ key, T.Packed key f.bytes :=
    fun f hf => ⟨f.key, (h.packed c hc f hf).1⟩
  have hearlier := h.earlier c hc
  unfold Connection.bytes
  cases hframes : c.frames with
  | nil => exact ⟨[], [], nofun, .inl rfl, rfl⟩
  | cons f fs =>
    rw [hframes] at hpacked hearlier
    obtain ⟨pieces, hpieces, heq⟩ := whole_frames (fun x => ∃ key, T.Packed key x) fs.reverse
      (fun g hg => hpacked g (List.mem_cons_of_mem f (List.mem_reverse.mp hg)))
      (fun g hg => hearlier g (List.mem_reverse.mp hg))
    refine ⟨pieces, f.sent, hpieces,
      .inr ⟨f.bytes, hpacked f List.mem_cons_self, List.take_prefix _ _⟩, ?_⟩
    rw [List.reverse_cons, List.flatMap_append, heq, List.flatMap_singleton]

theorem step_preserves_framed (h : LinkStep T l kind l') (hkind : kind ≠ .torn)
    (hl : Framed T l) : Framed T l' := by
  cases h with
  | stay | detect | configure | disconnect | stop | mark => exact ⟨hl.packed, hl.earlier, hl.latest⟩
  | tear => exact absurd rfl hkind
  | connect hstage =>
    refine ⟨?_, ?_, ?_⟩
    · intro c hc f hf
      rcases List.mem_cons.mp hc with rfl | hc
      · cases hf
      · exact hl.packed c hc f hf
    · intro c hc f hf
      rcases List.mem_cons.mp hc with rfl | hc
      · cases hf
      · exact hl.earlier c hc f hf
    · exact fun _ _ => of_head nofun
  | frame c rest f hstage hwriting hconns hkey hpacked hnew =>
    have hlive : l.stage.Live := by
      rcases hstage with ⟨-, hs, -⟩ | ⟨-, hs⟩ <;> rw [hs] <;> trivial
    refine framed_cons hconns rfl hl ?_ (hl.latest hlive hwriting c rest hconns)
      (fun _ hw => by cases hw)
    intro g hg
    rcases List.mem_cons.mp hg with rfl | hg
    · exact ⟨hpacked, by omega⟩
    · exact (hl.head hconns).1 g hg
  | write c rest f fs n hwriting hconns hframes hfits =>
    have hhead := hl.head hconns
    rw [hframes] at hhead
    refine framed_cons hconns rfl hl ?_ hhead.2 (fun _ hw => by rw [hwriting] at hw; cases hw)
    intro g hg
    rcases List.mem_cons.mp hg with rfl | hg
    · exact ⟨(hhead.1 f List.mem_cons_self).1, hfits⟩
    · exact hhead.1 g (List.mem_cons_of_mem f hg)
  | written hlast =>
    refine ⟨hl.packed, hl.earlier, fun _ _ c rest hconns f hf => ?_⟩
    have hhead := (hl.head hconns).2
    cases hframes : c.frames with
    | nil => rw [hframes] at hf; cases hf
    | cons g gs =>
      rw [hframes] at hf hhead
      rcases List.mem_cons.mp hf with rfl | hf
      · exact hlast c rest f gs hconns hframes
      · exact hhead f hf
  | agree c rest key hstage hwriting hconns hagreed =>
    have hlive : l.stage.Live := by rw [hstage]; trivial
    exact framed_cons hconns rfl hl (hl.head hconns).1 (hl.head hconns).2
      (fun _ hw => hl.latest hlive hw c rest hconns)
  | proceed hstage hversion =>
    have hlive : l.stage.Live := by rw [hstage]; trivial
    exact ⟨hl.packed, hl.earlier, fun _ => hl.latest hlive⟩
  | abandon | leave | shutdown | clear | quit => exact ⟨hl.packed, hl.earlier, nofun⟩

end Frames

section Keys

variable {T : Terms} {l l' : Link} {kind : Kind}

/-- The frames of the negotiation are under the local key, all others under the key
negotiated on their connection. -/
structure KeyedFrame (T : Terms) (negotiated : Option Bytes) (f : Frame) : Prop where
  packed : T.Packed f.key f.bytes
  key : f.handshake = true ∧ (f.cmd = 3 ∨ f.cmd = 5) ∧ f.key = T.localKey ∨
    f.handshake = false ∧ negotiated = some f.key

structure Keyed (T : Terms) (l : Link) : Prop where
  negotiates : Negotiates l.version
  no_key_idle : l.stage = .idle → l.sessionKey = none
  no_key_handshake : l.stage = .handshake → l.sessionKey = none ∧
    ∀ c rest, l.conns = c :: rest → c.negotiated = none
  key_session : l.stage = .session → l.sessionKey.isSome = true ∧
    ∀ c rest, l.conns = c :: rest → c.negotiated = l.sessionKey
  key_agreed : ∀ key, l.sessionKey = some key → T.Agreed key
  key_connected : l.state = .connected → l.sessionKey.isSome = true
  frames : ∀ c ∈ l.conns, ∀ f ∈ c.frames, KeyedFrame T c.negotiated f

theorem dropped_ne_connected (s : ConnectionState) : dropped s ≠ .connected := by
  cases s <;> decide

theorem keyedFrames_cons {c d : Connection} {rest : List Connection}
    (hconns : l.conns = c :: rest) (h : Keyed T l)
    (hd : ∀ f ∈ d.frames, KeyedFrame T d.negotiated f) :
    ∀ e ∈ d :: rest, ∀ f ∈ e.frames, KeyedFrame T e.negotiated f := by
  intro e he
  rcases List.mem_cons.mp he with rfl | he
  · exact hd
  · exact h.frames e (hconns ▸ List.mem_cons_of_mem c he)

theorem Keyed.head (h : Keyed T l) {c : Connection} {rest : List Connection}
    (hconns : l.conns = c :: rest) : ∀ f ∈ c.frames, KeyedFrame T c.negotiated f :=
  h.frames c (hconns ▸ List.mem_cons_self)

theorem Keyed.replace (hl : Keyed T l) {c d : Connection} {rest : List Connection}
    (hconns : l.conns = c :: rest) (hsame : d.negotiated = c.negotiated)
    (hd : ∀ f ∈ d.frames, KeyedFrame T d.negotiated f) (writing : Bool) :
    Keyed T { l with conns := d :: rest, writing } :=
  { hl with
    no_key_handshake := fun hs =>
      ⟨(hl.no_key_handshake hs).1, of_head (hsame.trans ((hl.no_key_handshake hs).2 c rest hconns))⟩
    key_session := fun hs =>
      ⟨(hl.key_session hs).1, of_head (hsame.trans ((hl.key_session hs).2 c rest hconns))⟩
    frames := keyedFrames_cons hconns hl hd }

theorem step_preserves_keyed (h : LinkStep T l kind l')
    (hkind : kind ≠ .reconfigured) (hl : Keyed T l) : Keyed T l' := by
  cases h with
  | stay => exact hl
  | written | tear => exact { hl with }
  | configure => exact absurd rfl hkind
  | detect version hauto =>
    rcases hl.negotiates with hv | hv <;> rw [hauto] at hv <;> cases hv
  | disconnect => exact { hl with key_connected := fun h => absurd h (dropped_ne_connected _) }
  | stop => exact { hl with key_connected := nofun }
  | mark hstage => exact { hl with key_connected := fun _ => (hl.key_session hstage).1 }
  | proceed hstage hversion => exact absurd hl.negotiates hversion
  | connect hstage =>
    have hkey := hl.no_key_idle hstage
    refine { hl with
      no_key_idle := nofun, key_session := nofun
      no_key_handshake := fun _ => ⟨hkey, of_head rfl⟩, frames := ?_ }
    intro c hc f hf
    rcases List.mem_cons.mp hc with rfl | hc
    · cases hf
    · exact hl.frames c hc f hf
  | frame c rest f hstage hwriting hconns hkey hpacked hnew =>
    refine hl.replace (d := { c with frames := f :: c.frames }) hconns rfl ?_ true
    intro g hg
    rcases List.mem_cons.mp hg with rfl | hg
    · rcases hstage with ⟨hh, hs, hcmd⟩ | ⟨hh, hs⟩
      · rw [(hl.no_key_handshake hs).1] at hkey
        exact ⟨hpacked, .inl ⟨hh, hcmd, hkey⟩⟩
      · obtain ⟨key, hsome⟩ := Option.isSome_iff_exists.mp (hl.key_session hs).1
        refine ⟨hpacked, .inr ⟨hh, ?_⟩⟩
        rw [hsome] at hkey
        exact ((hl.key_session hs).2 c rest hconns).trans (hkey ▸ hsome)
    · exact hl.head hconns g hg
  | write c rest f fs n hwriting hconns hframes hfits =>
    have hhead := hl.head hconns
    rw [hframes] at hhead
    refine hl.replace (d := { c with frames := { f with written := f.written + n } :: fs })
      hconns rfl ?_ l.writing
    intro g hg
    rcases List.mem_cons.mp hg with rfl | hg
    · exact ⟨(hhead f List.mem_cons_self).packed, (hhead f List.mem_cons_self).key⟩
    · exact hhead g (List.mem_cons_of_mem f hg)
  | agree c rest key hstage hwriting hconns hagreed =>
    refine { hl with
      no_key_idle := nofun, no_key_handshake := nofun
      key_session := fun _ => ⟨rfl, of_head rfl⟩
      key_agreed := fun k hk => by cases hk; exact hagreed
      key_connected := fun _ => rfl
      frames := keyedFrames_cons hconns hl ?_ }
    -- Before the key was agreed on, no frame can have been under a negotiated key.
    intro f hf
    have hold := hl.head hconns f hf
    refine ⟨hold.packed, ?_⟩
    rcases hold.key with hlocal | ⟨-, hneg⟩
    · exact .inl hlocal
    · rw [(hl.no_key_handshake hstage).2 c rest hconns] at hneg
      cases hneg
  | abandon hstage =>
    exact { hl with
      no_key_idle := fun _ => (hl.no_key_handshake hstage).1
      no_key_handshake := nofun, key_session := nofun }
  | leave | quit =>
    exact { hl with no_key_idle := nofun, no_key_handshake := nofun, key_session := nofun }
  | shutdown =>
    exact { hl with
      no_key_idle := nofun, no_key_handshake := nofun, key_session := nofun
      key_connected := nofun }
  | clear hstage =>
    exact { hl with
      no_key_idle := fun _ => rfl, no_key_handshake := nofun, key_session := nofun
      key_agreed := nofun
      key_connected := fun h => absurd h (dropped_ne_connected _) }

end Keys

section Connected

variable {T : Terms} {l l' : Link} {kind : Kind}

def Connected (l : Link) : Prop := l.stage.Live → l.conns ≠ []

theorem step_preserves_connected (h : LinkStep T l kind l') (hl : Connected l) :
    Connected l' := by
  cases h with
  | connect | frame | write | agree => exact fun _ => List.cons_ne_nil _ _
  | proceed hstage hversion => exact fun _ => hl (hstage ▸ trivial)
  | abandon | leave | shutdown | clear | quit => exact nofun
  | _ => exact hl

end Connected

section Stopping

variable {T : Terms} {l l' : Link} {kind : Kind}

theorem step_stopped_iff (h : LinkStep T l kind l') (hl : l.state = .stopped) :
    l'.state = .stopped ↔ kind ≠ .marked := by
  have hdrop : dropped l.state = .stopped := by rw [hl]; rfl
  cases h with
  | mark => exact ⟨nofun, fun hne => absurd rfl hne⟩
  | stop | shutdown => exact ⟨nofun, fun _ => rfl⟩
  | disconnect | clear => exact ⟨nofun, fun _ => hdrop⟩
  | _ => exact ⟨nofun, fun _ => hl⟩

end Stopping

end ConnectionLifecycle
