import ReverseSocks.Mux.Session
import ReverseSocks.Channel.Trace

/-! # The channel registry

    `MuxSession::m_channels` under the frames `DispatchFrame` handles and the completions of
    the channels' targets. `registryStep_cases` says once what one event can do; `RegInv`
    carries the lifecycle invariant and a `Channel.Trace` history of every registered channel.

    Membership is a function of the control frames alone (`registryRun_isSome`): a closed
    channel stays registered until the peer's `CHANNEL_CLOSE_ACK` removes it.
-/

namespace ReverseSocks

/-- What reaches the registry of a running session: a frame `DispatchFrame` handles, or a
    completion of a channel target's I/O. -/
inductive RegistryEvent
  | frame (f : Frame) (os : OsAnswers)
  | target (id : UInt16) (e : TargetEvent)

namespace RegistryEvent

/-- The registry's own frames among the events for channel `id`: `CHANNEL_OPEN`,
    `CHANNEL_CLOSE` and `CHANNEL_CLOSE_ACK`. -/
def control (id : UInt16) : RegistryEvent → Option FrameType
  | .frame f _ =>
    if f.header.channel_id = id then
      match FrameType.ofUInt8 f.header.type with
      | some .channelOpen => some .channelOpen
      | some .channelClose => some .channelClose
      | some .channelCloseAck => some .channelCloseAck
      | _ => none
    else none
  | .target _ _ => none

end RegistryEvent

/-- A target completion as the channel event it is. -/
def TargetEvent.toChannelEvent : TargetEvent → ChannelEvent
  | .connectComplete ec post => .connectComplete ec post
  | .recvComplete bytes ec post => .recvComplete bytes ec post
  | .sendComplete ec wsa => .sendComplete ec wsa

namespace MuxSession

/-! ## One event and a run -/

/-- One registry event. -/
def registryStep (s : MuxSession) : RegistryEvent → MuxSession × List SessionOutput
  | .frame f os => s.dispatchFrame os f
  | .target id e => s.onTargetEvent id e

/-- Registry events in order; the session afterwards and all the outputs. -/
def registryRun (s : MuxSession) : List RegistryEvent → MuxSession × List SessionOutput
  | [] => (s, [])
  | e :: es => (((s.registryStep e).1.registryRun es).1,
      (s.registryStep e).2 ++ ((s.registryStep e).1.registryRun es).2)

/-- `onTargetEvent` is the channel's step on the event, for any network answer. -/
theorem onTargetEvent_eq (s : MuxSession) (id : UInt16) (e : TargetEvent) (net : Network) :
    s.onTargetEvent id e = match s.channels id with
      | none => (s, [])
      | some ch => s.withChannel id (ch.step net e.toChannelEvent) := by
  unfold onTargetEvent; cases s.channels id <;> cases e <;> rfl

theorem removeChannel_of_none {s : MuxSession} {k : UInt16} (h : s.channels k = none) :
    s.removeChannel k = s := by
  unfold removeChannel; rw [← h, Function.update_eq_self]

/-- What one registry event can do: open a channel, close one (acknowledged whether or not it
    was there), remove one on `CHANNEL_CLOSE_ACK`, run a live event on a registered channel, or
    leave the registry alone. -/
theorem registryStep_cases (s : MuxSession) (e : RegistryEvent) :
    (∃ k, e.control k = some .channelOpen ∧ (∀ k', k' ≠ k → e.control k' = none) ∧
      s.registryStep e = s.withChannel k (Channel.new k s.channelWindowSize).onOpen) ∨
    (∃ k, e.control k = some .channelClose ∧ (∀ k', k' ≠ k → e.control k' = none) ∧
      (s.registryStep e).1 = s.removeChannel k ∧
      (s.registryStep e).2 = s.sendFrame (FrameCodec.buildChannelCloseAck
        ((s.channels k).elim k Channel.id))) ∨
    (∃ k, e.control k = some .channelCloseAck ∧ (∀ k', k' ≠ k → e.control k' = none) ∧
      s.registryStep e = (s.removeChannel k, [])) ∨
    ((∀ k', e.control k' = none) ∧ ∃ k ch net ev, s.channels k = some ch ∧
      s.registryStep e = s.withChannel k (ch.step net ev)) ∨
    ((∀ k', e.control k' = none) ∧ (s.registryStep e).1 = s ∧
      ((s.registryStep e).2 = [] ∨ (s.registryStep e).2 = s.sendFrame FrameCodec.buildPong)) := by
  cases e with
  | target id te =>
    rw [registryStep, onTargetEvent_eq s id te (fun _ _ => .success)]
    cases h : s.channels id with
    | none => exact .inr (.inr (.inr (.inr ⟨fun _ => rfl, rfl, .inl rfl⟩)))
    | some ch => exact .inr (.inr (.inr (.inl ⟨fun _ => rfl, id, ch, _, _, h, rfl⟩)))
  | frame f os =>
    have hk : ∀ k', k' ≠ f.header.channel_id → (RegistryEvent.frame f os).control k' = none :=
      fun k' hk => by simp [RegistryEvent.control, Ne.symm hk]
    have hnone : ∀ (x : Option FrameType), FrameType.ofUInt8 f.header.type = x →
        x ≠ some .channelOpen → x ≠ some .channelClose → x ≠ some .channelCloseAck →
        ∀ k', (RegistryEvent.frame f os).control k' = none := by
      intro x hx h1 h2 h3 k'
      simp only [RegistryEvent.control, hx]
      split <;> simp_all
    simp only [registryStep, dispatchFrame]
    rcases ht : FrameType.ofUInt8 f.header.type with _ | ft
    · exact .inr (.inr (.inr (.inr ⟨hnone _ ht (by simp) (by simp) (by simp), rfl, .inl rfl⟩)))
    cases ft <;> dsimp only
    case channelOpen =>
      exact .inl ⟨_, by simp [RegistryEvent.control, ht], hk, rfl⟩
    case channelRequest =>
      have hc := hnone _ ht (by simp) (by simp) (by simp)
      unfold handleChannelRequest
      cases h : s.channels f.header.channel_id with
      | none => exact .inr (.inr (.inr (.inr ⟨hc, rfl, .inl rfl⟩)))
      | some ch => exact .inr (.inr (.inr (.inl ⟨hc, _, ch, os.net, .request f.payload, h, rfl⟩)))
    case data =>
      have hc := hnone _ ht (by simp) (by simp) (by simp)
      unfold handleData
      cases h : s.channels f.header.channel_id with
      | none => exact .inr (.inr (.inr (.inr ⟨hc, rfl, .inl rfl⟩)))
      | some ch => exact .inr (.inr (.inr (.inl ⟨hc, _, ch, os.net, .data f.payload os.wsa, h, rfl⟩)))
    case channelClose =>
      refine .inr (.inl ⟨_, by simp [RegistryEvent.control, ht], hk, ?_⟩)
      unfold handleChannelClose
      cases h : s.channels f.header.channel_id with
      | none => exact ⟨(removeChannel_of_none h).symm, rfl⟩
      | some ch => exact ⟨rfl, by simp [emit, MuxCall.frame, Channel.onClose]⟩
    case channelCloseAck =>
      refine .inr (.inr (.inl ⟨_, by simp [RegistryEvent.control, ht], hk, ?_⟩))
      unfold handleChannelCloseAck
      cases h : s.channels f.header.channel_id with
      | none => rw [removeChannel_of_none h]
      | some ch => rfl
    case ping => exact .inr (.inr (.inr (.inr ⟨hnone _ ht (by simp) (by simp) (by simp), rfl, .inr rfl⟩)))
    case windowUpdate =>
      have hc := hnone _ ht (by simp) (by simp) (by simp)
      unfold handleWindowUpdate
      split
      · cases h : s.channels f.header.channel_id with
        | none => exact .inr (.inr (.inr (.inr ⟨hc, rfl, .inl rfl⟩)))
        | some ch => exact .inr (.inr (.inr (.inl ⟨hc, _, ch, os.net, .windowUpdate _, h, rfl⟩)))
      · exact .inr (.inr (.inr (.inr ⟨hc, rfl, .inl rfl⟩)))
    all_goals exact .inr (.inr (.inr (.inr ⟨hnone _ ht (by simp) (by simp) (by simp), rfl, .inl rfl⟩)))

/-! ## Frames on the wire -/

theorem encode_inj {t t' f f' : UInt8} {i i' : UInt16} {p p' : ByteBuffer}
    (h : FrameCodec.encode t f i p = FrameCodec.encode t' f' i' p') : t = t' ∧ i = i' := by
  simp only [FrameCodec.encode, FrameHeader.bytes, bytesU16, List.cons_append, List.nil_append,
    List.singleton_append, List.cons.injEq] at h
  refine ⟨h.1, ?_⟩
  rw [← u16le_bytesU16 i, ← u16le_bytesU16 i', h.2.2.1, h.2.2.2.1]

/-- Only `CHANNEL_CLOSE_ACK` for `k` has the bytes of `CHANNEL_CLOSE_ACK` for `k`. -/
theorem MuxCall.frame_eq_closeAck {c : MuxCall} {k : UInt16} :
    c.frame = FrameCodec.buildChannelCloseAck k ↔ c = .channelCloseAck k := by
  constructor
  · intro h
    cases c <;> have := encode_inj h <;> simp_all [FrameType.toUInt8]
  · rintro rfl; rfl

theorem buildPong_ne_closeAck (k : UInt16) : FrameCodec.buildPong ≠ FrameCodec.buildChannelCloseAck k :=
  fun h => by have := (encode_inj h).1; simp [FrameType.toUInt8] at this

/-- While running, the `CHANNEL_CLOSE_ACK` frames a list of channel calls puts on the wire. -/
theorem count_emit_closeAck {s : MuxSession} (hr : s.running = true) (cs : List Call) (k : UInt16) :
    (s.emit cs).count (.send (FrameCodec.buildChannelCloseAck k)) =
      (Channel.muxCalls cs).count (.channelCloseAck k) := by
  induction cs with
  | nil => rfl
  | cons c cs ih =>
    cases c with
    | mux c =>
      by_cases hc : c = .channelCloseAck k
      · subst hc; simp [emit, sendFrame, hr, ih, MuxCall.frame]
      · have : c.frame ≠ FrameCodec.buildChannelCloseAck k := fun h => hc (MuxCall.frame_eq_closeAck.mp h)
        simp [emit, sendFrame, hr, ih, List.count_cons, this, hc]
    | connect host port => simp [emit, ih]

/-! ## The registry invariant -/

/-- Every registered channel is stored under its own id, keeps the lifecycle invariant, and has
    sent a history its state allows. -/
def RegInv (s : MuxSession) : Prop :=
  ∀ k ch, s.channels k = some ch → Channel.Inv ch ∧ ∃ cs, Channel.Hist k ch cs

section registry

variable {s : MuxSession}

theorem RegInv.setChannel (h : RegInv s) {k : UInt16} {ch : Channel} (hi : Channel.Inv ch)
    {cs : List MuxCall} (hh : Channel.Hist k ch cs) : RegInv (s.setChannel k ch) := by
  intro k' ch' hk'
  by_cases e : k' = k
  · subst e; simp only [MuxSession.setChannel, Function.update_same, Option.some.injEq] at hk'
    subst hk'; exact ⟨hi, _, hh⟩
  · simp only [MuxSession.setChannel, Function.update_noteq e] at hk'; exact h k' ch' hk'

theorem RegInv.removeChannel (h : RegInv s) (k : UInt16) : RegInv (s.removeChannel k) := by
  intro k' ch' hk'
  by_cases e : k' = k
  · subst e; simp [MuxSession.removeChannel] at hk'
  · simp only [MuxSession.removeChannel, Function.update_noteq e] at hk'; exact h k' ch' hk'

theorem regInv_registryStep (h : RegInv s) (e : RegistryEvent) : RegInv (s.registryStep e).1 := by
  rcases registryStep_cases s e with ⟨k, -, -, he⟩ | ⟨k, -, -, he, -⟩ | ⟨k, -, -, he⟩ |
    ⟨-, k, ch, net, ev, hk, he⟩ | ⟨-, he, -⟩ <;> rw [he]
  · exact h.setChannel rfl (show Channel.Hist k _ [.channelOpenAck k] from ⟨rfl, rfl⟩)
  · exact h.removeChannel k
  · exact h.removeChannel k
  · obtain ⟨hi, cs, hh⟩ := h k ch hk
    exact h.setChannel (Channel.inv_step hi net ev) (Channel.hist_step hi hh net ev)
  · exact h

theorem registryStep_running (e : RegistryEvent) : (s.registryStep e).1.running = s.running := by
  rcases registryStep_cases s e with ⟨k, -, -, he⟩ | ⟨k, -, -, he, -⟩ | ⟨k, -, -, he⟩ |
    ⟨-, k, ch, net, ev, hk, he⟩ | ⟨-, he, -⟩ <;> rw [he] <;> rfl

/-- Membership after one event: a control frame for `k` decides it, anything else keeps it. -/
theorem registryStep_isSome (e : RegistryEvent) (k : UInt16) :
    ((s.registryStep e).1.channels k).isSome =
      match e.control k with
      | some t => t == .channelOpen
      | none => (s.channels k).isSome := by
  rcases registryStep_cases s e with ⟨k0, hc, ho, he⟩ | ⟨k0, hc, ho, he, -⟩ | ⟨k0, hc, ho, he⟩ |
    ⟨hc, k0, ch, net, ev, hk, he⟩ | ⟨hc, he, -⟩
  · rw [he]
    by_cases e' : k = k0
    · subst e'; simp [withChannel, setChannel, hc]
    · simp [withChannel, setChannel, Function.update_noteq e', ho k e']
  · rw [he]
    by_cases e' : k = k0
    · subst e'; simp [removeChannel, hc]
    · simp [removeChannel, Function.update_noteq e', ho k e']
  · rw [he]
    by_cases e' : k = k0
    · subst e'; simp [removeChannel, hc]
    · simp [removeChannel, Function.update_noteq e', ho k e']
  · rw [he, hc k]
    by_cases e' : k = k0
    · subst e'; simp [withChannel, setChannel, hk]
    · simp [withChannel, setChannel, Function.update_noteq e']
  · rw [he, hc k]

/-- A running session with the invariant: one event sends `CHANNEL_CLOSE_ACK` for `k` once if it
    is `CHANNEL_CLOSE` for `k`, and otherwise not at all. -/
theorem registryStep_closeAcks (h : RegInv s) (hr : s.running = true) (e : RegistryEvent)
    (k : UInt16) :
    (s.registryStep e).2.count (.send (FrameCodec.buildChannelCloseAck k)) =
      if e.control k = some .channelClose then 1 else 0 := by
  rcases registryStep_cases s e with ⟨k0, hc, ho, he⟩ | ⟨k0, hc, ho, he, ho'⟩ | ⟨k0, hc, ho, he⟩ |
    ⟨hc, k0, ch, net, ev, hk, he⟩ | ⟨hc, -, ho⟩
  · rw [he]
    have : (if e.control k = some .channelClose then 1 else 0) = 0 := by
      by_cases e' : k = k0
      · subst e'; simp [hc]
      · simp [ho k e']
    rw [this, withChannel, count_emit_closeAck hr]
    simp [Channel.onOpen, Channel.new]
  · rw [ho']
    have hid : (s.channels k0).elim k0 Channel.id = k0 := by
      cases hk : s.channels k0 with
      | none => rfl
      | some ch => exact (h k0 ch hk).2.choose_spec.1
    rw [hid]
    by_cases e' : k = k0
    · subst e'; simp [hc, sendFrame, hr]
    · have : FrameCodec.buildChannelCloseAck k0 ≠ FrameCodec.buildChannelCloseAck k :=
        fun h' => e' (encode_inj h').2.symm
      simp [ho k e', sendFrame, hr, List.count_cons, this]
  · rw [he]
    by_cases e' : k = k0
    · subst e'; simp [hc]
    · simp [ho k e']
  · rw [he, withChannel, count_emit_closeAck hr, hc]
    obtain ⟨hi, cs, hh⟩ := h k0 ch hk
    have := (Channel.hist_step hi hh net ev).closeAck_not_mem k
    simp only [List.mem_append, not_or] at this
    simp [List.count_eq_zero_of_not_mem this.2]
  · rw [hc]
    rcases ho with ho | ho <;> rw [ho]
    · rfl
    · simp [sendFrame, hr, List.count_cons, buildPong_ne_closeAck]

end registry

/-! ## Runs of the registry -/

theorem registryRun_inv {s : MuxSession} (h : RegInv s) (hr : s.running = true)
    (es : List RegistryEvent) :
    RegInv (s.registryRun es).1 ∧ (s.registryRun es).1.running = true := by
  induction es generalizing s with
  | nil => exact ⟨h, hr⟩
  | cons e es ih =>
    exact ih (regInv_registryStep h e) ((registryStep_running e).trans hr)

theorem registryRun_isSome (s : MuxSession) (es : List RegistryEvent) (k : UInt16) :
    ((s.registryRun es).1.channels k).isSome =
      match (es.filterMap (·.control k)).getLast? with
      | some t => t == .channelOpen
      | none => (s.channels k).isSome := by
  induction es generalizing s with
  | nil => rfl
  | cons e es ih =>
    rw [registryRun, ih, registryStep_isSome, List.filterMap_cons]
    cases e.control k with
    | none => rfl
    | some b =>
      rw [List.getLast?_cons]
      cases (es.filterMap (·.control k)).getLast? <;> rfl

/-- The registry over every sequence of dispatched frames and target completions: `k` is
    registered exactly when the last control frame for `k` is `CHANNEL_OPEN`; an event sends
    `CHANNEL_CLOSE_ACK` for `k` once exactly when it is `CHANNEL_CLOSE` for `k`; and no
    registered channel is `Opening`. -/
theorem registry_tracks_control_frames (W : UInt32) (es : List RegistryEvent) (k : UInt16) :
    ((((MuxSession.new W).start.registryRun es).1.channels k).isSome = true ↔
      (es.filterMap (·.control k)).getLast? = some .channelOpen) ∧
    (∀ pre e post, es = pre ++ e :: post →
      (((MuxSession.new W).start.registryRun pre).1.registryStep e).2.count
        (.send (FrameCodec.buildChannelCloseAck k)) =
          if e.control k = some .channelClose then 1 else 0) ∧
    (∀ ch, ((MuxSession.new W).start.registryRun es).1.channels k = some ch →
      ch.state ≠ .opening) := by
  have h0 : RegInv (MuxSession.new W).start := fun _ _ h => by simp [new, start] at h
  refine ⟨?_, fun pre e _ _ => ?_, fun ch hch hs => ?_⟩
  · rw [registryRun_isSome]
    cases (es.filterMap (·.control k)).getLast? <;> simp [new, start]
  · obtain ⟨hi, hr⟩ := registryRun_inv h0 rfl pre
    exact registryStep_closeAcks hi hr e k
  · have := ((registryRun_inv h0 rfl es).1 k ch hch).1
    simp [Channel.Inv, hs] at this

end MuxSession

end ReverseSocks
