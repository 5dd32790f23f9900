import ReverseSocks.Mux.Registry

/-! # End-to-end delivery through the mux

    A relaying channel is a byte pipe between the peer and the channel's target, in both
    directions, however the transport cuts the bytes (`relay_pipe`): the payloads of the peer's
    `DATA` frames reach the target's send queue in order, and the target's reads reach the peer
    in `DATA` frames, in order, as long as the peer's frames do not open or close the channel.

    Two facts carry the proof: a frame that does not control the channel does nothing to it,
    `OnData` or `OnWindowUpdate` (`dispatchFrame_relaying`); and no handler of an inbound frame
    sends `DATA` (`sendsControl_dispatchFrame`).
-/

namespace ReverseSocks

/-! ## The frames the session builds -/

/-- The frame `Encode` writes for its arguments. -/
def encodedFrame (type flags : UInt8) (channel_id : UInt16) (payload : ByteBuffer) : Frame :=
  ⟨⟨type, flags, channel_id, UInt32.ofNat payload.length⟩, payload⟩

@[simp] theorem encodedFrame_encode (type flags : UInt8) (channel_id : UInt16) (payload : ByteBuffer) :
    (encodedFrame type flags channel_id payload).encode =
      FrameCodec.encode type flags channel_id payload := rfl

theorem encodedFrame_valid (type flags : UInt8) (channel_id : UInt16) {payload : ByteBuffer}
    (h : payload.length ≤ FRAME_MAX_PAYLOAD) : (encodedFrame type flags channel_id payload).Valid := by
  refine ⟨?_, h⟩
  simp only [encodedFrame, uint32_toNat_ofNat]
  exact Nat.mod_eq_of_lt (by unfold FRAME_MAX_PAYLOAD at h; omega)

@[simp] theorem ofUInt8_toUInt8 (t : FrameType) : FrameType.ofUInt8 t.toUInt8 = some t := by
  cases t <;> rfl

/-- A frame whose type byte is not `DATA`'s is not read as `DATA`. -/
theorem ofUInt8_ne_data {b : UInt8} (h : b ≠ FrameType.data.toUInt8) :
    FrameType.ofUInt8 b ≠ some .data := by
  intro hb
  have := List.find?_some hb
  simp only [decide_eq_true_eq] at this
  exact h this.symm

/-- The frame a send call's builder encodes. -/
def MuxCall.toFrame : MuxCall → Frame
  | .channelOpenAck i => encodedFrame FrameType.channelOpenAck.toUInt8 0 i []
  | .channelRequestAck i d => encodedFrame FrameType.channelRequestAck.toUInt8 0 i d
  | .data i d => encodedFrame FrameType.data.toUInt8 0 i d
  | .channelClose i flags => encodedFrame FrameType.channelClose.toUInt8 flags i []
  | .channelCloseAck i => encodedFrame FrameType.channelCloseAck.toUInt8 0 i []
  | .windowUpdate i increment => encodedFrame FrameType.windowUpdate.toUInt8 0 i (bytesU32 increment)

theorem MuxCall.frame_eq (c : MuxCall) : c.frame = c.toFrame.encode := by
  cases c <;> rfl

/-- A frame the session may send besides `DATA`: valid, and of another type. -/
def Frame.IsControl (g : Frame) : Prop :=
  g.Valid ∧ g.header.type ≠ FrameType.data.toUInt8

/-- Calls a channel makes that are not `DATA` and whose payload fits in a frame. -/
def Channel.ControlCalls (cs : List Call) : Prop :=
  ∀ c ∈ Channel.muxCalls cs, c.toFrame.IsControl

/-! ## What the session sends -/

namespace MuxSession

/-- The bytes the session hands to the transport, one buffer per `SendFrame`. -/
def sent (outs : List SessionOutput) : List ByteBuffer :=
  outs.filterMap fun
    | .send b => some b
    | _ => none

@[simp] theorem sent_nil : sent [] = [] := rfl

@[simp] theorem sent_append (xs ys : List SessionOutput) : sent (xs ++ ys) = sent xs ++ sent ys :=
  List.filterMap_append ..

@[simp] theorem sent_cons_send (b : ByteBuffer) (outs : List SessionOutput) :
    sent (.send b :: outs) = b :: sent outs := rfl

@[simp] theorem sent_cons_connect (host : String) (port : UInt16) (outs : List SessionOutput) :
    sent (.connect host port :: outs) = sent outs := rfl

@[simp] theorem sent_cons_disconnected (ec : ErrorCode) (outs : List SessionOutput) :
    sent (.disconnected ec :: outs) = sent outs := rfl

/-- Outputs whose sends are the encodings of control frames. -/
def SendsControl (outs : List SessionOutput) : Prop :=
  ∃ gs : List Frame, sent outs = gs.map Frame.encode ∧ ∀ g ∈ gs, g.IsControl

theorem SendsControl.nil : SendsControl [] := ⟨[], rfl, by simp⟩

theorem SendsControl.append {xs ys : List SessionOutput} (hx : SendsControl xs)
    (hy : SendsControl ys) : SendsControl (xs ++ ys) := by
  obtain ⟨gs, hg, hgv⟩ := hx
  obtain ⟨hs, hh, hhv⟩ := hy
  refine ⟨gs ++ hs, by simp [hg, hh], fun g hg => ?_⟩
  rcases List.mem_append.1 hg with h | h
  exacts [hgv g h, hhv g h]

variable {s : MuxSession}

theorem sendsControl_sendFrame {g : Frame} (hg : g.IsControl) : SendsControl (s.sendFrame g.encode) := by
  unfold sendFrame
  split
  · exact ⟨[g], rfl, by simp [hg]⟩
  · exact .nil

theorem sendsControl_emit {cs : List Call} (h : Channel.ControlCalls cs) : SendsControl (s.emit cs) := by
  induction cs with
  | nil => exact .nil
  | cons c cs ih =>
    cases c with
    | mux c =>
      refine .append ?_ (ih fun c' hc => h c' (by simp [hc]))
      rw [MuxCall.frame_eq]
      exact sendsControl_sendFrame (h c (by simp))
    | connect host port =>
      obtain ⟨gs, hg, hgv⟩ := ih fun c' hc => h c' (by simpa using hc)
      exact ⟨gs, by simp [emit, hg], hgv⟩

end MuxSession

/-! ## No inbound handler sends `DATA` -/

namespace Channel

section control

variable {ch : Channel} {net : Network}

theorem controlCalls_nil : ControlCalls [] := by simp [ControlCalls]

/-- A `CHANNEL_REQUEST_ACK` call with a payload that fits is a control frame. -/
theorem isControl_requestAck (i : UInt16) {d : ByteBuffer} (h : d.length ≤ FRAME_MAX_PAYLOAD) :
    (MuxCall.channelRequestAck i d).toFrame.IsControl :=
  ⟨encodedFrame_valid _ _ _ h, show FrameType.channelRequestAck.toUInt8 ≠ _ by decide⟩

theorem connectReply_length (r : UInt8) : (Socks5.connectReply r).length = 10 := by
  simp [Socks5.connectReply, Socks5.buildConnectReply]

theorem buildMethodResponse_length (m : UInt8) : (Socks5.buildMethodResponse m).length = 2 := rfl

/-- A SOCKS5 reply and a close, as the handshake and the connect send them on failure. -/
theorem controlCalls_reply {d : ByteBuffer} (hd : d.length ≤ FRAME_MAX_PAYLOAD) (flags : UInt8) :
    ControlCalls [.mux (.channelRequestAck ch.id d), ch.sendCloseToMux flags] := by
  simp only [ControlCalls, sendCloseToMux, muxCalls_cons_mux, muxCalls_nil, List.mem_cons,
    List.not_mem_nil, or_false, forall_eq_or_imp, forall_eq]
  exact ⟨isControl_requestAck _ hd, encodedFrame_valid _ _ _ (by decide),
    show FrameType.channelClose.toUInt8 ≠ _ by decide⟩

theorem controlCalls_processConnect : ControlCalls (ch.processConnect net).2 := by
  have hr : ∀ r, (Socks5.connectReply r).length ≤ FRAME_MAX_PAYLOAD := fun r => by
    rw [connectReply_length]; decide
  rcases @processConnect_cases ch net with h | ⟨p, -, -, h | h | h | h⟩
  · rw [h]; exact controlCalls_nil
  · rw [h.2]; exact controlCalls_nil
  · rw [h.2]; exact controlCalls_reply (hr _) _
  · rw [h.2.2]; simp [ControlCalls]
  · rw [h.2.2]
    exact fun c hc => controlCalls_reply (hr _) FRAME_FLAG_RST c (by simpa using hc)

theorem controlCalls_onRequest (d : ByteBuffer) : ControlCalls (ch.onRequest d net).2 := by
  by_cases hs : ch.state = .requesting
  swap
  · rw [onRequest_ignored hs]; exact controlCalls_nil
  rw [onRequest_requesting hs]
  have hm : ∀ m, (Socks5.buildMethodResponse m).length ≤ FRAME_MAX_PAYLOAD := fun m => by
    rw [buildMethodResponse_length]; decide
  rcases @processSocks5_cases { ch with socks5Buf := ch.socks5Buf ++ d } net
    with h | h | h | ⟨n, -, h⟩
  · rw [h.2]; exact controlCalls_processConnect
  · rw [h.2]; exact controlCalls_nil
  · rw [h.2]; exact controlCalls_reply (hm _) _
  · rw [h]
    intro c hc
    simp only [muxCalls, List.filterMap_cons, List.mem_cons] at hc
    rcases hc with rfl | hc
    · exact isControl_requestAck _ (hm _)
    · exact controlCalls_processConnect c hc

theorem controlCalls_onData (d : ByteBuffer) (wsa : Option ErrorCode) :
    ControlCalls (ch.onData d wsa).2 := by
  rcases @onData_calls ch d wsa with h | ⟨-, n, h⟩ <;> rw [h]
  · exact controlCalls_nil
  · simp only [ControlCalls, muxCalls_cons_mux, muxCalls_nil, List.mem_singleton, forall_eq]
    exact ⟨encodedFrame_valid _ _ _ (by simp [bytesU32, FRAME_MAX_PAYLOAD]),
      show FrameType.windowUpdate.toUInt8 ≠ _ by decide⟩

theorem controlCalls_onTargetConnected (ec : ErrorCode) (post : Option ErrorCode) :
    ControlCalls (ch.onTargetConnected ec post).2 := by
  have hr : ∀ r, (Socks5.connectReply r).length ≤ FRAME_MAX_PAYLOAD := fun r => by
    rw [connectReply_length]; decide
  rcases @onTargetConnected_cases ch ec post with
    ⟨-, h⟩ | ⟨-, -, h⟩ | ⟨-, -, -, h⟩ | ⟨_, -, -, -, -, h⟩ | ⟨_, _, -, -, -, -, h⟩ <;> rw [h]
  · exact controlCalls_nil
  · exact controlCalls_reply (hr _) _
  · simpa [ControlCalls] using isControl_requestAck ch.id (hr _)
  · simpa [ControlCalls] using isControl_requestAck ch.id (hr _)
  · exact controlCalls_reply (hr _) _

theorem controlCalls_onConnectCompletion (ec : ErrorCode) (post : Option ErrorCode) :
    ControlCalls (ch.onConnectCompletion ec post).2 := by
  rcases @onConnectCompletion_cases ch ec post with h | ⟨t, -, -, h⟩ <;> rw [h]
  exacts [controlCalls_nil, controlCalls_onTargetConnected ec post]

end control

end Channel

/-! ## A relaying channel under inbound frames -/

namespace TcpConnection

/-- The read pump running: connected, reading, and a receive owed. -/
def Pumping (t : TcpConnection) : Prop :=
  t.connected = true ∧ t.reading = true ∧ t.recvPending = true

theorem Pumping.send {t : TcpConnection} (h : t.Pumping) (d : ByteBuffer) (wsa : Option ErrorCode) :
    (t.send d wsa).1.Pumping := by
  obtain ⟨-, h₂, -, h₄, h₅⟩ := @send_fields t d wsa
  exact ⟨h₂.trans h.1, h₅.trans h.2.1, h₄.trans h.2.2⟩

theorem send_sendQueue {t : TcpConnection} (hc : t.connected = true) (d : ByteBuffer)
    (wsa : Option ErrorCode) : (t.send d wsa).1.sendQueue = t.sendQueue ++ [d] := by
  rw [send_accepted hc]; split <;> simp

/-- A receive with data, and a `WSARecv` posted again at once, leave a pumping connection as
    it was. -/
theorem recvComplete_pumping {t : TcpConnection} (hp : t.Pumping) {bytes : ByteBuffer}
    (hb : bytes ≠ []) :
    t.recvComplete bytes .success = ({ t with recvPending := false }, .data bytes) ∧
      ({ t with recvPending := false } : TcpConnection).afterData none = (t, none) := by
  obtain ⟨hc, hr, hrp⟩ := hp
  refine ⟨by simp [recvComplete, hb], ?_⟩
  cases t
  simp_all [afterData, postRecv]

end TcpConnection

namespace Channel

/-- The channel relays, under id `k`, to a target whose read pump runs and which has `q`
    queued. -/
def Pipes (ch : Channel) (k : UInt16) (q : List ByteBuffer) : Prop :=
  ch.id = k ∧ ch.state = .relaying ∧ ∃ t, ch.target = some t ∧ t.Pumping ∧ t.sendQueue = q

variable {ch : Channel} {k : UInt16} {q : List ByteBuffer}

/-- `OnData` appends the payload to the target's queue. -/
theorem Pipes.onData (h : ch.Pipes k q) (d : ByteBuffer) (wsa : Option ErrorCode) :
    (ch.onData d wsa).1.Pipes k (q ++ [d]) := by
  obtain ⟨hid, hs, t, ht, hp, hq⟩ := h
  obtain ⟨h₁, h₂, -, h₄⟩ := @onData_fields ch d wsa
  refine ⟨h₁.trans hid, h₂.trans hs, (t.send d wsa).1, by simp [h₄, hs, ht], hp.send d wsa, ?_⟩
  rw [TcpConnection.send_sendQueue hp.1, hq]

theorem Pipes.onWindowUpdate (h : ch.Pipes k q) (n : UInt32) : (ch.onWindowUpdate n).Pipes k q := h

theorem Pipes.sendWindow (h : ch.Pipes k q) (w : UInt32) : { ch with sendWindow := w }.Pipes k q := h

end Channel

namespace MuxSession

/-- The payloads of the `DATA` frames for channel `k`, in order. -/
def dataFor (k : UInt16) (fs : List Frame) : List ByteBuffer :=
  fs.filterMap fun f =>
    if f.header.channel_id = k ∧ FrameType.ofUInt8 f.header.type = some .data then some f.payload
    else none

@[simp] theorem dataFor_nil (k : UInt16) : dataFor k [] = [] := rfl

@[simp] theorem dataFor_append (k : UInt16) (fs gs : List Frame) :
    dataFor k (fs ++ gs) = dataFor k fs ++ dataFor k gs :=
  List.filterMap_append ..

theorem dataFor_cons (k : UInt16) (f : Frame) (fs : List Frame) :
    dataFor k (f :: fs) = dataFor k [f] ++ dataFor k fs := by
  rw [← dataFor_append]; rfl

theorem dataFor_of_control {k : UInt16} {gs : List Frame} (h : ∀ g ∈ gs, g.IsControl) :
    dataFor k gs = [] :=
  List.filterMap_eq_nil_iff.2 fun g hg => by simp [ofUInt8_ne_data (h g hg).2]

/-- Whether a frame is one of the registry's own frames for channel `k`: `CHANNEL_OPEN`,
    `CHANNEL_CLOSE` or `CHANNEL_CLOSE_ACK`, which replace or remove the channel. -/
def controls (k : UInt16) (f : Frame) : Bool :=
  f.header.channel_id == k &&
    [some FrameType.channelOpen, some .channelClose, some .channelCloseAck].contains
      (FrameType.ofUInt8 f.header.type)

/-- Channel `k` of a running session relays, under its own id, to a target whose read pump
    runs and which has `q` queued. -/
def Pipes (s : MuxSession) (k : UInt16) (q : List ByteBuffer) : Prop :=
  s.running = true ∧ ∃ ch, s.channels k = some ch ∧ ch.Pipes k q

@[simp] theorem setChannel_channels (s : MuxSession) (id : UInt16) (ch : Channel) :
    (s.setChannel id ch).channels = Function.update s.channels id (some ch) := rfl

variable {s : MuxSession} {os : OsAnswers} {f : Frame} {k : UInt16} {ch : Channel}
  {q : List ByteBuffer}

/-- Every frame an inbound frame's handler sends is a control frame. -/
theorem sendsControl_dispatchFrame (os : OsAnswers) (f : Frame) :
    SendsControl (s.dispatchFrame os f).2 := by
  have hack : ∀ i, (MuxCall.channelCloseAck i).toFrame.IsControl := fun _ =>
    ⟨encodedFrame_valid _ _ _ (by decide), show FrameType.channelCloseAck.toUInt8 ≠ _ by decide⟩
  unfold dispatchFrame
  split
  · exact sendsControl_emit fun c hc => by
      simp only [Channel.onOpen, Channel.muxCalls_cons_mux, Channel.muxCalls_nil,
        List.mem_singleton] at hc
      exact hc ▸ ⟨encodedFrame_valid _ _ _ (by decide),
        show FrameType.channelOpenAck.toUInt8 ≠ _ by decide⟩
  · unfold handleChannelRequest; split
    exacts [.nil, sendsControl_emit (Channel.controlCalls_onRequest _)]
  · unfold handleData; split
    exacts [.nil, sendsControl_emit (Channel.controlCalls_onData _ _)]
  · unfold handleChannelClose; split
    · exact sendsControl_sendFrame (g := (MuxCall.channelCloseAck _).toFrame) (hack _)
    · dsimp only
      split <;> exact sendsControl_emit fun c hc => by
        simp only [Channel.onClose, Channel.muxCalls_cons_mux, Channel.muxCalls_nil,
          List.mem_singleton] at hc
        exact hc ▸ hack _
  · unfold handleChannelCloseAck; split <;> exact .nil
  · exact sendsControl_sendFrame (g := encodedFrame FrameType.pong.toUInt8 0 0 [])
      ⟨encodedFrame_valid _ _ _ (by decide), show FrameType.pong.toUInt8 ≠ _ by decide⟩
  · unfold handleWindowUpdate; split
    · split <;> exact .nil
    · exact .nil
  · exact .nil

theorem sendsControl_dispatchFrames (os : OsAnswers) (fs : List Frame) :
    SendsControl (s.dispatchFrames os fs).2 := by
  induction fs generalizing s with
  | nil => exact .nil
  | cons f fs ih => exact (sendsControl_dispatchFrame os f).append ih

theorem sendsControl_keepalive (s : MuxSession) : SendsControl s.keepalive := by
  unfold keepalive
  split
  · exact sendsControl_sendFrame (g := encodedFrame FrameType.ping.toUInt8 0 0 [])
      ⟨encodedFrame_valid _ _ _ (by decide), show FrameType.ping.toUInt8 ≠ _ by decide⟩
  · exact .nil

/-- A frame for another channel leaves channel `k` as it was. -/
theorem dispatchFrame_channels_ne (h : f.header.channel_id ≠ k) :
    (s.dispatchFrame os f).1.channels k = s.channels k := by
  unfold dispatchFrame handleChannelOpen handleChannelRequest handleData handleChannelClose
    handleChannelCloseAck handlePing handleWindowUpdate withChannel setChannel removeChannel
  dsimp only
  split <;> (try split) <;> (try split) <;> simp [Function.update_noteq (Ne.symm h)]

/-- Everything a frame that does not control channel `k` can do to it while it relays:
    nothing, `OnData` for a `DATA` frame for `k`, or `OnWindowUpdate`. -/
theorem dispatchFrame_relaying (hch : s.channels k = some ch) (hs : ch.state = .relaying)
    (hf : controls k f = false) :
    (s.dispatchFrame os f).1.channels k = some ch ∧ dataFor k [f] = [] ∨
    (s.dispatchFrame os f).1.channels k = some (ch.onData f.payload os.wsa).1 ∧
      dataFor k [f] = [f.payload] ∨
    ∃ n, (s.dispatchFrame os f).1.channels k = some (ch.onWindowUpdate n) ∧ dataFor k [f] = [] := by
  by_cases hk : f.header.channel_id = k
  swap
  · exact .inl ⟨(dispatchFrame_channels_ne hk).trans hch, by simp [dataFor, hk]⟩
  subst hk
  simp only [controls, beq_self_eq_true, Bool.true_and] at hf
  have hnd : ∀ t, FrameType.ofUInt8 f.header.type = some t → t ≠ .data → dataFor f.header.channel_id [f] = [] :=
    fun t ht hd => by simp [dataFor, ht, hd]
  unfold dispatchFrame
  rcases ht : FrameType.ofUInt8 f.header.type with _ | ft
  · exact .inl ⟨hch, by simp [dataFor, ht]⟩
  cases ft with
  | channelOpen | channelClose | channelCloseAck => simp [ht] at hf
  | channelRequest =>
    have hi : ch.onRequest f.payload os.net = (ch, []) := Channel.onRequest_ignored (by rw [hs]; decide)
    exact .inl ⟨by simp [handleChannelRequest, hch, withChannel, hi], hnd _ ht (by decide)⟩
  | data => exact .inr (.inl ⟨by simp [handleData, hch, withChannel], by simp [dataFor, ht]⟩)
  | windowUpdate =>
    simp only [handleWindowUpdate]
    split
    · next b0 b1 b2 b3 _ _ =>
      exact .inr (.inr ⟨u32le b0 b1 b2 b3, by simp [hch], hnd _ ht (by decide)⟩)
    · exact .inl ⟨hch, hnd _ ht (by decide)⟩
  | channelOpenAck | channelRequestAck | ping | pong =>
    exact .inl ⟨by simpa [handlePing] using hch, hnd _ ht (by decide)⟩

/-- The step lemma for an inbound frame. -/
theorem Pipes.dispatchFrame (h : s.Pipes k q) (hf : controls k f = false) :
    (s.dispatchFrame os f).1.Pipes k (q ++ dataFor k [f]) := by
  obtain ⟨hr, ch, hch, hp⟩ := h
  obtain ⟨chs, he⟩ := dispatchFrame_channels s os f
  refine ⟨by rw [he]; exact hr, ?_⟩
  rcases @dispatchFrame_relaying s os f k ch hch hp.2.1 hf with ⟨h₁, h₂⟩ | ⟨h₁, h₂⟩ | ⟨n, h₁, h₂⟩
  · exact ⟨ch, h₁, by simpa [h₂] using hp⟩
  · exact ⟨_, h₁, by simpa [h₂] using hp.onData f.payload os.wsa⟩
  · exact ⟨_, h₁, by simpa [h₂] using hp.onWindowUpdate n⟩

theorem Pipes.dispatchFrames (fs : List Frame) (h : s.Pipes k q)
    (hf : ∀ f ∈ fs, controls k f = false) :
    (s.dispatchFrames os fs).1.Pipes k (q ++ dataFor k fs) := by
  induction fs generalizing s q with
  | nil => simpa [dispatchFrames] using h
  | cons f fs ih =>
    rw [dispatchFrames, dataFor_cons, ← List.append_assoc]
    exact ih (h.dispatchFrame (hf f (List.mem_cons_self f fs)))
      fun g hg => hf g (List.mem_cons_of_mem f hg)

end MuxSession

/-! ## `DATA` comes from the targets only -/

/-- Whether an event is a receive completion on a channel's target. -/
def SessionEvent.isTargetRecv : SessionEvent → Bool
  | .target _ (.recvComplete _ _ _) => true
  | _ => false

namespace MuxSession

variable {s : MuxSession}

/-- Every event but a target's receive completion sends control frames only. -/
theorem sendsControl_step {e : SessionEvent} (he : e.isTargetRecv = false) :
    SendsControl (s.step e).2 := by
  cases e with
  | start | shutdown => exact .nil
  | dataReceived d os => exact sendsControl_dispatchFrames os _
  | transportDisconnected ec =>
    show SendsControl (s.onTransportDisconnected ec).2
    unfold onTransportDisconnected
    split <;> exact ⟨[], rfl, by simp⟩
  | keepalive => exact sendsControl_keepalive s
  | target i te =>
    show SendsControl (s.onTargetEvent i te).2
    unfold onTargetEvent
    split
    · exact .nil
    · cases te with
      | connectComplete ec post =>
        exact sendsControl_emit (Channel.controlCalls_onConnectCompletion ec post)
      | recvComplete => cases he
      | sendComplete => exact .nil

theorem sendsControl_run (es : List SessionEvent) (he : ∀ e ∈ es, e.isTargetRecv = false) :
    SendsControl (s.run es).2 := by
  induction es generalizing s with
  | nil => exact .nil
  | cons e es ih =>
    exact (sendsControl_step (he e (List.mem_cons_self e es))).append
      (ih fun e' hm => he e' (List.mem_cons_of_mem e hm))

end MuxSession

/-- `DATA` comes from the targets only. Over any run of events with no receive completion on a
    channel's target (frames from the peer, whatever their bytes, ticks, starts and shutdowns,
    disconnects, connect and send completions), everything the session sends is a sequence of
    valid frames, none of them `DATA`, and the peer's codec reads them back. -/
theorem data_only_from_targets (s : MuxSession) (es : List SessionEvent)
    (he : ∀ e ∈ es, e.isTargetRecv = false) :
    ∃ gs : List Frame, MuxSession.sent (s.run es).2 = gs.map Frame.encode ∧
      (∀ g ∈ gs, g.Valid ∧ g.header.type ≠ FrameType.data.toUInt8) ∧
      parseFrames (MuxSession.sent (s.run es).2).flatten = (gs, some []) := by
  obtain ⟨gs, hg, hc⟩ := MuxSession.sendsControl_run es he
  refine ⟨gs, hg, hc, ?_⟩
  have he : (gs.map Frame.encode).flatten = encodeFrames gs := rfl
  simpa [hg, he] using parseFrames_encodeFrames (fun g hg => (hc g hg).1) []

/-- A new session started: the peer opens channel 1, asks it for `CONNECT 127.0.0.1:80` and
    pings, and the connect completes; a keepalive tick follows. -/
theorem data_only_from_targets_connect :
    let os : OsAnswers := ⟨fun _ _ => .success, none⟩
    let es : List SessionEvent := [.start,
      .dataReceived (FrameCodec.buildChannelOpen 1 ++ FrameCodec.buildChannelRequest 1
        [5, 1, 0, 5, 1, 0, 1, 127, 0, 0, 1, 0, 80] ++ FrameCodec.buildPing) os,
      .target 1 (.connectComplete .success none), .keepalive]
    (∀ e ∈ es, e.isTargetRecv = false) ∧
    ∃ gs : List Frame, MuxSession.sent ((MuxSession.new 4).run es).2 = gs.map Frame.encode ∧
      (∀ g ∈ gs, g.Valid ∧ g.header.type ≠ FrameType.data.toUInt8) ∧
      parseFrames (MuxSession.sent ((MuxSession.new 4).run es).2).flatten = (gs, some []) := by
  intro os es
  have he : ∀ e ∈ es, e.isTargetRecv = false := by simp [es, SessionEvent.isTargetRecv]
  exact ⟨he, data_only_from_targets _ es he⟩

/-! ## The target's reads -/

namespace Channel

/-- A data completion on a relaying channel whose target is pumping: `SendToMux`, and the
    target pumps on. -/
theorem onRecvCompletion_pumping {ch : Channel} {t : TcpConnection} (hs : ch.state = .relaying)
    (ht : ch.target = some t) (hp : t.Pumping) {bytes : ByteBuffer} (hb : bytes ≠ []) :
    ch.onRecvCompletion bytes .success none =
      ({ ch with sendWindow := (sendToMuxLoop ch.id ch.sendWindow bytes).1 },
        (sendToMuxLoop ch.id ch.sendWindow bytes).2) := by
  obtain ⟨hr, ha⟩ := TcpConnection.recvComplete_pumping hp hb
  rw [onRecvCompletion_data ht hp.2.2 (by rw [hr]), hr]
  simp only [onDataUpcall, onTargetData, sendToMux, hs, ne_eq, not_true_eq_false, if_false]
  rw [afterTargetData_posted rfl (by rw [ha])]
  simp [ha, ← ht]

end Channel

namespace MuxSession

/-- Outputs that hand the transport valid frames, the payloads of whose `DATA` frames for
    channel `k` make up `bytes`. -/
def Carries (k : UInt16) (outs : List SessionOutput) (bytes : ByteBuffer) : Prop :=
  ∃ gs : List Frame, sent outs = gs.map Frame.encode ∧ (∀ g ∈ gs, g.Valid) ∧
    (dataFor k gs).flatten = bytes

variable {s : MuxSession} {k : UInt16} {q : List ByteBuffer}

theorem SendsControl.carries {outs : List SessionOutput} (h : SendsControl outs) :
    Carries k outs [] := by
  obtain ⟨gs, hg, hc⟩ := h
  exact ⟨gs, hg, fun g hg => (hc g hg).1, by rw [dataFor_of_control hc]; rfl⟩

theorem Carries.append {xs ys : List SessionOutput} {a b : ByteBuffer} (hx : Carries k xs a)
    (hy : Carries k ys b) : Carries k (xs ++ ys) (a ++ b) := by
  obtain ⟨gs, hg, hgv, hga⟩ := hx
  obtain ⟨hs, hh, hhv, hhb⟩ := hy
  refine ⟨gs ++ hs, by simp [hg, hh], fun g hg => ?_, by simp [hga, hhb]⟩
  rcases List.mem_append.1 hg with h | h
  exacts [hgv g h, hhv g h]

/-- A running session sends a channel's `DATA` calls as valid frames carrying their payloads. -/
theorem carries_emit_data (hr : s.running = true) {cs : List Call}
    (h : ∀ c ∈ cs, ∃ d, c = .mux (.data k d) ∧ d.length ≤ FRAME_MAX_PAYLOAD) :
    Carries k (s.emit cs) (dataPayloads cs).flatten := by
  induction cs with
  | nil => exact ⟨[], rfl, by simp, rfl⟩
  | cons c cs ih =>
    obtain ⟨d, rfl, hd⟩ := h c (List.mem_cons_self c cs)
    have hc : Carries k (s.sendFrame (MuxCall.data k d).frame) d :=
      ⟨[(MuxCall.data k d).toFrame], by simp [sendFrame, hr, MuxCall.frame_eq],
        by simpa using encodedFrame_valid _ _ _ hd,
        by simp [dataFor, MuxCall.toFrame, encodedFrame]⟩
    exact hc.append (ih fun c hc => h c (List.mem_cons_of_mem _ hc))

/-- The step lemma for a read: the channel goes on piping with the same queue, the bytes go
    out as `DATA` for it, and the codec is left alone. -/
theorem Pipes.read (h : s.Pipes k q) {b : ByteBuffer} (hb : b ≠ []) :
    (s.step (.target k (.recvComplete b .success none))).1.Pipes k q ∧
      Carries k (s.step (.target k (.recvComplete b .success none))).2 b ∧
      (s.step (.target k (.recvComplete b .success none))).1.codec = s.codec := by
  obtain ⟨hr, ch, hch, hid, hs, t, ht, hp, hq⟩ := h
  have he : s.step (.target k (.recvComplete b .success none)) =
      (s.setChannel k { ch with sendWindow := (Channel.sendToMuxLoop ch.id ch.sendWindow b).1 },
        s.emit (Channel.sendToMuxLoop ch.id ch.sendWindow b).2) := by
    simp [step, onTargetEvent, hch, withChannel, Channel.onRecvCompletion_pumping hs ht hp hb]
  have hloop := Channel.sendToMuxLoop_data ch.id ch.sendWindow b
  have hc := carries_emit_data (s := s) hr fun c hc =>
    (hloop.1 c hc).imp fun d hd => ⟨hid ▸ hd.1, hd.2.2⟩
  rw [hloop.2] at hc
  rw [he]
  exact ⟨⟨hr, { ch with sendWindow := (Channel.sendToMuxLoop ch.id ch.sendWindow b).1 }, by simp,
    hid, hs, t, ht, hp, hq⟩, hc, rfl⟩

/-! ## The pipe -/

/-- The events of the pipe for channel `k`: any chunk of the peer's bytes, a receive completion
    with data on `k`'s target followed by a `WSARecv` posted at once, and a keepalive tick. -/
def PipeEvent (k : UInt16) : SessionEvent → Prop
  | .dataReceived _ _ => True
  | .target i (.recvComplete b ec post) => i = k ∧ b ≠ [] ∧ ec = .success ∧ post = none
  | .keepalive => True
  | _ => False

/-- The chunks of the peer's bytes among the events. -/
def receivedChunks (es : List SessionEvent) : List ByteBuffer :=
  es.filterMap fun
    | .dataReceived d _ => some d
    | _ => none

/-- The bytes of the target receive completions among the events. -/
def targetReads (es : List SessionEvent) : List ByteBuffer :=
  es.filterMap fun
    | .target _ (.recvComplete b _ _) => some b
    | _ => none

/-- The run lemma of the pipe. -/
theorem Pipes.run (es : List SessionEvent) (h : s.Pipes k q) (he : ∀ e ∈ es, PipeEvent k e)
    (hf : ∀ f ∈ (s.codec.feedAll (receivedChunks es)).1, controls k f = false) :
    (s.run es).1.Pipes k (q ++ dataFor k (s.codec.feedAll (receivedChunks es)).1) ∧
      Carries k (s.run es).2 (targetReads es).flatten := by
  induction es generalizing s q with
  | nil => exact ⟨by simpa [run, FrameCodec.feedAll] using h, SendsControl.nil.carries⟩
  | cons e es ih =>
    have he' : ∀ e ∈ es, PipeEvent k e := fun e hm => he e (List.mem_cons_of_mem _ hm)
    cases e with
    | dataReceived d os =>
      simp only [receivedChunks, List.filterMap_cons, FrameCodec.feedAll, List.mem_append] at hf
      obtain ⟨chs, hc⟩ := dispatchFrames_channels { s with codec := (s.codec.feed d).2 } os
        (s.codec.feed d).1
      have h₁ : (s.step (.dataReceived d os)).1.Pipes k (q ++ dataFor k (s.codec.feed d).1) :=
        Pipes.dispatchFrames (s := { s with codec := (s.codec.feed d).2 }) _ h
          fun f hm => hf f (.inl hm)
      have hcodec : (s.step (.dataReceived d os)).1.codec = (s.codec.feed d).2 := by
        simp [step, onDataReceived, hc]
      obtain ⟨h₂, h₃⟩ := ih h₁ he' (by rw [hcodec]; exact fun f hm => hf f (.inr hm))
      rw [hcodec] at h₂
      refine ⟨by simpa [run, receivedChunks, FrameCodec.feedAll] using h₂, ?_⟩
      simpa [run, targetReads] using
        (sendsControl_dispatchFrames (s := { s with codec := (s.codec.feed d).2 }) os
          (s.codec.feed d).1).carries.append h₃
    | target i te =>
      cases te with
      | recvComplete b ec post =>
        obtain ⟨rfl, hb, rfl, rfl⟩ := he _ (List.mem_cons_self _ _)
        obtain ⟨h₁, hc, hcodec⟩ := h.read hb
        obtain ⟨h₂, h₃⟩ := ih h₁ he' (by rw [hcodec]; exact hf)
        rw [hcodec] at h₂
        exact ⟨by simpa [run, receivedChunks] using h₂,
          by simpa [run, targetReads] using hc.append h₃⟩
      | connectComplete | sendComplete => exact (he _ (List.mem_cons_self _ _)).elim
    | keepalive =>
      obtain ⟨h₂, h₃⟩ := ih h he' hf
      refine ⟨by simpa [run, receivedChunks] using h₂, ?_⟩
      simpa [run, step, targetReads] using (sendsControl_keepalive s).carries.append h₃
    | start | shutdown | transportDisconnected => exact (he _ (List.mem_cons_self _ _)).elim

end MuxSession

/-- A relaying channel is a byte pipe in both directions. Under chunks of frames that do not
    open or close `k`, cut anywhere, receives on `k`'s target and keepalive ticks, `k` still
    pipes, its target's queue grows by the payloads of the `DATA` frames for `k`, and the frames
    the session sends decode back, carrying the bytes read from the target, in order. -/
theorem relay_pipe (s : MuxSession) (k : UInt16) (q : List ByteBuffer) (h : s.Pipes k q)
    (hc : s.codec.buffer = []) (es : List SessionEvent) (he : ∀ e ∈ es, MuxSession.PipeEvent k e)
    (fs : List Frame) (hv : ∀ f ∈ fs, f.Valid) (hf : ∀ f ∈ fs, MuxSession.controls k f = false)
    (hch : (MuxSession.receivedChunks es).flatten = encodeFrames fs) :
    (s.run es).1.Pipes k (q ++ MuxSession.dataFor k fs) ∧
    ∃ gs : List Frame, MuxSession.sent (s.run es).2 = gs.map Frame.encode ∧
      parseFrames (MuxSession.sent (s.run es).2).flatten = (gs, some []) ∧
      (MuxSession.dataFor k gs).flatten = (MuxSession.targetReads es).flatten := by
  have hp : parseFrames (s.codec.buffer ++ (MuxSession.receivedChunks es).flatten) = (fs, some []) := by
    simpa [hc, hch] using parseFrames_encodeFrames hv []
  have hfeed := (FrameCodec.feedAll_of_parseFrames s.codec _ hp).1
  obtain ⟨h₁, gs, hg, hgv, hgd⟩ := MuxSession.Pipes.run es h he (by rw [hfeed]; exact hf)
  refine ⟨by rwa [hfeed] at h₁, gs, hg, ?_, hgd⟩
  have he : (gs.map Frame.encode).flatten = encodeFrames gs := rfl
  simpa [hg, he] using parseFrames_encodeFrames hgv []

/-- Channel 1 relays to a connected target that is reading, with nothing queued. The peer's
    `DATA [7, 8]`, `PING` and `DATA [9]` arrive in two chunks cut inside the `PING`, with a read
    of `[1, 2, 3]` from the target and a keepalive tick in between. -/
theorem relay_pipe_relaying :
    let t := ((TcpConnection.init.connectAsync .success).1.connectComplete .success).startReading
      none |>.1
    let s : MuxSession := { MuxSession.new 4 with
      channels := fun i => if i = 1 then some { Channel.new 1 4 with
        state := .relaying, target := some t } else none
      running := true }
    let fs : List Frame := [⟨⟨5, 0, 1, 2⟩, [7, 8]⟩, ⟨⟨8, 0, 0, 0⟩, []⟩, ⟨⟨5, 0, 1, 1⟩, [9]⟩]
    let os : OsAnswers := ⟨fun _ _ => .success, none⟩
    let es : List SessionEvent := [.dataReceived [5, 0, 1, 0, 2, 0, 0, 0, 7, 8, 8, 0] os,
      .target 1 (.recvComplete [1, 2, 3] .success none), .keepalive,
      .dataReceived [0, 0, 0, 0, 0, 0, 5, 0, 1, 0, 1, 0, 0, 0, 9] os]
    s.Pipes 1 [] ∧ s.codec.buffer = [] ∧ (∀ e ∈ es, MuxSession.PipeEvent 1 e) ∧
      (∀ f ∈ fs, f.Valid) ∧ (∀ f ∈ fs, MuxSession.controls 1 f = false) ∧
      (MuxSession.receivedChunks es).flatten = encodeFrames fs ∧
      (s.run es).1.Pipes 1 ([] ++ MuxSession.dataFor 1 fs) ∧
      ∃ gs : List Frame, MuxSession.sent (s.run es).2 = gs.map Frame.encode ∧
        parseFrames (MuxSession.sent (s.run es).2).flatten = (gs, some []) ∧
        (MuxSession.dataFor 1 gs).flatten = (MuxSession.targetReads es).flatten := by
  intro t s fs os es
  have hp : s.Pipes 1 [] := ⟨rfl, _, rfl, rfl, rfl, t, rfl, ⟨rfl, rfl, rfl⟩, rfl⟩
  have hv : ∀ f ∈ fs, f.Valid := by simp [fs, Frame.Valid, FRAME_MAX_PAYLOAD]
  have he : ∀ e ∈ es, MuxSession.PipeEvent 1 e := by simp [es, MuxSession.PipeEvent]
  exact ⟨hp, rfl, he, hv, by decide, by decide,
    relay_pipe s 1 [] hp rfl es he fs hv (by decide) (by decide)⟩

end ReverseSocks
