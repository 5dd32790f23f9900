import ReverseSocks.Mux.Codec
import ReverseSocks.Channel.Basic

/-! # The mux session

    `mux_session.cpp`: one session over the TLS transport. Inbound bytes go through the frame
    codec and each frame is dispatched by type to the channel registry; the channels' calls come
    back as frames passed to the transport while the session runs. A channel that leaves the
    registry is destroyed and makes no call. What the outside sees is a list of outputs: the
    bytes sent, the outbound connects, and the `on_disconnect` call.
-/

namespace ReverseSocks

/-- What the session does that the outside sees. -/
inductive SessionOutput
  | send (bytes : ByteBuffer)
  | connect (host : String) (port : UInt16)
  | disconnected (ec : ErrorCode)
  deriving DecidableEq, Repr

/-- The operating system's answers the handlers of one inbound chunk need: `ConnectAsync`'s
    synchronous result for a host and port, and `WSASend`'s answer to a send to a target. -/
structure OsAnswers where
  net : Network
  wsa : Option ErrorCode

/-- The frame a channel's call of a session send helper builds. -/
def MuxCall.frame : MuxCall → ByteBuffer
  | .channelOpenAck i => FrameCodec.buildChannelOpenAck i
  | .channelRequestAck i d => FrameCodec.buildChannelRequestAck i d
  | .data i d => FrameCodec.buildData i d
  | .channelClose i flags => FrameCodec.buildChannelClose i flags
  | .channelCloseAck i => FrameCodec.buildChannelCloseAck i
  | .windowUpdate i increment => FrameCodec.buildWindowUpdate i increment

/-- `class MuxSession`: the codec, the registry, `m_running`, whether `m_on_disconnect` is set,
    and `m_channel_window_size`. -/
structure MuxSession where
  codec : FrameCodec
  channels : UInt16 → Option Channel
  running : Bool
  onDisconnect : Bool
  channelWindowSize : UInt32

namespace MuxSession

/-- `MuxSession::MuxSession(transport, channel_window_size, keepalive_ms)`. -/
def new (channel_window_size : UInt32) : MuxSession :=
  ⟨.init, fun _ => none, false, false, channel_window_size⟩

/-- `SendFrame`: the bytes go to the transport only while the session is running. -/
def sendFrame (s : MuxSession) (frame_bytes : ByteBuffer) : List SessionOutput :=
  if s.running then [.send frame_bytes] else []

/-- The calls a channel handler made, as the session carries them out. -/
def emit (s : MuxSession) : List Call → List SessionOutput
  | [] => []
  | .mux c :: cs => s.sendFrame c.frame ++ s.emit cs
  | .connect host port :: cs => .connect host port :: s.emit cs

/-- The registry after storing a channel under an id. -/
def setChannel (s : MuxSession) (id : UInt16) (ch : Channel) : MuxSession :=
  { s with channels := Function.update s.channels id (some ch) }

/-- `RemoveChannel`. -/
def removeChannel (s : MuxSession) (id : UInt16) : MuxSession :=
  { s with channels := Function.update s.channels id none }

/-- A channel handler run on the channel stored under `id`, which it replaces. -/
def withChannel (s : MuxSession) (id : UInt16) (r : Channel × List Call) :
    MuxSession × List SessionOutput :=
  (s.setChannel id r.1, s.emit r.2)

/-- `HandleChannelOpen`: a new channel replaces any channel of that id, then `OnOpen`. -/
def handleChannelOpen (s : MuxSession) (f : Frame) : MuxSession × List SessionOutput :=
  s.withChannel f.header.channel_id (Channel.new f.header.channel_id s.channelWindowSize).onOpen

/-- `HandleChannelRequest`. -/
def handleChannelRequest (s : MuxSession) (os : OsAnswers) (f : Frame) :
    MuxSession × List SessionOutput :=
  match s.channels f.header.channel_id with
  | none => (s, [])
  | some ch => s.withChannel f.header.channel_id (ch.onRequest f.payload os.net)

/-- `HandleData`. -/
def handleData (s : MuxSession) (os : OsAnswers) (f : Frame) : MuxSession × List SessionOutput :=
  match s.channels f.header.channel_id with
  | none => (s, [])
  | some ch => s.withChannel f.header.channel_id (ch.onData f.payload os.wsa)

/-- `HandleChannelClose`: an unknown id is acknowledged anyway; otherwise `OnClose`, and the
    channel is removed once `Closed`. -/
def handleChannelClose (s : MuxSession) (f : Frame) : MuxSession × List SessionOutput :=
  match s.channels f.header.channel_id with
  | none => (s, s.sendFrame (FrameCodec.buildChannelCloseAck f.header.channel_id))
  | some ch =>
    let r := ch.onClose f.header.flags
    if r.1.state = .closed then (s.removeChannel f.header.channel_id, s.emit r.2)
    else s.withChannel f.header.channel_id r

/-- `HandleChannelCloseAck`: `ForceClose`, then `RemoveChannel`. -/
def handleChannelCloseAck (s : MuxSession) (f : Frame) : MuxSession × List SessionOutput :=
  match s.channels f.header.channel_id with
  | none => (s, [])
  | some _ => (s.removeChannel f.header.channel_id, [])

/-- `HandlePing`. -/
def handlePing (s : MuxSession) : MuxSession × List SessionOutput :=
  (s, s.sendFrame FrameCodec.buildPong)

/-- `HandleWindowUpdate`: the increment is the payload's first four bytes, little-endian. -/
def handleWindowUpdate (s : MuxSession) (f : Frame) : MuxSession × List SessionOutput :=
  match f.payload with
  | b0 :: b1 :: b2 :: b3 :: _ =>
    match s.channels f.header.channel_id with
    | none => (s, [])
    | some ch => (s.setChannel f.header.channel_id (ch.onWindowUpdate (u32le b0 b1 b2 b3)), [])
  | _ => (s, [])

/-- `DispatchFrame`: the `switch` on the type byte; other types are logged and dropped. -/
def dispatchFrame (s : MuxSession) (os : OsAnswers) (f : Frame) : MuxSession × List SessionOutput :=
  match FrameType.ofUInt8 f.header.type with
  | some .channelOpen => s.handleChannelOpen f
  | some .channelRequest => s.handleChannelRequest os f
  | some .data => s.handleData os f
  | some .channelClose => s.handleChannelClose f
  | some .channelCloseAck => s.handleChannelCloseAck f
  | some .ping => s.handlePing
  | some .windowUpdate => s.handleWindowUpdate f
  | _ => (s, [])

/-- The `for (const auto& frame : frames) DispatchFrame(frame)` loop. -/
def dispatchFrames (s : MuxSession) (os : OsAnswers) : List Frame → MuxSession × List SessionOutput
  | [] => (s, [])
  | f :: fs =>
    let r := s.dispatchFrame os f
    ((r.1.dispatchFrames os fs).1, r.2 ++ (r.1.dispatchFrames os fs).2)

/-- `OnDataReceived`: `Feed`, then dispatch every frame it emitted. -/
def onDataReceived (s : MuxSession) (os : OsAnswers) (data : ByteBuffer) :
    MuxSession × List SessionOutput :=
  let fed := s.codec.feed data
  { s with codec := fed.2 }.dispatchFrames os fed.1

/-- `CloseAllChannels`: every channel is force-closed and the registry cleared. -/
def closeAllChannels (s : MuxSession) : MuxSession :=
  { s with channels := fun _ => none }

/-- `Start`: install the callback and start running. -/
def start (s : MuxSession) : MuxSession :=
  { s with onDisconnect := true, running := true }

/-- `Shutdown`: nothing unless running; then stop and close every channel. -/
def shutdown (s : MuxSession) : MuxSession :=
  if !s.running then s else { s.closeAllChannels with running := false }

/-- `OnTransportDisconnected`: stop, close every channel, and call `on_disconnect`. -/
def onTransportDisconnected (s : MuxSession) (ec : ErrorCode) : MuxSession × List SessionOutput :=
  ({ s.closeAllChannels with running := false }, if s.onDisconnect then [.disconnected ec] else [])

/-- `KeepaliveTimerCallback`: a ping while running. -/
def keepalive (s : MuxSession) : List SessionOutput :=
  if s.running then s.sendFrame FrameCodec.buildPing else []

end MuxSession

/-- A completion of a channel target's I/O on the completion port. It runs the callback of the
    `TcpConnection` a channel owns, which calls into that channel, not into the session. -/
inductive TargetEvent
  | connectComplete (ec : ErrorCode) (post : Option ErrorCode)
  | recvComplete (bytes : ByteBuffer) (ec : ErrorCode) (post : Option ErrorCode)
  | sendComplete (ec : ErrorCode) (wsa : Option ErrorCode)

namespace MuxSession

/-- A target completion for the channel registered under `id`, which it replaces; with no
    channel there, nothing happens. -/
def onTargetEvent (s : MuxSession) (id : UInt16) (e : TargetEvent) :
    MuxSession × List SessionOutput :=
  match s.channels id with
  | none => (s, [])
  | some ch =>
    s.withChannel id <| match e with
      | .connectComplete ec post => ch.onConnectCompletion ec post
      | .recvComplete bytes ec post => ch.onRecvCompletion bytes ec post
      | .sendComplete ec wsa => (ch.onSendCompletion ec wsa, [])

end MuxSession

/-- What reaches a session: the owner's `Start` and `Shutdown`, the transport's two
    callbacks, a keepalive tick, and the completions of its channels' targets. -/
inductive SessionEvent
  | start
  | shutdown
  | dataReceived (data : ByteBuffer) (os : OsAnswers)
  | transportDisconnected (ec : ErrorCode)
  | keepalive
  | target (id : UInt16) (e : TargetEvent)

namespace MuxSession

/-- One event. -/
def step (s : MuxSession) : SessionEvent → MuxSession × List SessionOutput
  | .start => (s.start, [])
  | .shutdown => (s.shutdown, [])
  | .dataReceived data os => s.onDataReceived os data
  | .transportDisconnected ec => s.onTransportDisconnected ec
  | .keepalive => (s, s.keepalive)
  | .target id e => s.onTargetEvent id e

/-- Events in order; the session afterwards and all the outputs. -/
def run (s : MuxSession) : List SessionEvent → MuxSession × List SessionOutput
  | [] => (s, [])
  | e :: es => (((s.step e).1.run es).1, (s.step e).2 ++ ((s.step e).1.run es).2)

/-! ## Dispatch and `OnDataReceived` -/

section dispatch

variable {s : MuxSession} {os : OsAnswers}

/-- Dispatching a frame changes the registry only. -/
theorem dispatchFrame_channels (s : MuxSession) (os : OsAnswers) (f : Frame) :
    ∃ chs, (s.dispatchFrame os f).1 = { s with channels := chs } := by
  unfold dispatchFrame handleChannelOpen handleChannelRequest handleData handleChannelClose
    handleChannelCloseAck handlePing handleWindowUpdate withChannel setChannel removeChannel
  dsimp only
  split <;> (try split) <;> (try split) <;> exact ⟨_, rfl⟩

theorem dispatchFrames_channels (s : MuxSession) (os : OsAnswers) (fs : List Frame) :
    ∃ chs, (s.dispatchFrames os fs).1 = { s with channels := chs } := by
  induction fs generalizing s with
  | nil => exact ⟨_, rfl⟩
  | cons f fs ih =>
    obtain ⟨chs, hf⟩ := dispatchFrame_channels s os f
    obtain ⟨chs', hfs⟩ := ih (s.dispatchFrame os f).1
    exact ⟨chs', by rw [dispatchFrames, hfs, hf]⟩

/-- `OnDataReceived` dispatches the frames the loop finds in the buffered bytes followed by the
    new ones, and keeps what the loop leaves. -/
theorem onDataReceived_of_parseFrames (os : OsAnswers) {data : ByteBuffer} {fs : List Frame}
    {r : Option ByteBuffer} (h : parseFrames (s.codec.buffer ++ data) = (fs, r)) :
    s.onDataReceived os data = { s with codec := (s.codec.feed data).2 }.dispatchFrames os fs ∧
      (s.codec.feed data).2.buffer = r.getD [] := by
  obtain ⟨h1, h2⟩ := FrameCodec.feed_eq s.codec data
  rw [h] at h1 h2
  exact ⟨by rw [onDataReceived, h1], h2⟩

end dispatch

/-! ## An oversize header, and data after shutdown -/

/-- An oversize header is not fatal: on valid frames `fs` followed by a header with
    `payload_length > FRAME_MAX_PAYLOAD`, `OnDataReceived` dispatches exactly `fs`, drops the
    rest, and leaves the session running with an empty codec. -/
theorem onDataReceived_oversize (s : MuxSession) (os : OsAnswers) (data : ByteBuffer)
    {fs : List Frame} (hv : ∀ f ∈ fs, f.Valid) {hdr : FrameHeader}
    (hbig : FRAME_MAX_PAYLOAD < hdr.payload_length.toNat) (rest : ByteBuffer)
    (h : s.codec.buffer ++ data = encodeFrames fs ++ hdr.bytes ++ rest) :
    s.onDataReceived os data = { s with codec := .init }.dispatchFrames os fs ∧
    (s.onDataReceived os data).1.running = s.running ∧
    (s.onDataReceived os data).1.codec = .init := by
  have hp : parseFrames (s.codec.buffer ++ data) = (fs, none) := by
    rw [h, List.append_assoc, parseFrames_encodeFrames hv, parseFrames_header]
    simp [hbig]
  obtain ⟨e, hbuf⟩ := onDataReceived_of_parseFrames os hp
  have hinit : (s.codec.feed data).2 = .init := FrameCodec.ext_buffer hbuf
  obtain ⟨chs, hd⟩ := dispatchFrames_channels { s with codec := .init } os fs
  rw [e, hinit, hd]
  exact ⟨rfl, rfl, rfl⟩

theorem onDataReceived_oversize_header :
    let s := (MuxSession.new 262144).start
    let hdr : FrameHeader := ⟨FrameType.data.toUInt8, 0, 1, 65537⟩
    (∀ f ∈ ([] : List Frame), f.Valid) ∧ FRAME_MAX_PAYLOAD < hdr.payload_length.toNat ∧
    s.codec.buffer ++ hdr.bytes = encodeFrames [] ++ hdr.bytes ++ [] ∧
    s.onDataReceived ⟨fun _ _ => .success, none⟩ hdr.bytes =
      { s with codec := .init }.dispatchFrames ⟨fun _ _ => .success, none⟩ [] ∧
    (s.onDataReceived ⟨fun _ _ => .success, none⟩ hdr.bytes).1.running = s.running ∧
    (s.onDataReceived ⟨fun _ _ => .success, none⟩ hdr.bytes).1.codec = .init :=
  have hv : ∀ f ∈ ([] : List Frame), f.Valid := by simp
  have hbig : FRAME_MAX_PAYLOAD < (65537 : UInt32).toNat := by decide
  have h : (MuxSession.new 262144).start.codec.buffer ++
      FrameHeader.bytes ⟨FrameType.data.toUInt8, 0, 1, 65537⟩ =
      encodeFrames [] ++ FrameHeader.bytes ⟨FrameType.data.toUInt8, 0, 1, 65537⟩ ++ [] := by
    simp [start, new, FrameCodec.init]
  ⟨hv, hbig, h, onDataReceived_oversize _ _ _ hv hbig [] h⟩

/-- After an oversize `DATA` header, a running session is still running, and a `PING` in its
    next chunk is dispatched and answered with `PONG`. -/
theorem oversize_then_ping :
    let s := (MuxSession.new 262144).start
    let os : OsAnswers := ⟨fun _ _ => .success, none⟩
    let r₁ := s.onDataReceived os (FrameHeader.bytes ⟨FrameType.data.toUInt8, 0, 1, 65537⟩)
    let r₂ := r₁.1.onDataReceived os FrameCodec.buildPing
    r₁.1.running = true ∧ r₂.1.running = true ∧ r₂.2 = [.send FrameCodec.buildPong] := by
  intro s os r₁ r₂
  have hp₁ : parseFrames (s.codec.buffer ++
      FrameHeader.bytes ⟨FrameType.data.toUInt8, 0, 1, 65537⟩) = ([], none) := by
    have := parseFrames_header ⟨FrameType.data.toUInt8, 0, 1, 65537⟩ []
    simpa [s, start, new, FrameCodec.init, FRAME_MAX_PAYLOAD] using this
  obtain ⟨e₁, hb₁⟩ := onDataReceived_of_parseFrames os hp₁
  have hr₁ : r₁.1 = { s with codec := (s.codec.feed
      (FrameHeader.bytes ⟨FrameType.data.toUInt8, 0, 1, 65537⟩)).2 } := by
    simp only [r₁, e₁]; rfl
  have hp₂ : parseFrames (r₁.1.codec.buffer ++ FrameCodec.buildPing) =
      ([⟨⟨FrameType.ping.toUInt8, 0, 0, 0⟩, []⟩], some []) := by
    have hping : (none : Option ByteBuffer).getD [] ++ FrameCodec.buildPing =
        encodeFrames [⟨⟨FrameType.ping.toUInt8, 0, 0, 0⟩, []⟩] ++ [] := rfl
    rw [hr₁, hb₁, hping, parseFrames_encodeFrames (by simp [Frame.Valid, FRAME_MAX_PAYLOAD])]
    simp
  obtain ⟨e₂, -⟩ := onDataReceived_of_parseFrames os hp₂
  refine ⟨by rw [hr₁]; rfl, ?_, ?_⟩ <;> simp only [r₂, e₂] <;> rw [hr₁] <;> rfl

/-- `OnDataReceived` does not look at `m_running`. After `Start` and `Shutdown`, a chunk with a
    `CHANNEL_OPEN` for channel 7 and a `CHANNEL_REQUEST` carrying a SOCKS5 handshake for
    127.0.0.1:80 puts a new channel in the emptied registry and starts its outbound connect;
    only the frames the channel would send are held back by `SendFrame`. -/
theorem data_after_shutdown_opens_channel :
    (MuxSession.new 262144).start.shutdown.running = false ∧
    (((MuxSession.new 262144).start.shutdown.onDataReceived ⟨fun _ _ => .success, none⟩
      (FrameCodec.buildChannelOpen 7 ++
        FrameCodec.buildChannelRequest 7 [5, 1, 0, 5, 1, 0, 1, 127, 0, 0, 1, 0, 80])).1.channels
          7).isSome = true ∧
    ((MuxSession.new 262144).start.shutdown.onDataReceived ⟨fun _ _ => .success, none⟩
      (FrameCodec.buildChannelOpen 7 ++
        FrameCodec.buildChannelRequest 7 [5, 1, 0, 5, 1, 0, 1, 127, 0, 0, 1, 0, 80])).2 =
      [.connect "127.0.0.1" 80] := by
  have hp : parseFrames ((MuxSession.new 262144).start.shutdown.codec.buffer ++
      (FrameCodec.buildChannelOpen 7 ++
        FrameCodec.buildChannelRequest 7 [5, 1, 0, 5, 1, 0, 1, 127, 0, 0, 1, 0, 80])) =
      ([⟨⟨FrameType.channelOpen.toUInt8, 0, 7, 0⟩, []⟩,
        ⟨⟨FrameType.channelRequest.toUInt8, 0, 7, 13⟩, [5, 1, 0, 5, 1, 0, 1, 127, 0, 0, 1, 0, 80]⟩],
        some []) := by
    have hdata : (MuxSession.new 262144).start.shutdown.codec.buffer ++
        (FrameCodec.buildChannelOpen 7 ++
          FrameCodec.buildChannelRequest 7 [5, 1, 0, 5, 1, 0, 1, 127, 0, 0, 1, 0, 80]) =
        encodeFrames [⟨⟨FrameType.channelOpen.toUInt8, 0, 7, 0⟩, []⟩,
          ⟨⟨FrameType.channelRequest.toUInt8, 0, 7, 13⟩, [5, 1, 0, 5, 1, 0, 1, 127, 0, 0, 1, 0, 80]⟩] ++
          [] := rfl
    rw [hdata, parseFrames_encodeFrames (by simp [Frame.Valid, FRAME_MAX_PAYLOAD])]
    simp
  obtain ⟨e, -⟩ := onDataReceived_of_parseFrames ⟨fun _ _ => .success, none⟩ hp
  rw [e]
  decide

/-! ## The disconnect callback -/

/-- The errors `m_on_disconnect` is called with, in order. -/
def disconnectCalls (outs : List SessionOutput) : List ErrorCode :=
  outs.filterMap fun
    | .disconnected ec => some ec
    | _ => none

/-- The transport's disconnect notifications among the events, in order. -/
def disconnectNotices (es : List SessionEvent) : List ErrorCode :=
  es.filterMap fun
    | .transportDisconnected ec => some ec
    | _ => none

@[simp] theorem disconnectCalls_nil : disconnectCalls [] = [] := rfl

@[simp] theorem disconnectCalls_cons_send (b : ByteBuffer) (outs : List SessionOutput) :
    disconnectCalls (.send b :: outs) = disconnectCalls outs := rfl

@[simp] theorem disconnectCalls_cons_connect (host : String) (port : UInt16)
    (outs : List SessionOutput) :
    disconnectCalls (.connect host port :: outs) = disconnectCalls outs := rfl

@[simp] theorem disconnectCalls_cons_disconnected (ec : ErrorCode) (outs : List SessionOutput) :
    disconnectCalls (.disconnected ec :: outs) = ec :: disconnectCalls outs := rfl

@[simp] theorem disconnectCalls_append (xs ys : List SessionOutput) :
    disconnectCalls (xs ++ ys) = disconnectCalls xs ++ disconnectCalls ys :=
  List.filterMap_append ..

section disconnect

variable {s : MuxSession} {os : OsAnswers}

@[simp] theorem disconnectCalls_sendFrame (b : ByteBuffer) : disconnectCalls (s.sendFrame b) = [] := by
  unfold sendFrame; split <;> rfl

@[simp] theorem disconnectCalls_emit (cs : List Call) : disconnectCalls (s.emit cs) = [] := by
  induction cs with
  | nil => rfl
  | cons c cs ih => cases c <;> simp [emit, ih]

theorem disconnectCalls_dispatchFrame (f : Frame) : disconnectCalls (s.dispatchFrame os f).2 = [] := by
  unfold dispatchFrame handleChannelOpen handleChannelRequest handleData handleChannelClose
    handleChannelCloseAck handlePing handleWindowUpdate withChannel
  split <;> (try split) <;> (try split) <;> simp
  split <;> simp

theorem disconnectCalls_dispatchFrames (fs : List Frame) :
    disconnectCalls (s.dispatchFrames os fs).2 = [] := by
  induction fs generalizing s with
  | nil => rfl
  | cons f fs ih => simp [dispatchFrames, disconnectCalls_dispatchFrame, ih]

theorem disconnectCalls_onTargetEvent (id : UInt16) (e : TargetEvent) :
    disconnectCalls (s.onTargetEvent id e).2 = [] := by
  unfold onTargetEvent withChannel; split <;> simp

/-- Once installed, the callback stays installed. -/
theorem step_onDisconnect (h : s.onDisconnect = true) (e : SessionEvent) :
    (s.step e).1.onDisconnect = true := by
  cases e with
  | dataReceived data os =>
    obtain ⟨chs, hd⟩ := dispatchFrames_channels { s with codec := (s.codec.feed data).2 } os
      (s.codec.feed data).1
    simp only [step, onDataReceived, hd]
    exact h
  | target id e =>
    show (s.onTargetEvent id e).1.onDisconnect = true
    unfold onTargetEvent; split <;> exact h
  | shutdown => show s.shutdown.onDisconnect = true; unfold shutdown; split <;> exact h
  | start => rfl
  | transportDisconnected ec => exact h
  | keepalive => exact h

/-- With the callback installed, an event calls it exactly when it is a disconnect notice. -/
theorem step_disconnectCalls (h : s.onDisconnect = true) (e : SessionEvent) :
    disconnectCalls (s.step e).2 = disconnectNotices [e] := by
  cases e with
  | dataReceived data os => exact disconnectCalls_dispatchFrames _
  | transportDisconnected ec => simp [step, onTransportDisconnected, h, disconnectNotices]
  | keepalive => simp only [step, keepalive]; split <;> simp <;> rfl
  | target id e => exact disconnectCalls_onTargetEvent id e
  | _ => rfl

theorem run_disconnectCalls (h : s.onDisconnect = true) (es : List SessionEvent) :
    disconnectCalls (s.run es).2 = disconnectNotices es := by
  induction es generalizing s with
  | nil => rfl
  | cons e es ih =>
    rw [run, disconnectCalls_append, step_disconnectCalls h, ih (step_onDisconnect h e)]
    exact (List.filterMap_append [e] es _).symm

end disconnect

/-- After `Start(cb)`, every disconnect notification from the transport calls `cb`, in every run:
    `OnTransportDisconnected` does not look at `m_running`, so neither an earlier `Shutdown` nor
    an earlier notification stops the call. -/
theorem disconnect_callback_per_notice (W : UInt32) (es : List SessionEvent) :
    disconnectCalls ((MuxSession.new W).start.run es).2 = disconnectNotices es :=
  run_disconnectCalls rfl es

end MuxSession

end ReverseSocks
