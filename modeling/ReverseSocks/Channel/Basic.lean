import ReverseSocks.Mux.Protocol
import ReverseSocks.Socks5.Handler
import ReverseSocks.Tcp.Connection

/-! # The channel state machine

    `channel.cpp`: one multiplexed channel, from `CHANNEL_OPEN` through the SOCKS5 handshake on
    `CHANNEL_REQUEST` frames, the outbound connect, the relay, and the close. Every handler
    returns the channel and the calls it made, in order; `m_session` is left out and the calls
    are what it would receive.

    A completion of the target runs the connection's handler and the channel callback it makes
    as one step, and only when the connection owes it (`onConnectCompletion`,
    `onRecvCompletion`, `onSendCompletion`).
-/

namespace ReverseSocks

/-- `enum class ChannelState`. -/
inductive ChannelState
  | opening
  | requesting
  | connecting
  | relaying
  | closing
  | closed
  deriving DecidableEq, Repr

/-- The session's send helpers a channel calls, with the channel id it passes. -/
inductive MuxCall
  | channelOpenAck (channel_id : UInt16)
  | channelRequestAck (channel_id : UInt16) (data : ByteBuffer)
  | data (channel_id : UInt16) (data : ByteBuffer)
  | channelClose (channel_id : UInt16) (flags : UInt8)
  | channelCloseAck (channel_id : UInt16)
  | windowUpdate (channel_id : UInt16) (increment : UInt32)
  deriving DecidableEq, Repr

/-- What a channel does that the rest of the system sees. -/
inductive Call
  | mux (c : MuxCall)
  | connect (host : String) (port : UInt16)
  deriving DecidableEq, Repr

/-- `class Channel`. `target` is `m_target`, `none` for a null pointer. -/
structure Channel where
  id : UInt16
  state : ChannelState
  socks5Buf : ByteBuffer
  methodDone : Bool
  connectReq : Socks5.ConnectRequest
  target : Option TcpConnection
  sendWindow : UInt32
  recvWindow : UInt32
  recvWindowInitial : UInt32
  recvConsumed : UInt32
  deriving DecidableEq, Repr

namespace Channel

/-- `Channel::Channel(id, session, window_size)`. `m_connect_req` starts as a default request. -/
def new (id : UInt16) (window_size : UInt32) : Channel :=
  ⟨id, .opening, [], false, default, none, window_size, window_size, window_size, 0⟩

/-- `OnOpen`: send `CHANNEL_OPEN_ACK` and wait for the SOCKS5 bytes. -/
def onOpen (ch : Channel) : Channel × List Call :=
  ({ ch with state := .requesting }, [.mux (.channelOpenAck ch.id)])

/-- `SendCloseToMux(flags)`. -/
def sendCloseToMux (ch : Channel) (flags : UInt8) : Call :=
  .mux (.channelClose ch.id flags)

/-- `OnTargetDisconnected`: from `Relaying` or `Connecting` send `CHANNEL_CLOSE(FIN)` and go to
    `Closing`; in any case close the target. -/
def onTargetDisconnected (ch : Channel) (_ec : ErrorCode) : Channel × List Call :=
  if ch.state = .relaying ∨ ch.state = .connecting then
    ({ ch with state := .closing, target := ch.target.map TcpConnection.close },
      [ch.sendCloseToMux FRAME_FLAG_FIN])
  else ({ ch with target := ch.target.map TcpConnection.close }, [])

/-- `OnTargetConnected`: only in `Connecting`. A failure sends the mapped SOCKS5 reply and
    `CHANNEL_CLOSE(RST)` and drops the target; success sends the success reply, enters
    `Relaying` and starts reading, whose `PostRecv` may call `OnTargetDisconnected` at once.
    `post` is that first `WSARecv`'s answer. -/
def onTargetConnected (ch : Channel) (ec : ErrorCode) (post : Option ErrorCode) :
    Channel × List Call :=
  if ch.state ≠ .connecting then (ch, [])
  else if ec ≠ .success then
    ({ ch with state := .closed, target := none },
      [.mux (.channelRequestAck ch.id (Socks5.connectReply (Socks5.errorCodeToSocks5Reply ec))),
        ch.sendCloseToMux FRAME_FLAG_RST])
  else
    let reply := Call.mux (.channelRequestAck ch.id (Socks5.connectReply Socks5.REP_SUCCESS))
    match ch.target with
    | none => ({ ch with state := .relaying }, [reply])
    | some t =>
      let started := t.startReading post
      let ch := { ch with state := .relaying, target := some started.1 }
      match started.2 with
      | none => (ch, [reply])
      | some e => ((ch.onTargetDisconnected e).1, reply :: (ch.onTargetDisconnected e).2)

/-- The CONNECT half of `ProcessSocks5`, on the bytes after the method request. A parsed
    request moves to `Connecting` and starts the connect; a synchronous failure of
    `ConnectAsync` goes straight to `OnTargetConnected`. -/
def processConnect (ch : Channel) (net : Network) : Channel × List Call :=
  if ch.socks5Buf = [] then (ch, [])
  else
    let parsed := Socks5.parseConnectRequest ch.socks5Buf ch.connectReq
    let ch := { ch with connectReq := parsed.2 }
    if parsed.1 = 0 then (ch, [])
    else if parsed.1 < 0 then
      ({ ch with state := .closed },
        [.mux (.channelRequestAck ch.id (Socks5.connectReply Socks5.REP_GENERAL_FAILURE)),
          ch.sendCloseToMux FRAME_FLAG_RST])
    else
      let req := parsed.2
      let started := TcpConnection.init.connectAsync (net req.host req.port)
      let ch := { ch with
        socks5Buf := ch.socks5Buf.drop parsed.1.toNat
        state := .connecting
        target := some started.1 }
      if started.2 ≠ .success then
        ((ch.onTargetConnected started.2 none).1,
          .connect req.host req.port :: (ch.onTargetConnected started.2 none).2)
      else (ch, [.connect req.host req.port])

/-- `ProcessSocks5`: the method request first, while `m_method_done` is unset; a refused
    method replies `05 FF` and closes with `RST`. -/
def processSocks5 (ch : Channel) (net : Network) : Channel × List Call :=
  if ch.methodDone then ch.processConnect net
  else
    let parsed := Socks5.parseMethodRequest ch.socks5Buf
    if parsed.1 = 0 then (ch, [])
    else if parsed.1 < 0 ∨ parsed.2 = false then
      ({ ch with state := .closed },
        [.mux (.channelRequestAck ch.id (Socks5.buildMethodResponse Socks5.AUTH_NO_ACCEPTABLE)),
          ch.sendCloseToMux FRAME_FLAG_RST])
    else
      let reply := Call.mux (.channelRequestAck ch.id (Socks5.buildMethodResponse Socks5.AUTH_NONE))
      let ch := { ch with socks5Buf := ch.socks5Buf.drop parsed.1.toNat, methodDone := true }
      ((ch.processConnect net).1, reply :: (ch.processConnect net).2)

/-- `OnRequest`: outside `Requesting` the payload is ignored; otherwise it is appended to the
    SOCKS5 buffer, which is then processed. -/
def onRequest (ch : Channel) (data : ByteBuffer) (net : Network) : Channel × List Call :=
  if ch.state ≠ .requesting then (ch, [])
  else { ch with socks5Buf := ch.socks5Buf ++ data }.processSocks5 net

/-- `OnData`: outside `Relaying` the payload is dropped. Otherwise count it, forward it to the
    target (`wsa` answers the `WSASend` that may follow), and once half the initial receive
    window is consumed send `WINDOW_UPDATE` for the consumed amount and reset the count. -/
def onData (ch : Channel) (data : ByteBuffer) (wsa : Option ErrorCode) : Channel × List Call :=
  if ch.state ≠ .relaying then (ch, [])
  else
    let consumed := ch.recvConsumed + UInt32.ofNat data.length
    let ch := { ch with
      recvConsumed := consumed
      target := ch.target.map fun t => (t.send data wsa).1 }
    if ch.recvWindowInitial / 2 ≤ consumed then
      ({ ch with recvWindow := ch.recvWindow + consumed, recvConsumed := 0 },
        [.mux (.windowUpdate ch.id consumed)])
    else (ch, [])

/-- `OnWindowUpdate`: `m_send_window += increment`, modulo `2^32`. -/
def onWindowUpdate (ch : Channel) (increment : UInt32) : Channel :=
  { ch with sendWindow := ch.sendWindow + increment }

/-- `OnClose`: send `CHANNEL_CLOSE_ACK`, close and drop the target, and go to `Closed`. -/
def onClose (ch : Channel) (_flags : UInt8) : Channel × List Call :=
  ({ ch with state := .closed, target := none }, [.mux (.channelCloseAck ch.id)])

/-- The size of the next chunk `SendToMux` sends out of `len` bytes with send window `window`:
    at most `FRAME_MAX_PAYLOAD`, and clamped to the window only while it is positive. -/
def chunkSize (window : UInt32) (len : Nat) : Nat :=
  if 0 < window then min (min len FRAME_MAX_PAYLOAD) window.toNat
  else min len FRAME_MAX_PAYLOAD

theorem chunkSize_pos (window : UInt32) {len : Nat} (h : 0 < len) : 0 < chunkSize window len := by
  unfold chunkSize FRAME_MAX_PAYLOAD
  split
  · next hw => exact Nat.lt_min.mpr ⟨Nat.lt_min.mpr ⟨h, by decide⟩, hw⟩
  · exact Nat.lt_min.mpr ⟨h, by decide⟩

/-- The `while (offset < len)` loop of `SendToMux` on the bytes from `offset` on: send a chunk
    as `DATA`, charge it to the window if the window is positive, go on. It returns the window
    afterwards and the calls. -/
def sendToMuxLoop (id : UInt16) (window : UInt32) : ByteBuffer → UInt32 × List Call
  | [] => (window, [])
  | b :: bs =>
    let chunk := chunkSize window (b :: bs).length
    let charged := if 0 < window then window - UInt32.ofNat chunk else window
    let rest := sendToMuxLoop id charged ((b :: bs).drop chunk)
    (rest.1, .mux (.data id ((b :: bs).take chunk)) :: rest.2)
termination_by data => data.length
decreasing_by
  have := chunkSize_pos window (List.length_pos.mpr (List.cons_ne_nil b bs))
  simp_wf
  simp only [List.length_cons] at this ⊢
  omega

/-- `SendToMux`. -/
def sendToMux (ch : Channel) (data : ByteBuffer) : Channel × List Call :=
  let r := sendToMuxLoop ch.id ch.sendWindow data
  ({ ch with sendWindow := r.1 }, r.2)

/-- `OnTargetData`: only in `Relaying`. -/
def onTargetData (ch : Channel) (data : ByteBuffer) : Channel × List Call :=
  if ch.state ≠ .relaying then (ch, []) else ch.sendToMux data

/-- `ForceClose`: nothing once `Closed`; otherwise close and drop the target. -/
def forceClose (ch : Channel) : Channel :=
  if ch.state = .closed then ch else { ch with state := .closed, target := none }

/-! ## What each handler does, case by case -/

section spec

variable {ch : Channel} {net : Network}

theorem onTargetDisconnected_active {e : ErrorCode}
    (h : ch.state = .relaying ∨ ch.state = .connecting) :
    ch.onTargetDisconnected e = ({ ch with
      state := .closing, target := ch.target.map TcpConnection.close },
        [ch.sendCloseToMux FRAME_FLAG_FIN]) := by
  simp [onTargetDisconnected, h]

theorem onTargetDisconnected_idle {e : ErrorCode}
    (h : ¬ (ch.state = .relaying ∨ ch.state = .connecting)) :
    ch.onTargetDisconnected e = ({ ch with target := ch.target.map TcpConnection.close }, []) := by
  simp only [onTargetDisconnected, if_neg h]

theorem onTargetConnected_idle {ec : ErrorCode} {post : Option ErrorCode}
    (h : ch.state ≠ .connecting) : ch.onTargetConnected ec post = (ch, []) := by
  simp [onTargetConnected, h]

theorem onTargetConnected_failure {ec : ErrorCode} {post : Option ErrorCode}
    (h : ch.state = .connecting) (hec : ec ≠ .success) :
    ch.onTargetConnected ec post = ({ ch with state := .closed, target := none },
      [.mux (.channelRequestAck ch.id (Socks5.connectReply (Socks5.errorCodeToSocks5Reply ec))),
        ch.sendCloseToMux FRAME_FLAG_RST]) := by
  simp [onTargetConnected, h, hec]

/-- A successful connect whose first read is posted. -/
theorem onTargetConnected_reading {t : TcpConnection} {post : Option ErrorCode}
    (h : ch.state = .connecting) (ht : ch.target = some t) (hp : (t.startReading post).2 = none) :
    ch.onTargetConnected .success post =
      ({ ch with state := .relaying, target := some (t.startReading post).1 },
        [.mux (.channelRequestAck ch.id (Socks5.connectReply Socks5.REP_SUCCESS))]) := by
  simp [onTargetConnected, h, ht, hp]

/-- A successful connect whose first read fails at once. -/
theorem onTargetConnected_lost {t : TcpConnection} {post : Option ErrorCode} {e : ErrorCode}
    (h : ch.state = .connecting) (ht : ch.target = some t) (hp : (t.startReading post).2 = some e) :
    ch.onTargetConnected .success post =
      ({ ch with state := .closing, target := some (t.startReading post).1.close },
        [.mux (.channelRequestAck ch.id (Socks5.connectReply Socks5.REP_SUCCESS)),
          ch.sendCloseToMux FRAME_FLAG_FIN]) := by
  simp [onTargetConnected, h, ht, hp, onTargetDisconnected, sendCloseToMux]

section connect

variable {p : Int × Socks5.ConnectRequest}

theorem processConnect_empty (h : ch.socks5Buf = []) : ch.processConnect net = (ch, []) := by
  simp [processConnect, h]

theorem processConnect_wait (hb : ch.socks5Buf ≠ [])
    (hp : Socks5.parseConnectRequest ch.socks5Buf ch.connectReq = p) (h0 : p.1 = 0) :
    ch.processConnect net = ({ ch with connectReq := p.2 }, []) := by
  simp [processConnect, hb, hp, h0]

theorem processConnect_malformed (hb : ch.socks5Buf ≠ [])
    (hp : Socks5.parseConnectRequest ch.socks5Buf ch.connectReq = p) (hneg : p.1 < 0) :
    ch.processConnect net = ({ ch with connectReq := p.2, state := .closed },
      [.mux (.channelRequestAck ch.id (Socks5.connectReply Socks5.REP_GENERAL_FAILURE)),
        ch.sendCloseToMux FRAME_FLAG_RST]) := by
  simp [processConnect, hb, hp, hneg, Int.ne_of_lt hneg, sendCloseToMux]

/-- A parsed request whose connect is under way. -/
theorem processConnect_started (hb : ch.socks5Buf ≠ [])
    (hp : Socks5.parseConnectRequest ch.socks5Buf ch.connectReq = p) (hpos : 0 < p.1)
    (hnet : net p.2.host p.2.port = .success) :
    ch.processConnect net = ({ ch with
      connectReq := p.2, socks5Buf := ch.socks5Buf.drop p.1.toNat, state := .connecting,
        target := some (TcpConnection.init.connectAsync .success).1 },
      [.connect p.2.host p.2.port]) := by
  simp [processConnect, hb, hp, Int.ne_of_gt hpos, Int.not_lt.mpr hpos.le, hnet,
    TcpConnection.connectAsync]

/-- A parsed request whose `ConnectAsync` fails at once. -/
theorem processConnect_refused (hb : ch.socks5Buf ≠ [])
    (hp : Socks5.parseConnectRequest ch.socks5Buf ch.connectReq = p) (hpos : 0 < p.1)
    (hnet : net p.2.host p.2.port ≠ .success) :
    ch.processConnect net = ({ ch with
      connectReq := p.2, socks5Buf := ch.socks5Buf.drop p.1.toNat, state := .closed,
        target := none },
      [.connect p.2.host p.2.port,
        .mux (.channelRequestAck ch.id
          (Socks5.connectReply (Socks5.errorCodeToSocks5Reply (net p.2.host p.2.port)))),
        ch.sendCloseToMux FRAME_FLAG_RST]) := by
  simp [processConnect, hb, hp, Int.ne_of_gt hpos, Int.not_lt.mpr hpos.le, hnet,
    TcpConnection.connectAsync, onTargetConnected, sendCloseToMux]

end connect

section method

variable {p : Int × Bool}

theorem processSocks5_methodDone (h : ch.methodDone = true) :
    ch.processSocks5 net = ch.processConnect net := by
  simp [processSocks5, h]

theorem processSocks5_wait (h : ch.methodDone = false)
    (hp : Socks5.parseMethodRequest ch.socks5Buf = p) (h0 : p.1 = 0) :
    ch.processSocks5 net = (ch, []) := by
  simp [processSocks5, h, hp, h0]

theorem processSocks5_refused (h : ch.methodDone = false)
    (hp : Socks5.parseMethodRequest ch.socks5Buf = p) (h0 : p.1 ≠ 0) (hr : p.1 < 0 ∨ p.2 = false) :
    ch.processSocks5 net = ({ ch with state := .closed },
      [.mux (.channelRequestAck ch.id (Socks5.buildMethodResponse Socks5.AUTH_NO_ACCEPTABLE)),
        ch.sendCloseToMux FRAME_FLAG_RST]) := by
  simp only [processSocks5, h, hp, h0, hr, if_false, if_true]; rfl

theorem processSocks5_accepted (h : ch.methodDone = false)
    (hp : Socks5.parseMethodRequest ch.socks5Buf = p) (hpos : 0 < p.1) (hna : p.2 = true) :
    ch.processSocks5 net =
      (({ ch with socks5Buf := ch.socks5Buf.drop p.1.toNat, methodDone := true }.processConnect net).1,
        .mux (.channelRequestAck ch.id (Socks5.buildMethodResponse Socks5.AUTH_NONE)) ::
          ({ ch with
            socks5Buf := ch.socks5Buf.drop p.1.toNat, methodDone := true }.processConnect net).2) := by
  simp [processSocks5, h, hp, Int.ne_of_gt hpos, Int.not_lt.mpr hpos.le, hna]

end method

/-- `OnData` moves no state and changes the target only by sending to it, in `Relaying`. -/
theorem onData_fields {data : ByteBuffer} {wsa : Option ErrorCode} :
    (ch.onData data wsa).1.id = ch.id ∧ (ch.onData data wsa).1.state = ch.state ∧
      (ch.onData data wsa).1.methodDone = ch.methodDone ∧
      (ch.onData data wsa).1.target = if ch.state = .relaying
        then ch.target.map (fun t => (t.send data wsa).1) else ch.target := by
  simp only [onData]; split_ifs <;> simp_all

/-- `OnData` sends at most a `WINDOW_UPDATE` for the channel, and only in `Relaying`. -/
theorem onData_calls {data : ByteBuffer} {wsa : Option ErrorCode} :
    (ch.onData data wsa).2 = [] ∨
      ch.state = .relaying ∧ ∃ n, (ch.onData data wsa).2 = [.mux (.windowUpdate ch.id n)] := by
  simp only [onData]; split_ifs with hs
  · exact .inl rfl
  · exact .inr ⟨not_not.mp hs, _, rfl⟩
  · exact .inl rfl

/-- `OnTargetData` changes the send window only. -/
theorem onTargetData_fst {data : ByteBuffer} :
    (ch.onTargetData data).1 = { ch with sendWindow := (ch.onTargetData data).1.sendWindow } := by
  simp only [onTargetData, sendToMux]; split_ifs <;> rfl

theorem onRequest_ignored {data : ByteBuffer} (h : ch.state ≠ .requesting) :
    ch.onRequest data net = (ch, []) := by
  simp [onRequest, h]

theorem onRequest_requesting {data : ByteBuffer} (h : ch.state = .requesting) :
    ch.onRequest data net = { ch with socks5Buf := ch.socks5Buf ++ data }.processSocks5 net := by
  simp [onRequest, h]

/-- Everything `OnTargetConnected` can do. -/
theorem onTargetConnected_cases {ec : ErrorCode} {post : Option ErrorCode} :
    (ch.state ≠ .connecting ∧ ch.onTargetConnected ec post = (ch, [])) ∨
    (ch.state = .connecting ∧ ec ≠ .success ∧ ch.onTargetConnected ec post =
      ({ ch with state := .closed, target := none },
        [.mux (.channelRequestAck ch.id (Socks5.connectReply (Socks5.errorCodeToSocks5Reply ec))),
          ch.sendCloseToMux FRAME_FLAG_RST])) ∨
    (ch.state = .connecting ∧ ec = .success ∧ ch.target = none ∧
      ch.onTargetConnected ec post = ({ ch with state := .relaying },
        [.mux (.channelRequestAck ch.id (Socks5.connectReply Socks5.REP_SUCCESS))])) ∨
    (∃ t, ch.state = .connecting ∧ ec = .success ∧ ch.target = some t ∧
      (t.startReading post).2 = none ∧ ch.onTargetConnected ec post =
        ({ ch with state := .relaying, target := some (t.startReading post).1 },
          [.mux (.channelRequestAck ch.id (Socks5.connectReply Socks5.REP_SUCCESS))])) ∨
    (∃ t e, ch.state = .connecting ∧ ec = .success ∧ ch.target = some t ∧
      (t.startReading post).2 = some e ∧ ch.onTargetConnected ec post =
        ({ ch with state := .closing, target := some (t.startReading post).1.close },
          [.mux (.channelRequestAck ch.id (Socks5.connectReply Socks5.REP_SUCCESS)),
            ch.sendCloseToMux FRAME_FLAG_FIN])) := by
  by_cases hs : ch.state = .connecting
  · by_cases hec : ec = .success
    · subst hec
      rcases ht : ch.target with _ | t
      · exact .inr (.inr (.inl ⟨hs, rfl, rfl, by simp [onTargetConnected, hs, ht]⟩))
      rcases hp : (t.startReading post).2 with _ | e
      · exact .inr (.inr (.inr (.inl ⟨t, hs, rfl, rfl, hp, onTargetConnected_reading hs ht hp⟩)))
      · exact .inr (.inr (.inr (.inr ⟨t, e, hs, rfl, rfl, hp, onTargetConnected_lost hs ht hp⟩)))
    · exact .inr (.inl ⟨hs, hec, onTargetConnected_failure hs hec⟩)
  · exact .inl ⟨hs, onTargetConnected_idle hs⟩

/-- Everything the CONNECT half of `ProcessSocks5` can do. -/
theorem processConnect_cases :
    ch.processConnect net = (ch, []) ∨
    ∃ p : Int × Socks5.ConnectRequest, Socks5.parseConnectRequest ch.socks5Buf ch.connectReq = p ∧
      ch.socks5Buf ≠ [] ∧
      ((p.1 = 0 ∧ ch.processConnect net = ({ ch with connectReq := p.2 }, [])) ∨
       (p.1 < 0 ∧ ch.processConnect net = ({ ch with connectReq := p.2, state := .closed },
          [.mux (.channelRequestAck ch.id (Socks5.connectReply Socks5.REP_GENERAL_FAILURE)),
            ch.sendCloseToMux FRAME_FLAG_RST])) ∨
       (0 < p.1 ∧ net p.2.host p.2.port = .success ∧ ch.processConnect net = ({ ch with
          connectReq := p.2, socks5Buf := ch.socks5Buf.drop p.1.toNat, state := .connecting,
            target := some (TcpConnection.init.connectAsync .success).1 },
          [.connect p.2.host p.2.port])) ∨
       (0 < p.1 ∧ net p.2.host p.2.port ≠ .success ∧ ch.processConnect net = ({ ch with
          connectReq := p.2, socks5Buf := ch.socks5Buf.drop p.1.toNat, state := .closed,
            target := none },
          [.connect p.2.host p.2.port,
            .mux (.channelRequestAck ch.id
              (Socks5.connectReply (Socks5.errorCodeToSocks5Reply (net p.2.host p.2.port)))),
            ch.sendCloseToMux FRAME_FLAG_RST]))) := by
  by_cases hb : ch.socks5Buf = []
  · exact .inl (processConnect_empty hb)
  refine .inr ⟨_, rfl, hb, ?_⟩
  rcases lt_trichotomy (Socks5.parseConnectRequest ch.socks5Buf ch.connectReq).1 0 with h | h | h
  · exact .inr (.inl ⟨h, processConnect_malformed hb rfl h⟩)
  · exact .inl ⟨h, processConnect_wait hb rfl h⟩
  · by_cases hnet : net (Socks5.parseConnectRequest ch.socks5Buf ch.connectReq).2.host
        (Socks5.parseConnectRequest ch.socks5Buf ch.connectReq).2.port = .success
    · exact .inr (.inr (.inl ⟨h, hnet, processConnect_started hb rfl h hnet⟩))
    · exact .inr (.inr (.inr ⟨h, hnet, processConnect_refused hb rfl h hnet⟩))

/-- Everything `ProcessSocks5` can do. -/
theorem processSocks5_cases :
    (ch.methodDone = true ∧ ch.processSocks5 net = ch.processConnect net) ∨
    (ch.methodDone = false ∧ ch.processSocks5 net = (ch, [])) ∨
    (ch.methodDone = false ∧ ch.processSocks5 net = ({ ch with state := .closed },
      [.mux (.channelRequestAck ch.id (Socks5.buildMethodResponse Socks5.AUTH_NO_ACCEPTABLE)),
        ch.sendCloseToMux FRAME_FLAG_RST])) ∨
    (∃ n, ch.methodDone = false ∧ ch.processSocks5 net =
      (({ ch with socks5Buf := ch.socks5Buf.drop n, methodDone := true }.processConnect net).1,
        .mux (.channelRequestAck ch.id (Socks5.buildMethodResponse Socks5.AUTH_NONE)) ::
          ({ ch with socks5Buf := ch.socks5Buf.drop n, methodDone := true }.processConnect net).2)) := by
  by_cases hm : ch.methodDone = true
  · exact .inl ⟨hm, processSocks5_methodDone hm⟩
  replace hm : ch.methodDone = false := by simpa using hm
  obtain ⟨p, hp⟩ : ∃ p, Socks5.parseMethodRequest ch.socks5Buf = p := ⟨_, rfl⟩
  by_cases h0 : p.1 = 0
  · exact .inr (.inl ⟨hm, processSocks5_wait hm hp h0⟩)
  by_cases hr : p.1 < 0 ∨ p.2 = false
  · exact .inr (.inr (.inl ⟨hm, processSocks5_refused hm hp h0 hr⟩))
  · simp only [not_or, Bool.not_eq_false] at hr
    exact .inr (.inr (.inr ⟨_, hm, processSocks5_accepted hm hp (by omega) hr.2⟩))

end spec

/-! ## Completions of the target's I/O -/

/-- The connect completion: `m_connected` on success, then `OnTargetConnected`. -/
def onConnectCompletion (ch : Channel) (ec : ErrorCode) (post : Option ErrorCode) :
    Channel × List Call :=
  match ch.target with
  | some t =>
    if t.connectPending then { ch with target := some (t.connectComplete ec) }.onTargetConnected ec post
    else (ch, [])
  | none => (ch, [])

/-- The rest of a data completion once `OnTargetData` returned: `if (m_reading) PostRecv()`,
    whose immediate failure calls `OnTargetDisconnected`. -/
def afterTargetData (ch : Channel) (post : Option ErrorCode) : Channel × List Call :=
  match ch.target with
  | some t =>
    let a := t.afterData post
    let ch := { ch with target := some a.1 }
    match a.2 with
    | none => (ch, [])
    | some e => ch.onTargetDisconnected e
  | none => (ch, [])

/-- `on_data(bytes)` made by a receive completion, that is `OnTargetData`, and then the rest of
    `OnRecvComplete`. -/
def onDataUpcall (ch : Channel) (bytes : ByteBuffer) (post : Option ErrorCode) : Channel × List Call :=
  let d := ch.onTargetData bytes
  ((d.1.afterTargetData post).1, d.2 ++ (d.1.afterTargetData post).2)

/-- A receive completion: `OnRecvComplete`, with its upcall to `OnTargetDisconnected` or to
    `OnTargetData` and, after the latter, the next `PostRecv`. -/
def onRecvCompletion (ch : Channel) (bytes : ByteBuffer) (ec : ErrorCode) (post : Option ErrorCode) :
    Channel × List Call :=
  match ch.target with
  | some t =>
    if t.recvPending then
      let r := t.recvComplete bytes ec
      let ch := { ch with target := some r.1 }
      match r.2 with
      | .disconnect e => ch.onTargetDisconnected e
      | .data b => ch.onDataUpcall b post
    else (ch, [])
  | none => (ch, [])

/-- A send completion: `OnSendComplete`, which makes no call into the channel. -/
def onSendCompletion (ch : Channel) (ec : ErrorCode) (wsa : Option ErrorCode) : Channel :=
  match ch.target with
  | some t => if t.sendPending then { ch with target := some (t.sendComplete ec wsa) } else ch
  | none => ch

section completions

variable {ch : Channel} {t : TcpConnection} {ec : ErrorCode} {post : Option ErrorCode}

theorem onConnectCompletion_owed (ht : ch.target = some t) (hp : t.connectPending = true) :
    ch.onConnectCompletion ec post =
      { ch with target := some (t.connectComplete ec) }.onTargetConnected ec post := by
  simp [onConnectCompletion, ht, hp]

theorem onConnectCompletion_not_owed (h : ∀ t, ch.target = some t → t.connectPending = false) :
    ch.onConnectCompletion ec post = (ch, []) := by
  unfold onConnectCompletion; split
  · next t ht => simp [h t ht]
  · rfl

theorem afterTargetData_posted (ht : ch.target = some t) (hp : (t.afterData post).2 = none) :
    ch.afterTargetData post = ({ ch with target := some (t.afterData post).1 }, []) := by
  simp [afterTargetData, ht, hp]

theorem afterTargetData_lost {e : ErrorCode} (ht : ch.target = some t)
    (hp : (t.afterData post).2 = some e) :
    ch.afterTargetData post =
      { ch with target := some (t.afterData post).1 }.onTargetDisconnected e := by
  simp [afterTargetData, ht, hp]

theorem afterTargetData_none (ht : ch.target = none) : ch.afterTargetData post = (ch, []) := by
  simp [afterTargetData, ht]

theorem onRecvCompletion_not_owed {bytes : ByteBuffer}
    (h : ∀ t, ch.target = some t → t.recvPending = false) :
    ch.onRecvCompletion bytes ec post = (ch, []) := by
  unfold onRecvCompletion; split
  · next t ht => simp [h t ht]
  · rfl

theorem onRecvCompletion_disconnect {bytes : ByteBuffer} {e : ErrorCode} (ht : ch.target = some t)
    (hp : t.recvPending = true) (hr : (t.recvComplete bytes ec).2 = .disconnect e) :
    ch.onRecvCompletion bytes ec post =
      { ch with target := some (t.recvComplete bytes ec).1 }.onTargetDisconnected e := by
  simp [onRecvCompletion, ht, hp, hr]

theorem onRecvCompletion_data {bytes b : ByteBuffer} (ht : ch.target = some t)
    (hp : t.recvPending = true) (hr : (t.recvComplete bytes ec).2 = .data b) :
    ch.onRecvCompletion bytes ec post =
      { ch with target := some (t.recvComplete bytes ec).1 }.onDataUpcall b post := by
  simp [onRecvCompletion, ht, hp, hr]

theorem onSendCompletion_owed {wsa : Option ErrorCode} (ht : ch.target = some t)
    (hp : t.sendPending = true) :
    ch.onSendCompletion ec wsa = { ch with target := some (t.sendComplete ec wsa) } := by
  simp [onSendCompletion, ht, hp]

theorem onSendCompletion_not_owed {wsa : Option ErrorCode}
    (h : ∀ t, ch.target = some t → t.sendPending = false) : ch.onSendCompletion ec wsa = ch := by
  unfold onSendCompletion; split
  · next t ht => simp [h t ht]
  · rfl

/-- Everything a connect completion can do. -/
theorem onConnectCompletion_cases :
    ch.onConnectCompletion ec post = (ch, []) ∨
    ∃ t, ch.target = some t ∧ t.connectPending = true ∧ ch.onConnectCompletion ec post =
      { ch with target := some (t.connectComplete ec) }.onTargetConnected ec post := by
  rcases ht : ch.target with _ | t
  · exact .inl (onConnectCompletion_not_owed (by simp [ht]))
  by_cases hp : t.connectPending = true
  · exact .inr ⟨t, rfl, hp, onConnectCompletion_owed ht hp⟩
  · exact .inl (onConnectCompletion_not_owed (by simp [ht, hp]))

/-- Everything the end of a data completion can do. -/
theorem afterTargetData_cases :
    ch.afterTargetData post = (ch, []) ∨
    (∃ t, ch.target = some t ∧
      ch.afterTargetData post = ({ ch with target := some (t.afterData post).1 }, [])) ∨
    ∃ t e, ch.target = some t ∧ ch.afterTargetData post =
      { ch with target := some (t.afterData post).1 }.onTargetDisconnected e := by
  rcases ht : ch.target with _ | t
  · exact .inl (afterTargetData_none ht)
  rcases hp : (t.afterData post).2 with _ | e
  · exact .inr (.inl ⟨t, rfl, afterTargetData_posted ht hp⟩)
  · exact .inr (.inr ⟨t, e, rfl, afterTargetData_lost ht hp⟩)

/-- Everything a receive completion can do. -/
theorem onRecvCompletion_cases {bytes : ByteBuffer} :
    ch.onRecvCompletion bytes ec post = (ch, []) ∨
    ∃ t, ch.target = some t ∧ t.recvPending = true ∧
      ((∃ e, ch.onRecvCompletion bytes ec post =
          { ch with target := some (t.recvComplete bytes ec).1 }.onTargetDisconnected e) ∨
       (∃ b, ch.onRecvCompletion bytes ec post =
          { ch with target := some (t.recvComplete bytes ec).1 }.onDataUpcall b post)) := by
  rcases ht : ch.target with _ | t
  · exact .inl (onRecvCompletion_not_owed (by simp [ht]))
  by_cases hp : t.recvPending = true
  · refine .inr ⟨t, rfl, hp, ?_⟩
    rcases hr : (t.recvComplete bytes ec).2 with b | e
    · exact .inr ⟨b, onRecvCompletion_data ht hp hr⟩
    · exact .inl ⟨e, onRecvCompletion_disconnect ht hp hr⟩
  · exact .inl (onRecvCompletion_not_owed (by simp [ht, hp]))

/-- Everything a send completion can do. -/
theorem onSendCompletion_cases {wsa : Option ErrorCode} :
    ch.onSendCompletion ec wsa = ch ∨
    ∃ t, ch.target = some t ∧ ch.onSendCompletion ec wsa =
      { ch with target := some (t.sendComplete ec wsa) } := by
  rcases ht : ch.target with _ | t
  · exact .inl (onSendCompletion_not_owed (by simp [ht]))
  by_cases hp : t.sendPending = true
  · exact .inr ⟨t, rfl, onSendCompletion_owed ht hp⟩
  · exact .inl (onSendCompletion_not_owed (by simp [ht, hp]))

theorem forceClose_cases :
    ch.forceClose = ch ∨ ch.forceClose = { ch with state := .closed, target := none } := by
  unfold forceClose; split_ifs
  · exact .inl rfl
  · exact .inr rfl

end completions

end Channel

/-! ## Runs -/

/-- What reaches a live channel: the session's calls for `CHANNEL_REQUEST`, `DATA` and
    `WINDOW_UPDATE` frames, and the completions of its target's I/O, each with the operating
    system's answers to the calls its handler makes. -/
inductive ChannelEvent
  | request (data : ByteBuffer)
  | data (data : ByteBuffer) (wsa : Option ErrorCode)
  | windowUpdate (increment : UInt32)
  | connectComplete (ec : ErrorCode) (post : Option ErrorCode)
  | recvComplete (bytes : ByteBuffer) (ec : ErrorCode) (post : Option ErrorCode)
  | sendComplete (ec : ErrorCode) (wsa : Option ErrorCode)
  deriving DecidableEq, Repr

/-- What ends a channel's life in its session: `OnClose` for `CHANNEL_CLOSE`, after which the
    session removes it (it is then `Closed`), and `ForceClose` for `CHANNEL_CLOSE_ACK`, shutdown,
    transport loss or replacement, after which it is removed or destroyed. -/
inductive ChannelEnd
  | close (flags : UInt8)
  | forceClose
  deriving DecidableEq, Repr

namespace Channel

/-- One event. -/
def step (net : Network) (ch : Channel) : ChannelEvent → Channel × List Call
  | .request data => ch.onRequest data net
  | .data data wsa => ch.onData data wsa
  | .windowUpdate increment => (ch.onWindowUpdate increment, [])
  | .connectComplete ec post => ch.onConnectCompletion ec post
  | .recvComplete bytes ec post => ch.onRecvCompletion bytes ec post
  | .sendComplete ec wsa => (ch.onSendCompletion ec wsa, [])

/-- An ending. -/
def finish (ch : Channel) : ChannelEnd → Channel × List Call
  | .close flags => ch.onClose flags
  | .forceClose => (ch.forceClose, [])

/-- Any input, live or ending. -/
def handle (net : Network) (ch : Channel) : ChannelEvent ⊕ ChannelEnd → Channel × List Call
  | .inl e => ch.step net e
  | .inr e => ch.finish e

/-- Inputs in order; the channel afterwards and the calls of all of them. -/
def run (net : Network) (ch : Channel) : List (ChannelEvent ⊕ ChannelEnd) → Channel × List Call
  | [] => (ch, [])
  | x :: xs => ((run net (ch.handle net x).1 xs).1,
      (ch.handle net x).2 ++ (run net (ch.handle net x).1 xs).2)

/-- A channel's life in its session: created and opened for `CHANNEL_OPEN`, then live events,
    then at most one ending, after which the session no longer holds it. The channel at the
    end, and every call it made. -/
def life (net : Network) (id : UInt16) (window_size : UInt32) (evs : List ChannelEvent)
    (last : Option ChannelEnd) : Channel × List Call :=
  let opened := (Channel.new id window_size).onOpen
  let r := run net opened.1 (evs.map .inl ++ last.toList.map .inr)
  (r.1, opened.2 ++ r.2)

theorem run_append (net : Network) (ch : Channel) (xs ys : List (ChannelEvent ⊕ ChannelEnd)) :
    run net ch (xs ++ ys) =
      ((run net (run net ch xs).1 ys).1, (run net ch xs).2 ++ (run net (run net ch xs).1 ys).2) := by
  induction xs generalizing ch with
  | nil => rfl
  | cons x xs ih => simp [run, ih]

end Channel

end ReverseSocks
