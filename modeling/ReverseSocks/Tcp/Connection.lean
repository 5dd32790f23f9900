import ReverseSocks.Basic

/-! # The outbound TCP connection

    `tcp_connection.cpp`: an overlapped socket with a connect, a read pump and a send queue.
    Three flags more than the class record the operations the completion port still owes
    (`connectPending`, `recvPending`, `sendPending`). What the system answers is input. A
    callback into the owner is returned rather than called, and the owner runs it and then the
    rest of the completion handler.
-/

namespace ReverseSocks

/-- `class TcpConnection`, with the owed completions. `socket` is `m_socket != INVALID_SOCKET`. -/
structure TcpConnection where
  socket : Bool
  connected : Bool
  reading : Bool
  sendInProgress : Bool
  sendQueue : List ByteBuffer
  connectPending : Bool
  recvPending : Bool
  sendPending : Bool
  deriving DecidableEq, Repr

/-- What a receive completion passes to its owner. -/
inductive RecvUpcall
  | data (bytes : ByteBuffer)
  | disconnect (ec : ErrorCode)
  deriving DecidableEq, Repr

namespace TcpConnection

/-- `TcpConnection::TcpConnection`. -/
def init : TcpConnection :=
  ⟨false, false, false, false, [], false, false, false⟩

/-- `ConnectAsync`, given the synchronous outcome `ec` of resolution, socket creation, bind and
    `ConnectEx`. On success a connect completion is owed; every failure path leaves the socket
    closed. -/
def connectAsync (t : TcpConnection) (ec : ErrorCode) : TcpConnection × ErrorCode :=
  if ec = .success then ({ t with socket := true, connectPending := true }, .success)
  else ({ t with socket := false }, ec)

/-- The connect completion's callback, before it calls `m_on_connected(ec)`. -/
def connectComplete (t : TcpConnection) (ec : ErrorCode) : TcpConnection :=
  { t with connectPending := false, connected := t.connected || ec == .success }

/-- `PostRecv`: post a receive if connected and reading. `post` is `WSARecv`'s answer; on an
    immediate failure it clears `m_reading` and calls `on_disconnect`, whose error it returns. -/
def postRecv (t : TcpConnection) (post : Option ErrorCode) : TcpConnection × Option ErrorCode :=
  if t.connected && t.reading then
    match post with
    | none => ({ t with recvPending := true }, none)
    | some e => ({ t with reading := false }, some e)
  else (t, none)

/-- `StartReading`: set `m_reading`, then `PostRecv`. -/
def startReading (t : TcpConnection) (post : Option ErrorCode) : TcpConnection × Option ErrorCode :=
  postRecv { t with reading := true } post

/-- `OnRecvComplete` up to its upcall: a zero-byte or failed read clears `m_reading` and is a
    disconnect (`ConnectionReset` for a clean close); otherwise the bytes go to `on_data`. -/
def recvComplete (t : TcpConnection) (bytes : ByteBuffer) (ec : ErrorCode) :
    TcpConnection × RecvUpcall :=
  let t := { t with recvPending := false }
  if ec ≠ .success ∨ bytes = [] then
    ({ t with reading := false },
      .disconnect (if ec = .success then .connectionReset else ec))
  else (t, .data bytes)

/-- The end of `OnRecvComplete` after `on_data` returned: `if (m_reading) PostRecv()`. -/
def afterData (t : TcpConnection) (post : Option ErrorCode) : TcpConnection × Option ErrorCode :=
  if t.reading then t.postRecv post else (t, none)

/-- `FlushSendQueue`: submit the front buffer if there is one. `wsa` is `WSASend`'s answer;
    an immediate failure leaves the buffer at the front and nothing in progress. -/
def flushSendQueue (t : TcpConnection) (wsa : Option ErrorCode) : TcpConnection :=
  match t.sendQueue, wsa with
  | [], _ => { t with sendInProgress := false }
  | _ :: _, none => { t with sendInProgress := true, sendPending := true }
  | _ :: _, some _ => { t with sendInProgress := false }

/-- `Send`: refuse when not connected; otherwise queue the bytes and flush if idle. -/
def send (t : TcpConnection) (data : ByteBuffer) (wsa : Option ErrorCode) :
    TcpConnection × ErrorCode :=
  if !t.connected then (t, .connectionReset)
  else
    let t := { t with sendQueue := t.sendQueue ++ [data] }
    (if t.sendInProgress then t else t.flushSendQueue wsa, .success)

/-- `OnSendComplete`: drop the front buffer; on success flush the next one. -/
def sendComplete (t : TcpConnection) (ec : ErrorCode) (wsa : Option ErrorCode) : TcpConnection :=
  let t := { t with sendQueue := t.sendQueue.drop 1, sendPending := false }
  if ec ≠ .success then { t with sendInProgress := false } else t.flushSendQueue wsa

/-- `Close`: not connected, not reading, socket closed (its pending I/O cancelled, so each owed
    completion comes back), send queue emptied. -/
def close (t : TcpConnection) : TcpConnection :=
  { t with
    connected := false, reading := false, socket := false, sendQueue := [], sendInProgress := false }

/-! ## What each operation leaves alone -/

@[simp] theorem connectComplete_socket (t : TcpConnection) (ec : ErrorCode) :
    (t.connectComplete ec).socket = t.socket := rfl

@[simp] theorem connectComplete_recvPending (t : TcpConnection) (ec : ErrorCode) :
    (t.connectComplete ec).recvPending = t.recvPending := rfl

@[simp] theorem connectComplete_connectPending (t : TcpConnection) (ec : ErrorCode) :
    (t.connectComplete ec).connectPending = false := rfl

@[simp] theorem connectComplete_connected_success (t : TcpConnection) :
    (t.connectComplete .success).connected = true := by
  simp [connectComplete]

theorem postRecv_fields {t : TcpConnection} {post : Option ErrorCode} :
    (t.postRecv post).1.socket = t.socket ∧ (t.postRecv post).1.connected = t.connected ∧
      (t.postRecv post).1.connectPending = t.connectPending := by
  unfold postRecv; split
  · split <;> simp
  · simp

@[simp] theorem startReading_socket (t : TcpConnection) (post : Option ErrorCode) :
    (t.startReading post).1.socket = t.socket :=
  postRecv_fields.1

@[simp] theorem startReading_connected (t : TcpConnection) (post : Option ErrorCode) :
    (t.startReading post).1.connected = t.connected :=
  postRecv_fields.2.1

@[simp] theorem startReading_connectPending (t : TcpConnection) (post : Option ErrorCode) :
    (t.startReading post).1.connectPending = t.connectPending :=
  postRecv_fields.2.2

@[simp] theorem afterData_socket (t : TcpConnection) (post : Option ErrorCode) :
    (t.afterData post).1.socket = t.socket := by
  unfold afterData; split
  · exact postRecv_fields.1
  · rfl

@[simp] theorem afterData_connected (t : TcpConnection) (post : Option ErrorCode) :
    (t.afterData post).1.connected = t.connected := by
  unfold afterData; split
  · exact postRecv_fields.2.1
  · rfl

@[simp] theorem afterData_connectPending (t : TcpConnection) (post : Option ErrorCode) :
    (t.afterData post).1.connectPending = t.connectPending := by
  unfold afterData; split
  · exact postRecv_fields.2.2
  · rfl

theorem recvComplete_fields {t : TcpConnection} {bytes : ByteBuffer} {ec : ErrorCode} :
    (t.recvComplete bytes ec).1.socket = t.socket ∧
      (t.recvComplete bytes ec).1.connected = t.connected ∧
      (t.recvComplete bytes ec).1.connectPending = t.connectPending := by
  unfold recvComplete; split <;> simp

theorem flushSendQueue_fields {t : TcpConnection} {wsa : Option ErrorCode} :
    (t.flushSendQueue wsa).socket = t.socket ∧ (t.flushSendQueue wsa).connected = t.connected ∧
      (t.flushSendQueue wsa).connectPending = t.connectPending ∧
      (t.flushSendQueue wsa).recvPending = t.recvPending ∧
      (t.flushSendQueue wsa).reading = t.reading := by
  unfold flushSendQueue; split <;> simp

theorem send_fields {t : TcpConnection} {data : ByteBuffer} {wsa : Option ErrorCode} :
    (t.send data wsa).1.socket = t.socket ∧ (t.send data wsa).1.connected = t.connected ∧
      (t.send data wsa).1.connectPending = t.connectPending ∧
      (t.send data wsa).1.recvPending = t.recvPending ∧
      (t.send data wsa).1.reading = t.reading := by
  unfold send
  by_cases hc : t.connected <;> by_cases hp : t.sendInProgress <;>
    simp [hc, hp, flushSendQueue_fields]

theorem sendComplete_fields {t : TcpConnection} {ec : ErrorCode} {wsa : Option ErrorCode} :
    (t.sendComplete ec wsa).socket = t.socket ∧ (t.sendComplete ec wsa).connected = t.connected ∧
      (t.sendComplete ec wsa).connectPending = t.connectPending ∧
      (t.sendComplete ec wsa).recvPending = t.recvPending ∧
      (t.sendComplete ec wsa).reading = t.reading := by
  unfold sendComplete; split <;> simp [flushSendQueue_fields]

/-! ## The send handlers -/

theorem send_accepted {t : TcpConnection} (hc : t.connected = true) (d : ByteBuffer)
    (wsa : Option ErrorCode) :
    (t.send d wsa).1 = if t.sendInProgress then { t with sendQueue := t.sendQueue ++ [d] }
      else { t with sendQueue := t.sendQueue ++ [d] }.flushSendQueue wsa := by
  simp [send, hc]

theorem flushSendQueue_nil {t : TcpConnection} (h : t.sendQueue = []) (wsa : Option ErrorCode) :
    t.flushSendQueue wsa = { t with sendInProgress := false } := by
  simp [flushSendQueue, h]

theorem flushSendQueue_cons {t : TcpConnection} {b : ByteBuffer} {q : List ByteBuffer}
    (h : t.sendQueue = b :: q) (wsa : Option ErrorCode) :
    t.flushSendQueue wsa =
      { t with sendInProgress := wsa.isNone, sendPending := wsa.isNone || t.sendPending } := by
  cases wsa <;> simp [flushSendQueue, h]

@[simp] theorem flushSendQueue_sendQueue (t : TcpConnection) (wsa : Option ErrorCode) :
    (t.flushSendQueue wsa).sendQueue = t.sendQueue := by
  unfold flushSendQueue; split <;> rfl

@[simp] theorem sendComplete_sendQueue (t : TcpConnection) (ec : ErrorCode) (wsa : Option ErrorCode) :
    (t.sendComplete ec wsa).sendQueue = t.sendQueue.drop 1 := by
  unfold sendComplete; split <;> simp

end TcpConnection

end ReverseSocks
