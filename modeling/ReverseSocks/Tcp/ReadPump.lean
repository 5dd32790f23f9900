import ReverseSocks.Tcp.Connection

/-! # The read pump of a TCP connection

    `StartReading`, `PostRecv`, `OnRecvComplete` and `Close` in `tcp_connection.cpp`, under every
    sequence of receive completions (any bytes, any error code, any answer of the `WSARecv` that
    follows) and `Close` calls, with the completion the port still owes coming back after
    `Close`.

    A zero-byte or failed receive, and a `WSARecv` that fails at once, clear `m_reading` and
    leave no receive owed. After the first `on_disconnect` the pump is therefore quiet: nothing
    is posted and nothing completes (`quiet_run`). `Close` clears `m_reading` and
    `m_connected`, but the receive it cancels is still owed, and `OnRecvComplete` looks at
    neither flag before it calls `on_data`. A receive that completed with data before the
    cancellation took effect is handed to `on_data` after `Close` has returned.
-/

namespace ReverseSocks

/-- What reaches the read side after `StartReading`: a receive completion with the bytes read,
    its error code and the answer of the `WSARecv` that may follow `on_data`; or `Close`. -/
inductive ReadOp
  | complete (bytes : ByteBuffer) (ec : ErrorCode) (post : Option ErrorCode)
  | close
  deriving DecidableEq, Repr

/-- What the owner sees: an `on_data` call, an `on_disconnect` call, or `Close` returning. -/
inductive ReadNote
  | data (bytes : ByteBuffer)
  | disconnect (ec : ErrorCode)
  | closed
  deriving DecidableEq, Repr

namespace ReadNote

/-- Whether a note is an `on_disconnect` call. -/
def isDisconnect : ReadNote → Bool
  | .disconnect _ => true
  | _ => false

/-- Whether a note is an `on_data` call. -/
def isData : ReadNote → Bool
  | .data _ => true
  | _ => false

end ReadNote

namespace TcpConnection

/-- One operation on the read side. A receive completion arrives only while one is owed; after
    `on_data` returns, `OnRecvComplete` posts again if still reading. -/
def readStep (t : TcpConnection) : ReadOp → TcpConnection × List ReadNote
  | .complete bytes ec post =>
    if t.recvPending then
      match t.recvComplete bytes ec with
      | (t', .data b) => ((t'.afterData post).1, .data b :: (t'.afterData post).2.toList.map .disconnect)
      | (t', .disconnect e) => (t', [.disconnect e])
    else (t, [])
  | .close => (t.close, [.closed])

/-- Operations in order; the connection afterwards and every note. -/
def readRun (t : TcpConnection) : List ReadOp → TcpConnection × List ReadNote
  | [] => (t, [])
  | op :: ops => (((t.readStep op).1.readRun ops).1,
      (t.readStep op).2 ++ ((t.readStep op).1.readRun ops).2)

/-- `StartReading`, with `WSARecv`'s answer, and then the operations: what the owner sees. -/
def readLog (t : TcpConnection) (post : Option ErrorCode) (ops : List ReadOp) : List ReadNote :=
  (t.startReading post).2.toList.map .disconnect ++ ((t.startReading post).1.readRun ops).2

/-- Not reading and no receive owed: nothing is posted and nothing completes. -/
def Quiet (t : TcpConnection) : Prop := t.reading = false ∧ t.recvPending = false

section pump

variable {t : TcpConnection}

/-! ## Quiet after `on_disconnect` -/

theorem quiet_readStep (h : Quiet t) (op : ReadOp) :
    Quiet (t.readStep op).1 ∧ ∀ b ∈ (t.readStep op).2, b = .closed := by
  cases op with
  | complete bytes ec post => simp [readStep, h.2, h]
  | close => exact ⟨⟨rfl, h.2⟩, by simp [readStep]⟩

/-- The run lemma for a quiet pump: it stays quiet, and only `Close` returns. -/
theorem quiet_run (h : Quiet t) (ops : List ReadOp) :
    Quiet (t.readRun ops).1 ∧ ∀ b ∈ (t.readRun ops).2, b = .closed := by
  induction ops generalizing t with
  | nil => simp [readRun, h]
  | cons op ops ih =>
    obtain ⟨h₁, hb₁⟩ := quiet_readStep h op
    obtain ⟨h₂, hb₂⟩ := ih h₁
    refine ⟨h₂, fun b hb => ?_⟩
    rcases List.mem_append.1 hb with hb | hb
    exacts [hb₁ b hb, hb₂ b hb]

/-- One receive completion: `on_data` may be followed by the `on_disconnect` of a failed
    re-post, and after an `on_disconnect` the pump is quiet. -/
theorem readStep_complete (bytes : ByteBuffer) (ec : ErrorCode) (post : Option ErrorCode) :
    (t.readStep (.complete bytes ec post)).2.Pairwise (fun a b => a.isDisconnect → b = .closed) ∧
    ((t.readStep (.complete bytes ec post)).2.any ReadNote.isDisconnect →
      Quiet (t.readStep (.complete bytes ec post)).1) := by
  by_cases hp : t.recvPending = true
  swap
  · simp [readStep, hp]
  by_cases hd : ec ≠ .success ∨ bytes = []
  · simp [readStep, hp, recvComplete, hd, Quiet, ReadNote.isDisconnect]
  · simp only [readStep, hp, recvComplete, hd, if_true, if_false]
    cases post <;> cases hr : t.reading <;> cases hc : t.connected <;>
      simp [afterData, postRecv, hr, hc, Quiet, ReadNote.isDisconnect]

theorem readStep_spec (op : ReadOp) :
    (t.readStep op).2.Pairwise (fun a b => a.isDisconnect → b = .closed) ∧
    ((t.readStep op).2.any ReadNote.isDisconnect → Quiet (t.readStep op).1) := by
  cases op with
  | complete bytes ec post => exact readStep_complete bytes ec post
  | close => simp [readStep, ReadNote.isDisconnect]

/-- The run lemma: after an `on_disconnect` only `Close` returns. -/
theorem readRun_pairwise (ops : List ReadOp) :
    (t.readRun ops).2.Pairwise (fun a b => a.isDisconnect → b = .closed) := by
  induction ops generalizing t with
  | nil => exact List.Pairwise.nil
  | cons op ops ih =>
    obtain ⟨hp, hq⟩ := readStep_spec op
    refine List.pairwise_append.2 ⟨hp, ih, fun a ha b hb hd => ?_⟩
    exact (quiet_run (hq (List.any_eq_true.2 ⟨a, ha, hd⟩)) ops).2 b hb

/-- `StartReading` on a connection with no receive owed, then anything: after an
    `on_disconnect` only `Close` returns. -/
theorem readLog_pairwise (ht : t.recvPending = false) (post : Option ErrorCode)
    (ops : List ReadOp) :
    (t.readLog post ops).Pairwise (fun a b => a.isDisconnect → b = .closed) := by
  unfold readLog
  refine List.pairwise_append.2 ⟨?_, readRun_pairwise ops, fun a ha b hb hd => ?_⟩
  · cases (t.startReading post).2 <;> simp
  · have hs : Quiet (t.startReading post).1 := by
      cases hs : (t.startReading post).2 with
      | none => simp [hs] at ha
      | some e =>
        unfold startReading postRecv at hs ⊢
        cases post <;> cases hc : t.connected <;> simp_all [Quiet]
    exact (quiet_run hs ops).2 b hb

theorem countP_disconnect_le_one {l : List ReadNote}
    (h : l.Pairwise fun a b => a.isDisconnect → b = .closed) :
    l.countP ReadNote.isDisconnect ≤ 1 := by
  induction l with
  | nil => simp
  | cons a l ih =>
    rw [List.pairwise_cons] at h
    rw [List.countP_cons]
    cases ha : a.isDisconnect
    · simpa using ih h.2
    · have : l.countP ReadNote.isDisconnect = 0 :=
        List.countP_eq_zero.2 fun b hb => by simp [h.1 b hb ha, ReadNote.isDisconnect]
      simp [this]

/-- `Close` does not stop a completed receive: on a connected connection reading, a receive
    that completes with data after `Close` reaches `on_data`. -/
theorem readLog_close_then_data (hc : t.connected = true)
    {bytes : ByteBuffer} (hb : bytes ≠ []) (post : Option ErrorCode) :
    t.readLog none [.close, .complete bytes .success post] = [.closed, .data bytes] := by
  simp [readLog, startReading, postRecv, hc, readRun, readStep, close, recvComplete, hb, afterData]

end pump

/-- The read side of a connection with no receive owed, after `StartReading`, over every
    sequence of receive completions and `Close` calls: `on_disconnect` is called at most once
    and no `on_data` follows it. But `Close` does not stop `on_data`: on every connected
    connection, a receive that completes with data after `Close` has returned reaches it. -/
theorem read_upcalls_after_close (t : TcpConnection) (ht : t.recvPending = false) :
    (∀ post ops, (t.readLog post ops).countP ReadNote.isDisconnect ≤ 1 ∧
      (t.readLog post ops).Pairwise fun a b => a.isDisconnect → b.isData = false) ∧
    (t.connected = true → ∀ bytes post, bytes ≠ [] →
      t.readLog none [.close, .complete bytes .success post] = [.closed, .data bytes]) := by
  refine ⟨fun post ops => ?_, fun hc bytes post hb => readLog_close_then_data hc hb post⟩
  have h := readLog_pairwise ht post ops
  exact ⟨countP_disconnect_le_one h,
    h.imp fun hab hd => by simp [hab hd, ReadNote.isData]⟩

/-- A connection just connected and reading: its receive completes with one byte while `Close`
    runs, and `on_data` gets the byte after `Close` has returned. -/
theorem read_upcalls_after_close_connected :
    let t := (TcpConnection.init.connectAsync .success).1.connectComplete .success
    t.recvPending = false ∧ t.connected = true ∧ [(1 : UInt8)] ≠ [] ∧
    t.readLog none [.close, .complete [1] .success none] = [.closed, .data [1]] :=
  ⟨rfl, rfl, by decide,
    (read_upcalls_after_close _ rfl).2 rfl [1] none (by decide)⟩

end TcpConnection

end ReverseSocks
