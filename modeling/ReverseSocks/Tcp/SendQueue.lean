import ReverseSocks.Tcp.Connection

/-! # The send queue of a TCP connection

    `Send`, `FlushSendQueue`, `OnSendComplete` and `Close` under every interleaving of sends,
    `WSASend` answers, completions and `Close`. `SendLedger` runs the connection's handlers and
    numbers the accepted sends without touching the connection; `Inv` ties the numbers to the
    queue (`step_ok`). So the `WSASend` calls and completions come in order and at most one
    completion is owed (`send_queue_order`).
-/

namespace ReverseSocks

/-- What the send side of a connection is asked to do: a `Send` call, with `WSASend`'s answer
    if it flushes; a send completion, with `WSASend`'s answer if `OnSendComplete` flushes; or
    `Close`. -/
inductive SendOp
  | send (data : ByteBuffer) (wsa : Option ErrorCode)
  | complete (ec : ErrorCode) (wsa : Option ErrorCode)
  | close
  deriving DecidableEq, Repr

/-- What the send side does: `WSASend` called on the buffer of the `call`-th accepted `Send`
    (whether it pended or failed at once), and a completion processed for such a call. -/
inductive SendNote
  | submitted (call : Nat) (bytes : ByteBuffer)
  | completed (call : Nat)
  deriving DecidableEq, Repr

/-- The bytes of the `Send` calls a connection accepts: every one while it is connected, which
    it is until `Close`. -/
def acceptedSends : Bool → List SendOp → List ByteBuffer
  | _, [] => []
  | c, .send d _ :: ops => (if c then [d] else []) ++ acceptedSends c ops
  | c, .complete _ _ :: ops => acceptedSends c ops
  | _, .close :: ops => acceptedSends false ops

/-! ## The log -/

namespace SendNote

/-- The order the log keeps between an earlier note and a later one: `WSASend` takes buffers in
    call order, and once a call's completion is processed only later calls' buffers follow. -/
def Before : SendNote → SendNote → Prop
  | .submitted i _, .submitted j _ => i ≤ j
  | .completed i, .submitted j _ => i < j
  | _, .completed _ => True

/-- A note about calls before `lo`, or about `lo` if it is a submission. -/
def Below (lo : Nat) : SendNote → Prop
  | .submitted i _ => i ≤ lo
  | .completed i => i < lo

/-- A note that submits no call before `lo`. -/
def Above (lo : Nat) : SendNote → Prop
  | .submitted j _ => lo ≤ j
  | .completed _ => True

theorem before_of_below_above {lo : Nat} {a b : SendNote} (ha : Below lo a) (hb : Above lo b) :
    Before a b := by
  cases a <;> cases b <;> simp only [Before, Below, Above] at * <;> omega

theorem Below.mono {lo lo' : Nat} {a : SendNote} (h : Below lo a) (hl : lo ≤ lo') : Below lo' a := by
  cases a <;> simp only [Below] at * <;> omega

theorem Above.anti {lo lo' : Nat} {a : SendNote} (h : Above lo' a) (hl : lo ≤ lo') : Above lo a := by
  cases a with
  | submitted j _ => exact Nat.le_trans hl h
  | completed _ => trivial

end SendNote

open SendNote

/-! ## The labelled queue -/

/-- The send side with its queue labelled: `conn` is the connection; `sent` holds the bytes of
    every accepted `Send` call, in call order; the queue holds the buffers of calls `lo` onwards;
    `owed` lists the calls whose buffer `WSASend` took and whose completion is still owed. -/
structure SendLedger where
  conn : TcpConnection
  sent : List ByteBuffer
  lo : Nat
  owed : List Nat

namespace SendLedger

/-- The labels of a connection that has queued nothing yet. -/
def start (t : TcpConnection) : SendLedger := ⟨t, [], 0, []⟩

/-- `FlushSendQueue` on the labels: `WSASend` takes the front buffer, the one of call `lo`, and
    a completion is owed for it if `WSASend` pended. -/
def flush (L : SendLedger) (wsa : Option ErrorCode) : SendLedger × List SendNote :=
  match L.conn.sendQueue with
  | [] => (L, [])
  | b :: _ => ({ L with owed := if wsa = none then L.owed ++ [L.lo] else L.owed },
      [.submitted L.lo b])

/-- `Send` on an accepted call: the connection's own handler, and the bytes recorded as the
    next call's. -/
def queued (L : SendLedger) (data : ByteBuffer) (wsa : Option ErrorCode) : SendLedger :=
  { L with conn := (L.conn.send data wsa).1, sent := L.sent ++ [data] }

/-- `OnSendComplete`: the connection's own handler, the owed completion discharged, and the
    front buffer, if there is one, popped. -/
def popped (L : SendLedger) (ec : ErrorCode) (wsa : Option ErrorCode) : SendLedger :=
  { L with
    conn := L.conn.sendComplete ec wsa
    lo := if L.conn.sendQueue = [] then L.lo else L.lo + 1
    owed := L.owed.drop 1 }

@[simp] theorem queued_sent (L : SendLedger) (data : ByteBuffer) (wsa : Option ErrorCode) :
    (L.queued data wsa).sent = L.sent ++ [data] := rfl

@[simp] theorem queued_lo (L : SendLedger) (data : ByteBuffer) (wsa : Option ErrorCode) :
    (L.queued data wsa).lo = L.lo := rfl

@[simp] theorem queued_owed (L : SendLedger) (data : ByteBuffer) (wsa : Option ErrorCode) :
    (L.queued data wsa).owed = L.owed := rfl

@[simp] theorem popped_sent (L : SendLedger) (ec : ErrorCode) (wsa : Option ErrorCode) :
    (L.popped ec wsa).sent = L.sent := rfl

@[simp] theorem popped_owed (L : SendLedger) (ec : ErrorCode) (wsa : Option ErrorCode) :
    (L.popped ec wsa).owed = L.owed.drop 1 := rfl

/-- One operation, on the connection and on its labels. `Send` flushes when nothing is in
    progress, and `OnSendComplete` on success; a completion arrives only while one is owed. -/
def step (L : SendLedger) : SendOp → SendLedger × List SendNote
  | .send data wsa =>
    if L.conn.connected then
      if L.conn.sendInProgress then (L.queued data wsa, []) else (L.queued data wsa).flush wsa
    else (L, [])
  | .complete ec wsa =>
    if L.conn.sendPending then
      if ec = .success then
        (((L.popped ec wsa).flush wsa).1,
          (L.owed.take 1).map .completed ++ ((L.popped ec wsa).flush wsa).2)
      else (L.popped ec wsa, (L.owed.take 1).map .completed)
    else (L, [])
  | .close => ({ L with conn := L.conn.close, lo := L.sent.length }, [])

/-- Operations in order; the labels afterwards and every note. -/
def run (L : SendLedger) : List SendOp → SendLedger × List SendNote
  | [] => (L, [])
  | op :: ops => (((L.step op).1.run ops).1, (L.step op).2 ++ ((L.step op).1.run ops).2)

/-! ## The invariant -/

/-- The labels agree with the connection: its queue holds the buffers of calls `lo` onwards;
    its pending flag says whether a completion is owed; at most one is, for the front buffer's
    call while connected and for an earlier call after `Close`; a send is in progress exactly
    while one is owed, and after `Close` the queue is empty and nothing is in progress. -/
structure Inv (L : SendLedger) : Prop where
  queue : L.conn.sendQueue = L.sent.drop L.lo
  lo_le : L.lo ≤ L.sent.length
  pending : L.conn.sendPending = true ↔ L.owed ≠ []
  owed : L.owed = [] ∨ ∃ i, L.owed = [i] ∧
    (i < L.lo ∨ L.conn.connected = true ∧ i = L.lo ∧ L.lo < L.sent.length)
  inProgress : L.conn.connected = true → (L.conn.sendInProgress = true ↔ L.owed ≠ [])
  idle : L.conn.connected = false → L.lo = L.sent.length ∧ L.conn.sendInProgress = false

/-- What a stretch of operations guarantees about its notes, against the labels before and
    after: labels only move on, every submission is of a call at or past the start's front,
    every note is about calls up to the end's front, the notes are in order among themselves,
    and each submission carries the bytes of its call. -/
structure Ok (L L' : SendLedger) (notes : List SendNote) : Prop where
  lo_le : L.lo ≤ L'.lo
  sent : L.sent <+: L'.sent
  above : ∀ n ∈ notes, Above L.lo n
  below : ∀ n ∈ notes, Below L'.lo n
  pairwise : notes.Pairwise Before
  bytes : ∀ i b, SendNote.submitted i b ∈ notes → L'.sent[i]? = some b

theorem Ok.refl (L : SendLedger) : Ok L L [] :=
  ⟨le_rfl, List.prefix_refl _, by simp, by simp, List.Pairwise.nil, by simp⟩

theorem Ok.trans {L M N : SendLedger} {n₁ n₂ : List SendNote} (h₁ : Ok L M n₁) (h₂ : Ok M N n₂) :
    Ok L N (n₁ ++ n₂) where
  lo_le := h₁.lo_le.trans h₂.lo_le
  sent := h₁.sent.trans h₂.sent
  above n hn := (List.mem_append.1 hn).elim (h₁.above n) fun h => (h₂.above n h).anti h₁.lo_le
  below n hn := (List.mem_append.1 hn).elim (fun h => (h₁.below n h).mono h₂.lo_le) (h₂.below n)
  pairwise := List.pairwise_append.2 ⟨h₁.pairwise, h₂.pairwise,
    fun a ha b hb => before_of_below_above (h₁.below a ha) (h₂.above b hb)⟩
  bytes i b hb := (List.mem_append.1 hb).elim
    (fun h => by
      obtain ⟨e, he⟩ := h₂.sent
      have := h₁.bytes i b h
      rw [← he, List.getElem?_append_left (List.getElem?_eq_some_iff.1 this).1, this])
    (h₂.bytes i b)

/-! ## One operation -/

section step

variable {L : SendLedger}

theorem flush_of_lt {M : SendLedger} (hq : M.conn.sendQueue = M.sent.drop M.lo)
    (hlt : M.lo < M.sent.length) (wsa : Option ErrorCode) :
    M.flush wsa = ({ M with owed := if wsa = none then M.owed ++ [M.lo] else M.owed },
      [.submitted M.lo M.sent[M.lo]]) := by
  rw [flush, hq, List.drop_eq_getElem_cons hlt]

theorem flush_of_le {M : SendLedger} (hq : M.conn.sendQueue = M.sent.drop M.lo)
    (hle : M.sent.length ≤ M.lo) (wsa : Option ErrorCode) : M.flush wsa = (M, []) := by
  rw [flush, hq, List.drop_eq_nil_of_le hle]

/-- A submission of the front call, with the labels otherwise as they were. -/
theorem Ok.submit {M M' : SendLedger} (hlt : M.lo < M.sent.length) (hlo : M'.lo = M.lo)
    (hs : M'.sent = M.sent) : Ok M M' [.submitted M.lo M.sent[M.lo]] where
  lo_le := hlo.ge
  sent := hs ▸ List.prefix_refl _
  above := by simp [Above]
  below := by simp [Below, hlo]
  pairwise := List.pairwise_singleton _ _
  bytes := by simp [hs, hlt]

/-- A stretch that emits nothing, moves no label back and only appends to the calls. -/
theorem Ok.quiet {M M' : SendLedger} (hlo : M.lo ≤ M'.lo) (hs : M.sent <+: M'.sent) : Ok M M' [] :=
  ⟨hlo, hs, by simp, by simp, List.Pairwise.nil, by simp⟩

theorem owed_nil_of_connected (h : Inv L) (hc : L.conn.connected = true)
    (hp : L.conn.sendInProgress = false) : L.owed = [] := by
  simpa [hp] using h.inProgress hc

theorem step_send (h : Inv L) (data : ByteBuffer) (wsa : Option ErrorCode) :
    Inv (L.step (.send data wsa)).1 ∧ Ok L (L.step (.send data wsa)).1 (L.step (.send data wsa)).2 := by
  by_cases hc : L.conn.connected = true
  swap
  · simp only [step, hc, if_false, Bool.false_eq_true]; exact ⟨h, Ok.refl L⟩
  have hq : L.conn.sendQueue ++ [data] = (L.sent ++ [data]).drop L.lo := by
    rw [h.queue, List.drop_append_of_le_length h.lo_le]
  have hlt : L.lo < (L.sent ++ [data]).length := by
    simpa using Nat.lt_succ_of_le h.lo_le
  cases hp : L.conn.sendInProgress
  · have ho := owed_nil_of_connected h hc hp
    have hpend : L.conn.sendPending = false := by simpa [ho] using h.pending
    have hconn : (L.queued data wsa).conn = { L.conn with
        sendQueue := L.conn.sendQueue ++ [data], sendInProgress := wsa.isNone,
        sendPending := wsa.isNone } := by
      simp only [queued, TcpConnection.send_accepted hc, hp, if_false, Bool.false_eq_true]
      rw [TcpConnection.flushSendQueue_cons (hq.trans (List.drop_eq_getElem_cons hlt)), hpend,
        Bool.or_false]
    have hM : (L.queued data wsa).conn.sendQueue =
        (L.queued data wsa).sent.drop (L.queued data wsa).lo := by
      rw [hconn]; exact hq
    simp only [step, hc, hp, if_true, if_false, Bool.false_eq_true]
    rw [flush_of_lt hM hlt]
    refine ⟨?_, (@Ok.quiet L (L.queued data wsa) le_rfl (List.prefix_append _ _)).trans
      (@Ok.submit (L.queued data wsa) _ hlt rfl rfl)⟩
    have hle := h.lo_le
    cases wsa <;> constructor <;> simp [hconn, ho, hq, hc] <;> omega
  · have hconn : (L.queued data wsa).conn = { L.conn with sendQueue := L.conn.sendQueue ++ [data] } := by
      simp only [queued, TcpConnection.send_accepted hc, hp, if_true]
    simp only [step, hc, hp, if_true]
    refine ⟨?_, Ok.quiet le_rfl (List.prefix_append _ _)⟩
    have hle := h.lo_le
    have hi := h.inProgress hc
    obtain ho | ⟨i, ho, hi'⟩ := h.owed
    · exact absurd (hi.1 hp) (by simp [ho])
    · constructor <;> simp [hconn, hq, hc, hp, ho, h.pending] <;> omega

theorem step_close (h : Inv L) :
    Inv (L.step .close).1 ∧ Ok L (L.step .close).1 (L.step .close).2 := by
  refine ⟨?_, Ok.quiet h.lo_le (List.prefix_refl _)⟩
  have hle := h.lo_le
  obtain ho | ⟨i, ho, hi⟩ := h.owed
  · constructor <;> simp [step, TcpConnection.close, ho, h.pending]
  · constructor <;> simp [step, TcpConnection.close, ho, h.pending]
    omega

/-- `OnSendComplete` pops the front buffer, so the queue is still the calls from `lo` on. -/
theorem Inv.popped_queue (h : Inv L) (ec : ErrorCode) (wsa : Option ErrorCode) :
    (L.popped ec wsa).conn.sendQueue = L.sent.drop (L.popped ec wsa).lo := by
  by_cases he : L.sent.drop L.lo = []
  · simp [popped, h.queue, he]
  · simp [popped, h.queue, he, List.drop_drop, Nat.add_comm]

theorem Inv.popped_lo (h : Inv L) (ec : ErrorCode) (wsa : Option ErrorCode) :
    L.lo ≤ (L.popped ec wsa).lo ∧ (L.popped ec wsa).lo ≤ L.sent.length := by
  have := h.lo_le
  simp only [popped, h.queue, List.drop_eq_nil_iff]; split_ifs <;> omega

/-- The completion processed is for a call before the front after the pop. -/
theorem Inv.ok_popped (h : Inv L) {i : Nat} (ho : L.owed = [i]) (ec : ErrorCode)
    (wsa : Option ErrorCode) : Ok L (L.popped ec wsa) [.completed i] := by
  have hi : i < (L.popped ec wsa).lo := by
    rcases (h.owed.resolve_left (by simp [ho])) with ⟨_, e, hi | ⟨-, rfl, hlt⟩⟩ <;>
      simp only [ho, List.cons.injEq, and_true] at e <;> subst e
    · exact Nat.lt_of_lt_of_le hi (h.popped_lo ec wsa).1
    · have : L.conn.sendQueue ≠ [] := by simp [h.queue]; omega
      simp [popped, this]
  exact ⟨(h.popped_lo ec wsa).1, List.prefix_refl _, by simp [Above], by simp [Below, hi],
    List.pairwise_singleton _ _, by simp⟩

/-- A completion that leaves nothing in progress leaves nothing owed either. -/
theorem Inv.popped_stop (h : Inv L) {i : Nat} (ho : L.owed = [i]) {ec : ErrorCode}
    {wsa : Option ErrorCode} (hc : (L.popped ec wsa).conn = { L.conn with
      sendQueue := L.conn.sendQueue.drop 1, sendPending := false, sendInProgress := false }) :
    Inv (L.popped ec wsa) where
  queue := h.popped_queue ec wsa
  lo_le := (h.popped_lo ec wsa).2
  pending := by simp [hc, ho]
  owed := .inl (by simp [ho])
  inProgress := by simp [hc, ho]
  idle hd := ⟨by simp [popped, h.queue, (h.idle (by simpa [hc] using hd)).1], by simp [hc]⟩

theorem step_complete (h : Inv L) (ec : ErrorCode) (wsa : Option ErrorCode) :
    Inv (L.step (.complete ec wsa)).1 ∧
      Ok L (L.step (.complete ec wsa)).1 (L.step (.complete ec wsa)).2 := by
  by_cases hp : L.conn.sendPending = true
  swap
  · simp only [step, hp, if_false]; exact ⟨h, Ok.refl L⟩
  obtain ⟨i, ho, -⟩ := h.owed.resolve_left (h.pending.1 hp)
  have hq := h.popped_queue ec wsa
  by_cases hec : ec = .success
  swap
  · simp only [step, hp, hec, if_true, if_false, ho, List.take_succ_cons, List.take_zero,
      List.map_cons, List.map_nil]
    exact ⟨h.popped_stop ho (by simp [popped, TcpConnection.sendComplete, hec]),
      h.ok_popped ho ec wsa⟩
  subst hec
  simp only [step, hp, if_true, ho, List.take_succ_cons, List.take_zero, List.map_cons,
    List.map_nil]
  have hconn : (L.popped .success wsa).conn = { L.conn with
      sendQueue := L.conn.sendQueue.drop 1, sendPending := false }.flushSendQueue wsa := by
    simp [popped, TcpConnection.sendComplete]
  by_cases hlt : (L.popped .success wsa).lo < L.sent.length
  · rw [flush_of_lt hq hlt]
    refine ⟨?_, (h.ok_popped ho _ wsa).trans (@Ok.submit (L.popped .success wsa) _ hlt rfl rfl)⟩
    -- the queue was not empty, so the connection is still connected
    have hc : L.conn.connected = true := by
      by_contra hc
      have := h.idle (by simpa using hc)
      simp [popped, h.queue, this.1] at hlt
    have hq1 : L.conn.sendQueue.tail = L.sent.drop (L.popped .success wsa).lo := by
      simpa [hconn] using hq
    rw [TcpConnection.flushSendQueue_cons (((List.drop_one _).trans hq1).trans
      (List.drop_eq_getElem_cons hlt))] at hconn
    cases wsa <;> constructor <;> simp [hconn, hq1, hc, ho, hlt, hlt.le]
  · rw [flush_of_le hq (Nat.le_of_not_lt hlt), List.append_nil]
    refine ⟨h.popped_stop ho ?_, h.ok_popped ho _ wsa⟩
    have hq1 : L.conn.sendQueue.drop 1 = [] := by
      simpa [hconn, List.drop_eq_nil_of_le (Nat.le_of_not_lt hlt)] using hq
    rw [hconn, TcpConnection.flushSendQueue_nil hq1]

theorem step_ok (h : Inv L) : ∀ op, Inv (L.step op).1 ∧ Ok L (L.step op).1 (L.step op).2
  | .send data wsa => step_send h data wsa
  | .complete ec wsa => step_complete h ec wsa
  | .close => step_close h

end step

/-! ## Runs -/

/-- The run lemma: the invariant holds after any operations, and their notes are in order,
    about calls from the start's front on, each submission with its call's bytes. -/
theorem run_ok {L : SendLedger} (h : Inv L) (ops : List SendOp) :
    Inv (L.run ops).1 ∧ Ok L (L.run ops).1 (L.run ops).2 := by
  induction ops generalizing L with
  | nil => exact ⟨h, Ok.refl L⟩
  | cons op ops ih =>
    obtain ⟨h₁, o₁⟩ := step_ok h op
    obtain ⟨h₂, o₂⟩ := ih h₁
    exact ⟨h₂, o₁.trans o₂⟩

theorem flush_conn_sent (M : SendLedger) (wsa : Option ErrorCode) :
    (M.flush wsa).1.conn = M.conn ∧ (M.flush wsa).1.sent = M.sent := by
  unfold flush; split <;> exact ⟨rfl, rfl⟩

/-- The calls recorded are the `Send` calls the connection accepted. -/
theorem run_sent (L : SendLedger) (ops : List SendOp) :
    (L.run ops).1.sent = L.sent ++ acceptedSends L.conn.connected ops := by
  induction ops generalizing L with
  | nil => simp [run, acceptedSends]
  | cons op ops ih =>
    rw [run, ih]
    cases op with
    | send d wsa =>
      by_cases hc : L.conn.connected = true
      · cases hp : L.conn.sendInProgress <;>
          simp [step, hc, hp, acceptedSends, flush_conn_sent, queued, TcpConnection.send_fields]
      · simp [step, hc, acceptedSends]
    | complete ec wsa =>
      by_cases hp : L.conn.sendPending = true
      · by_cases hec : ec = .success <;>
          simp [step, hp, hec, acceptedSends, flush_conn_sent, popped, TcpConnection.sendComplete_fields]
      · simp [step, hp, acceptedSends]
    | close => simp [step, acceptedSends, TcpConnection.close]

theorem inv_start {t : TcpConnection}
    (ht : t.sendQueue = [] ∧ t.sendInProgress = false ∧ t.sendPending = false) : Inv (start t) :=
  ⟨by simp [start, ht.1], le_rfl, by simp [start, ht.2.2], .inl rfl, by simp [start, ht.2.1],
    fun _ => ⟨rfl, ht.2.1⟩⟩

end SendLedger

open SendLedger in
/-- The send queue over every interleaving of sends, `WSASend` answers, completions and
    `Close`: at most one completion is owed, and `WSASend` takes the buffers in the order of
    the `Send` calls, each with its bytes, never again one whose completion was processed. -/
theorem send_queue_order (t : TcpConnection)
    (ht : t.sendQueue = [] ∧ t.sendInProgress = false ∧ t.sendPending = false) (ops : List SendOp) :
    ((start t).run ops).1.owed.length ≤ 1 ∧
    ((start t).run ops).2.Pairwise SendNote.Before ∧
    ∀ i b, SendNote.submitted i b ∈ ((start t).run ops).2 →
      (acceptedSends t.connected ops)[i]? = some b := by
  obtain ⟨hi, ho⟩ := run_ok (inv_start ht) ops
  refine ⟨?_, ho.pairwise, fun i b hb => ?_⟩
  · rcases hi.owed with h | ⟨_, h, -⟩ <;> simp [h]
  · simpa [run_sent, start] using ho.bytes i b hb

/-- A connection just connected: the second buffer's first `WSASend` fails at once, so the next
    `Send` submits it again, and `Close` leaves its completion to come back. -/
theorem send_queue_order_after_connect :
    let t := (TcpConnection.init.connectAsync .success).1.connectComplete .success
    let ops := [SendOp.send [1] none, .send [2] none, .complete .success (some .socketError),
      .send [3] none, .close, .complete .connectionReset none]
    (t.sendQueue = [] ∧ t.sendInProgress = false ∧ t.sendPending = false) ∧
    ((SendLedger.start t).run ops).1.owed.length ≤ 1 ∧
    ((SendLedger.start t).run ops).2.Pairwise SendNote.Before ∧
    ∀ i b, SendNote.submitted i b ∈ ((SendLedger.start t).run ops).2 →
      (acceptedSends t.connected ops)[i]? = some b :=
  ⟨by decide, send_queue_order _ (by decide) _⟩

example :
    ((SendLedger.start ((TcpConnection.init.connectAsync .success).1.connectComplete .success)).run
      [.send [1] none, .send [2] none, .complete .success (some .socketError), .send [3] none,
        .close, .complete .connectionReset none]).2 =
      [.submitted 0 [1], .completed 0, .submitted 1 [2], .submitted 1 [2], .completed 1] := by
  decide


end ReverseSocks
