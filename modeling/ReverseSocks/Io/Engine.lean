import ReverseSocks.Basic

/-! # The completion port and its worker threads

    `IoEngine` (`async_io.cpp`): the client's one I/O completion port and the threads that
    serve it. A run interleaves completions, each thread's return from
    `GetQueuedCompletionStatus` and from its callback, and the two halves of `Shutdown`; ghost
    histories keep every packet queued and taken. `IoEngine.Inv` holds of every state a run
    from `Init` reaches; `AfterShutdown` and `Down` hold from `Shutdown` on and after a failed
    `Init`. A second `Init` after a failed one is not modelled.
-/

namespace ReverseSocks

/-! ## Error codes of a completion -/

/-- `WSAECONNRESET`. -/
def WSAECONNRESET : Nat := 10054

/-- `WSAECONNREFUSED`. -/
def WSAECONNREFUSED : Nat := 10061

/-- `WSAETIMEDOUT`. -/
def WSAETIMEDOUT : Nat := 10060

/-- `WSAEHOSTUNREACH`. -/
def WSAEHOSTUNREACH : Nat := 10065

/-- `WSAENETUNREACH`. -/
def WSAENETUNREACH : Nat := 10051

/-- `ERROR_OPERATION_ABORTED`: the operation was cancelled, as `CancelIoEx` and `closesocket`
    do to the operations pending on a socket. -/
def ERROR_OPERATION_ABORTED : Nat := 995

/-- `WsaToErrorCode` of `common.h`. -/
def wsaToErrorCode (e : Nat) : ErrorCode :=
  if e = 0 then .success
  else if e = WSAECONNRESET then .connectionReset
  else if e = WSAECONNREFUSED then .connectionRefused
  else if e = WSAETIMEDOUT then .connectionTimeout
  else if e = WSAEHOSTUNREACH then .hostUnreachable
  else if e = WSAENETUNREACH then .networkUnreachable
  else .socketError

/-- The error code `WorkerThread` hands a callback: `Success` when the operation succeeded,
    `Shutdown` when it was cancelled, and otherwise `GetLastError`'s code through
    `WsaToErrorCode`, a code that maps to `Success` being reported as `SocketError`. -/
def completionError (ok : Bool) (err : Nat) : ErrorCode :=
  if ok then .success
  else if err = ERROR_OPERATION_ABORTED then .shutdown
  else if wsaToErrorCode err = .success then .socketError
  else wsaToErrorCode err

/-- A callback hears `Success` exactly for an operation that succeeded. -/
theorem completionError_eq_success {ok : Bool} {err : Nat} :
    completionError ok err = .success ↔ ok = true := by
  unfold completionError
  split_ifs <;> simp_all

/-! ## Packets and workers -/

/-- `IOCP_SHUTDOWN_KEY`. -/
def IOCP_SHUTDOWN_KEY : Nat := 0xDEAD

/-- What a completion carries of its `IoContext`. -/
structure IoContextRef where
  /-- The context: one per operation slot, as `m_recv_ctx` and `m_send_ctx` of a
      connection. -/
  id : Nat
  /-- `ctx->callback` holds a function. -/
  hasCallback : Bool
  deriving DecidableEq, Repr

/-- A packet as `GetQueuedCompletionStatus` returns it: the completion key, the `OVERLAPPED`
    (an `IoContext`, or null), the byte count, whether the call succeeded, and `GetLastError`'s
    code for when it did not. -/
structure Packet where
  key : Nat
  overlapped : Option IoContextRef
  bytes : Nat
  ok : Bool
  err : Nat
  deriving DecidableEq, Repr

/-- A completion of one of the client's operations. Every socket is associated with the port
    under `Associate`'s default key 0, and `PostCompletion` posts under key 0. -/
def completionPacket (ctx : Option IoContextRef) (bytes : Nat) (ok : Bool) (err : Nat) :
    Packet :=
  ⟨0, ctx, bytes, ok, err⟩

/-- What `Shutdown` posts for each worker: `PostQueuedCompletionStatus(s_iocp, 0,
    IOCP_SHUTDOWN_KEY, nullptr)`. -/
def shutdownPacket : Packet := ⟨IOCP_SHUTDOWN_KEY, none, 0, true, 0⟩

/-- The packet carries the shutdown key. -/
def Packet.isKey (p : Packet) : Bool := decide (p.key = IOCP_SHUTDOWN_KEY)

/-- No packet of the list carries the shutdown key. -/
def KeyFree (ps : List Packet) : Prop := ∀ p ∈ ps, p.isKey = false

/-- A call `ctx->callback(ctx, bytes_transferred, ec)`. -/
structure Callback where
  ctx : Nat
  bytes : Nat
  ec : ErrorCode
  deriving DecidableEq, Repr

/-- Where a thread is in `WorkerThread`'s loop. -/
inductive WorkerPhase
  /-- Blocked in `GetQueuedCompletionStatus`. -/
  | waiting
  /-- Running a callback. -/
  | calling (c : Callback)
  /-- Left the loop on the shutdown key. -/
  | exited
  deriving DecidableEq, Repr

/-- The callback a thread is running, if any. -/
def WorkerPhase.callback : WorkerPhase → Option Callback
  | .waiting => none
  | .calling c => some c
  | .exited => none

@[simp] theorem WorkerPhase.callback_waiting : WorkerPhase.waiting.callback = none := rfl

@[simp] theorem WorkerPhase.callback_calling (c : Callback) : (WorkerPhase.calling c).callback = some c :=
  rfl

@[simp] theorem WorkerPhase.callback_exited : WorkerPhase.exited.callback = none := rfl

/-- One round of `WorkerThread`'s loop once `GetQueuedCompletionStatus` has returned packet
    `p`: the shutdown key ends the loop; a packet with no `OVERLAPPED`, or whose context has no
    callback, sends the thread back to wait; any other runs the callback. -/
def Packet.next (p : Packet) : WorkerPhase :=
  if p.key = IOCP_SHUTDOWN_KEY then .exited
  else match p.overlapped with
    | none => .waiting
    | some c =>
      if c.hasCallback then .calling ⟨c.id, p.bytes, completionError p.ok p.err⟩ else .waiting

/-- The callback a packet gets, if any. -/
def Packet.callback (p : Packet) : Option Callback := p.next.callback

theorem Packet.next_eq_exited (p : Packet) : p.next = .exited ↔ p.isKey = true := by
  unfold Packet.next Packet.isKey
  split_ifs with h
  · simp [h]
  · split <;> [simp [h]; split_ifs <;> simp [h]]

@[simp] theorem callback_shutdownPacket : shutdownPacket.callback = none := rfl

@[simp] theorem isKey_shutdownPacket : shutdownPacket.isKey = true := rfl

@[simp] theorem isKey_completionPacket (ctx : Option IoContextRef) (bytes : Nat) (ok : Bool)
    (err : Nat) : (completionPacket ctx bytes ok err).isKey = false := rfl

theorem keyFree_append {ps qs : List Packet} : KeyFree (ps ++ qs) ↔ KeyFree ps ∧ KeyFree qs := by
  simp only [KeyFree, List.mem_append, or_imp, forall_and]

theorem countP_isKey_of_keyFree {ps : List Packet} (h : KeyFree ps) : ps.countP Packet.isKey = 0 :=
  List.countP_eq_zero.2 fun p hp => by simp [h p hp]

/-! ## The engine -/

/-- Where `main` is in its one `Shutdown` call. -/
inductive ShutdownPhase
  | notCalled
  /-- The keys are posted and `WaitForMultipleObjects` has not returned. -/
  | waiting
  | returned
  deriving DecidableEq, Repr

/-- The statics of `IoEngine`, the port's queue, and where each thread is. -/
structure IoEngine where
  /-- `s_initialized`. -/
  initialized : Bool
  /-- `s_thread_count`. -/
  threadCount : Nat
  /-- `s_iocp` is an open completion port. -/
  portOpen : Bool
  /-- The packets on the port, oldest first. -/
  queue : List Packet
  /-- The threads `Init` started, in the order of `s_threads`. -/
  workers : List WorkerPhase
  /-- `main`'s `Shutdown` call. -/
  shutdown : ShutdownPhase
  /-- Every packet the port has queued, in order (ghost). -/
  posted : List Packet
  /-- Every packet a thread has taken off the port, in order (ghost). -/
  taken : List Packet
  /-- Every callback call that has returned, in order. -/
  returned : List Callback
  deriving Repr

/-- What `Init` learns from the system. -/
structure InitAnswers where
  /-- `WSAStartup` succeeds. -/
  wsaStartup : Bool
  /-- `dwNumberOfProcessors` of `GetSystemInfo`. -/
  processors : Nat
  /-- `CreateIoCompletionPort` returns a port. -/
  createPort : Bool
  /-- The `WSAIoctl` lookup fills `s_connect_ex`. -/
  connectEx : Bool
  /-- Whether the `i`-th `CreateThread` succeeds. -/
  createThread : Nat → Bool

/-- The thread count of `Init(thread_count)`: `thread_count`, or, when it is not positive, the
    number of processors and at least one. -/
def workerCount (threadCount : Int) (processors : Nat) : Nat :=
  if threadCount ≤ 0 then max processors 1 else threadCount.toNat

theorem workerCount_pos (threadCount : Int) (processors : Nat) :
    0 < workerCount threadCount processors := by
  unfold workerCount; split_ifs <;> omega

/-- The `CreateThread` loop of `Init`: how many of its `n` threads start before the first
    that fails. -/
def threadsStarted (createThread : Nat → Bool) (n : Nat) : Nat :=
  ((List.range n).takeWhile createThread).length

/-- What can happen next. -/
inductive PortEvent
  /-- An operation completes into the port, or `PostCompletion` posts. -/
  | complete (ctx : Option IoContextRef) (bytes : Nat) (ok : Bool) (err : Nat)
  /-- Thread `i` returns from `GetQueuedCompletionStatus`. -/
  | dequeue (i : Nat)
  /-- Thread `i` returns from the callback it is running. -/
  | callbackReturn (i : Nat)
  /-- `main` calls `Shutdown`, which posts one shutdown key per worker. -/
  | shutdownCall
  /-- `Shutdown`'s `WaitForMultipleObjects` returns, every worker having left or five seconds
      having passed, and `Shutdown` closes the port. -/
  | shutdownWaitEnds
  deriving DecidableEq, Repr

namespace IoEngine

/-- The engine of a process that has not called `Init`. -/
def empty : IoEngine := ⟨false, 0, false, [], [], .notCalled, [], [], []⟩

/-- The first `Init(thread_count)` of the process: the engine it leaves and what it returns. A
    failure after `CreateIoCompletionPort` leaves the port open, and one in the `CreateThread`
    loop leaves the threads already started running, with `s_initialized` still false. -/
def init (threadCount : Int) (os : InitAnswers) : IoEngine × ErrorCode :=
  if !os.wsaStartup then (empty, .socketError)
  else if !os.createPort then (empty, .socketError)
  else if !os.connectEx then ({ empty with portOpen := true }, .socketError)
  else
    let n := workerCount threadCount os.processors
    let k := threadsStarted os.createThread n
    ({ empty with
        initialized := decide (k = n), threadCount := n, portOpen := true,
        workers := List.replicate k .waiting },
      if k = n then .success else .socketError)


/-- Packets arrive on the port; a closed port takes none. -/
def enqueue (e : IoEngine) (ps : List Packet) : IoEngine :=
  if e.portOpen then { e with queue := e.queue ++ ps, posted := e.posted ++ ps } else e

/-- Thread `i` returns from `GetQueuedCompletionStatus` with the oldest packet and goes on with
    it (`Packet.next`). The call blocks while the port is empty; on a closed port it fails at
    once with no packet, and the thread goes round its loop again. -/
def dequeue (e : IoEngine) (i : Nat) : IoEngine :=
  if e.portOpen = true ∧ e.workers[i]? = some .waiting then
    match e.queue with
    | [] => e
    | p :: q => { e with queue := q, taken := e.taken ++ [p], workers := e.workers.set i p.next }
  else e

/-- Thread `i`'s callback returns, and the thread calls `GetQueuedCompletionStatus` again. -/
def callbackReturn (e : IoEngine) (i : Nat) : IoEngine :=
  match e.workers[i]? with
  | some (.calling c) =>
    { e with workers := e.workers.set i .waiting, returned := e.returned ++ [c] }
  | _ => e

/-- `Shutdown` up to its wait: it returns at once unless the engine is initialised, and
    otherwise posts one shutdown key per thread. -/
def shutdownCall (e : IoEngine) : IoEngine :=
  if e.shutdown = .notCalled then
    if e.initialized then
      { e.enqueue (List.replicate e.threadCount shutdownPacket) with shutdown := .waiting }
    else { e with shutdown := .returned }
  else e

/-- `Shutdown` after its wait: the port is closed and `s_initialized` cleared. -/
def shutdownWaitEnds (e : IoEngine) : IoEngine :=
  if e.shutdown = .waiting then
    { e with portOpen := false, initialized := false, shutdown := .returned }
  else e

/-- One event. -/
def step (e : IoEngine) : PortEvent → IoEngine
  | .complete ctx bytes ok err => e.enqueue [completionPacket ctx bytes ok err]
  | .dequeue i => e.dequeue i
  | .callbackReturn i => e.callbackReturn i
  | .shutdownCall => e.shutdownCall
  | .shutdownWaitEnds => e.shutdownWaitEnds

/-- The events of a run, in order. -/
def run (e : IoEngine) (es : List PortEvent) : IoEngine := es.foldl step e

/-- The callbacks the threads are running. -/
def running (e : IoEngine) : List Callback := e.workers.filterMap WorkerPhase.callback

@[simp] theorem run_nil (e : IoEngine) : e.run [] = e := rfl

@[simp] theorem run_cons (e : IoEngine) (a : PortEvent) (es : List PortEvent) :
    e.run (a :: es) = (e.step a).run es := rfl

/-! ## What each event can do -/

theorem dequeue_cases (e : IoEngine) (i : Nat) :
    e.dequeue i = e ∨ ∃ p q, e.portOpen = true ∧ e.workers[i]? = some .waiting ∧
      e.queue = p :: q ∧
      e.dequeue i =
        { e with queue := q, taken := e.taken ++ [p], workers := e.workers.set i p.next } := by
  unfold dequeue
  split_ifs with h
  · split
    · exact .inl rfl
    · rename_i p q hq; exact .inr ⟨p, q, h.1, h.2, hq, rfl⟩
  · exact .inl rfl

theorem callbackReturn_cases (e : IoEngine) (i : Nat) :
    e.callbackReturn i = e ∨ ∃ c, e.workers[i]? = some (.calling c) ∧
      e.callbackReturn i =
        { e with workers := e.workers.set i .waiting, returned := e.returned ++ [c] } := by
  unfold callbackReturn
  split
  · rename_i c hc; exact .inr ⟨c, hc, rfl⟩
  · exact .inl rfl

theorem step_threadCount (e : IoEngine) (a : PortEvent) :
    (e.step a).threadCount = e.threadCount := by
  cases a with
  | complete => simp only [step, enqueue]; split_ifs <;> rfl
  | dequeue i => rcases dequeue_cases e i with h | ⟨_, _, _, _, _, h⟩ <;> simp only [step, h]
  | callbackReturn i => rcases callbackReturn_cases e i with h | ⟨_, _, h⟩ <;> simp only [step, h]
  | shutdownCall => simp only [step, shutdownCall, enqueue]; split_ifs <;> rfl
  | shutdownWaitEnds => simp only [step, shutdownWaitEnds]; split_ifs <;> rfl

theorem step_taken (e : IoEngine) (a : PortEvent) : e.taken <+: (e.step a).taken := by
  cases a with
  | complete => simp only [step, enqueue]; split_ifs <;> exact List.prefix_refl _
  | dequeue i =>
    rcases dequeue_cases e i with h | ⟨_, _, _, _, _, h⟩ <;> simp only [step, h]
    exacts [List.prefix_refl _, List.prefix_append _ _]
  | callbackReturn i =>
    rcases callbackReturn_cases e i with h | ⟨_, _, h⟩ <;> simp only [step, h] <;>
      exact List.prefix_refl _
  | shutdownCall => simp only [step, shutdownCall, enqueue]; split_ifs <;> exact List.prefix_refl _
  | shutdownWaitEnds => simp only [step, shutdownWaitEnds]; split_ifs <;> exact List.prefix_refl _

theorem step_posted (e : IoEngine) (a : PortEvent) : e.posted <+: (e.step a).posted := by
  cases a with
  | complete => simp only [step, enqueue]; split_ifs; exacts [List.prefix_append _ _, List.prefix_refl _]
  | dequeue i =>
    rcases dequeue_cases e i with h | ⟨_, _, _, _, _, h⟩ <;> simp only [step, h] <;>
      exact List.prefix_refl _
  | callbackReturn i =>
    rcases callbackReturn_cases e i with h | ⟨_, _, h⟩ <;> simp only [step, h] <;>
      exact List.prefix_refl _
  | shutdownCall =>
    simp only [step, shutdownCall, enqueue]
    split_ifs <;> first | exact List.prefix_append _ _ | exact List.prefix_refl _
  | shutdownWaitEnds => simp only [step, shutdownWaitEnds]; split_ifs <;> exact List.prefix_refl _

/-- Only a dequeue takes packets off the port. -/
theorem queue_subset_step (e : IoEngine) {a : PortEvent} (ha : ∀ i, a ≠ .dequeue i) :
    e.queue ⊆ (e.step a).queue := by
  cases a with
  | complete => simp only [step, enqueue]; split_ifs <;> simp
  | dequeue i => exact absurd rfl (ha i)
  | callbackReturn i => rcases callbackReturn_cases e i with h | ⟨_, _, h⟩ <;> simp [step, h]
  | shutdownCall => simp only [step, shutdownCall, enqueue]; split_ifs <;> simp
  | shutdownWaitEnds => simp only [step, shutdownWaitEnds]; split_ifs <;> simp

/-- A closed port stays closed. -/
theorem step_portOpen (e : IoEngine) (a : PortEvent) (h : (e.step a).portOpen = true) :
    e.portOpen = true := by
  cases a with
  | complete => revert h; simp only [step, enqueue]; split_ifs <;> exact id
  | dequeue i =>
    rcases dequeue_cases e i with he | ⟨_, _, _, _, _, he⟩ <;> simpa only [step, he] using h
  | callbackReturn i =>
    rcases callbackReturn_cases e i with he | ⟨_, _, he⟩ <;> simpa only [step, he] using h
  | shutdownCall => revert h; simp only [step, shutdownCall, enqueue]; split_ifs <;> simp_all
  | shutdownWaitEnds => revert h; simp only [step, shutdownWaitEnds]; split_ifs <;> simp

/-- Before `Shutdown` is called, no event but its call changes `s_initialized`. -/
theorem step_before_shutdown {e : IoEngine} (hs : e.shutdown = .notCalled) {a : PortEvent}
    (ha : a ≠ .shutdownCall) :
    (e.step a).shutdown = .notCalled ∧ (e.step a).initialized = e.initialized := by
  cases a with
  | complete => simp only [step, enqueue]; split_ifs <;> exact ⟨hs, rfl⟩
  | dequeue i => rcases dequeue_cases e i with h | ⟨_, _, _, _, _, h⟩ <;> simp [step, h, hs]
  | callbackReturn i => rcases callbackReturn_cases e i with h | ⟨_, _, h⟩ <;> simp [step, h, hs]
  | shutdownCall => exact absurd rfl ha
  | shutdownWaitEnds => simp [step, shutdownWaitEnds, hs]

theorem run_before_shutdown {e : IoEngine} (hs : e.shutdown = .notCalled) {es : List PortEvent}
    (hes : PortEvent.shutdownCall ∉ es) :
    (e.run es).shutdown = .notCalled ∧ (e.run es).initialized = e.initialized := by
  induction es generalizing e with
  | nil => exact ⟨hs, rfl⟩
  | cons a es ih =>
    have ha := step_before_shutdown hs fun h => hes (h ▸ .head _)
    have := ih ha.1 fun h => hes (.tail _ h)
    exact ⟨this.1, this.2.trans ha.2⟩

/-! ## Replacing one thread's phase -/

/-- Setting an element is, up to order, removing the old one and adding the new one. -/
theorem perm_set_append {α : Type} {l : List α} {i : Nat} {a : α} (b : α) (h : l[i]? = some a) :
    (l.set i b ++ [a]).Perm (l ++ [b]) := by
  induction l generalizing i with
  | nil => simp at h
  | cons x xs ih =>
    cases i with
    | zero =>
      obtain rfl : x = a := by simpa using h
      exact (List.perm_append_singleton _ _).trans ((List.perm_append_singleton b xs).cons _).symm
    | succ i => exact (ih (by simpa using h)).cons x

theorem filterMap_singleton {α β : Type} (f : α → Option β) (a : α) :
    [a].filterMap f = (f a).toList := by
  cases h : f a <;> simp [h, Option.toList]

theorem running_set_perm {e : IoEngine} {i : Nat} {w : WorkerPhase} (b : WorkerPhase)
    (h : e.workers[i]? = some w) :
    ((e.workers.set i b).filterMap WorkerPhase.callback ++ w.callback.toList).Perm
      (e.running ++ b.callback.toList) := by
  simpa only [List.filterMap_append, filterMap_singleton] using
    (perm_set_append b h).filterMap WorkerPhase.callback

theorem count_set_exited {e : IoEngine} {i : Nat} {w : WorkerPhase} (b : WorkerPhase)
    (h : e.workers[i]? = some w) :
    (e.workers.set i b).count .exited + [w].count .exited =
      e.workers.count .exited + [b].count .exited := by
  simpa only [List.count_append] using (perm_set_append b h).count_eq .exited

/-- With at most one thread, the thread a wake-up names is the only one. -/
theorem eq_singleton_of_getElem? {l : List WorkerPhase} {i : Nat} {w : WorkerPhase}
    (hl : l.length ≤ 1) (h : l[i]? = some w) : l = [w] ∧ i = 0 := by
  match l, i, h with
  | [x], 0, h => exact ⟨by simpa using h, rfl⟩
  | [_], _ + 1, h => simp at h
  | _ :: _ :: _, _, _ => simp at hl

/-! ## The invariant -/

/-- What holds in every state a run from `Init` reaches. -/
structure Inv (e : IoEngine) : Prop where
  /-- The port hands out the packets it queued once each, oldest first. -/
  fifo : e.taken ++ e.queue = e.posted
  /-- The callbacks returned or running are those of the packets taken, each once. -/
  calls : (e.returned ++ e.running).Perm (e.taken.filterMap Packet.callback)
  /-- With one thread, in the order their packets were taken. -/
  serial : e.workers.length ≤ 1 → e.returned ++ e.running = e.taken.filterMap Packet.callback
  /-- Each thread that left its loop took one shutdown key. -/
  exits : e.workers.count .exited = e.taken.countP Packet.isKey
  /-- An initialised engine has its port open and `s_thread_count` threads, at least one. -/
  initialized : e.initialized = true →
    e.portOpen = true ∧ e.workers.length = e.threadCount ∧ 0 < e.threadCount
  /-- No shutdown key before `Shutdown`. -/
  keyFree : e.shutdown = .notCalled → KeyFree e.posted

theorem inv_init (threadCount : Int) (os : InitAnswers) : Inv (init threadCount os).1 := by
  have hn := workerCount_pos threadCount os.processors
  unfold init
  split_ifs <;> constructor <;> simp_all [empty, running, KeyFree, List.count_replicate]

theorem Inv.enqueue {e : IoEngine} (h : Inv e) {ps : List Packet} (hps : KeyFree ps) :
    Inv (e.enqueue ps) := by
  unfold IoEngine.enqueue
  split_ifs
  · exact { h with
      fifo := by rw [← List.append_assoc, h.fifo]
      keyFree := fun hs => keyFree_append.2 ⟨h.keyFree hs, hps⟩ }
  · exact h

theorem Inv.dequeue {e : IoEngine} (h : Inv e) (i : Nat) : Inv (e.dequeue i) := by
  rcases dequeue_cases e i with he | ⟨p, q, -, hw, hq, he⟩
  · rwa [he]
  rw [he]
  have hr := running_set_perm p.next hw
  simp only [WorkerPhase.callback_waiting, Option.toList, List.append_nil] at hr
  constructor
  · rw [List.append_assoc, List.singleton_append, ← hq, h.fifo]
  · rw [List.filterMap_append, filterMap_singleton]
    exact (hr.append_left _).trans (by rw [← List.append_assoc]; exact h.calls.append_right _)
  · intro h1
    simp only [List.length_set] at h1
    obtain ⟨hW, rfl⟩ := eq_singleton_of_getElem? h1 hw
    have := h.serial h1
    simp only [running, hW, List.filterMap_cons_none WorkerPhase.callback_waiting,
      List.filterMap_nil, List.append_nil] at this
    simp only [running, hW, List.set_cons_zero, filterMap_singleton, List.filterMap_append, this]
    rfl
  · have hc := count_set_exited p.next hw
    have hp : [p.next].count .exited = [p].countP Packet.isKey := by
      by_cases hx : p.isKey = true
      · simp [p.next_eq_exited.2 hx, hx]
      · rw [List.count_eq_zero.2 fun hm => hx (p.next_eq_exited.1 (List.mem_singleton.1 hm).symm)]
        simp [hx]
    rw [List.countP_append, ← h.exits, ← hp]
    simpa using hc
  · intro hi
    simpa only [List.length_set] using h.initialized hi
  · exact h.keyFree

theorem Inv.callbackReturn {e : IoEngine} (h : Inv e) (i : Nat) : Inv (e.callbackReturn i) := by
  rcases callbackReturn_cases e i with he | ⟨c, hw, he⟩
  · rwa [he]
  rw [he]
  have hr := running_set_perm .waiting hw
  simp only [WorkerPhase.callback_waiting, WorkerPhase.callback_calling, Option.toList,
    List.append_nil] at hr
  refine ⟨h.fifo, ?_, ?_, ?_, ?_, h.keyFree⟩
  · rw [List.append_assoc]
    exact ((List.perm_append_comm.trans hr).append_left _).trans h.calls
  · intro h1
    simp only [List.length_set] at h1
    obtain ⟨hW, rfl⟩ := eq_singleton_of_getElem? h1 hw
    simpa [running, hW] using h.serial h1
  · have hc := count_set_exited .waiting hw
    simp only [List.count_singleton, beq_iff_eq, reduceCtorEq, if_false] at hc
    rw [← h.exits]; simpa using hc
  · intro hi
    simpa only [List.length_set] using h.initialized hi

theorem Inv.shutdownCall {e : IoEngine} (h : Inv e) : Inv e.shutdownCall := by
  unfold IoEngine.shutdownCall
  split_ifs with hs hi
  · obtain ⟨ho, -⟩ := h.initialized hi
    simp only [IoEngine.enqueue, ho, if_true]
    exact { h with
      fifo := by rw [← List.append_assoc, h.fifo]
      initialized := fun _ => ⟨rfl, (h.initialized hi).2⟩
      keyFree := by simp }
  · exact { h with keyFree := by simp }
  · exact h

theorem Inv.shutdownWaitEnds {e : IoEngine} (h : Inv e) : Inv e.shutdownWaitEnds := by
  unfold IoEngine.shutdownWaitEnds
  split_ifs
  · exact { h with initialized := by simp, keyFree := by simp }
  · exact h

theorem Inv.step {e : IoEngine} (h : Inv e) (a : PortEvent) : Inv (e.step a) := by
  cases a with
  | complete => exact h.enqueue (by simp [KeyFree])
  | dequeue i => exact h.dequeue i
  | callbackReturn i => exact h.callbackReturn i
  | shutdownCall => exact h.shutdownCall
  | shutdownWaitEnds => exact h.shutdownWaitEnds

theorem Inv.run {e : IoEngine} (h : Inv e) (es : List PortEvent) : Inv (e.run es) := by
  induction es generalizing e with
  | nil => exact h
  | cons a es ih => exact ih (h.step a)

/-! ## What `Init` leaves -/

@[simp] theorem init_queue (threadCount : Int) (os : InitAnswers) :
    (init threadCount os).1.queue = [] := by
  unfold init; split_ifs <;> rfl

theorem init_success {threadCount : Int} {os : InitAnswers}
    (h : (init threadCount os).2 = .success) :
    (init threadCount os).1.initialized = true ∧ (init threadCount os).1.shutdown = .notCalled ∧
      (init threadCount os).1.workers =
        List.replicate (workerCount threadCount os.processors) .waiting := by
  unfold init at h ⊢
  split_ifs at h ⊢
  simp_all [empty]

/-! ## After `Shutdown` -/

/-- Taking the head of the queue keeps the packets taken a prefix of `b`, unless they are all
    of `b` already. -/
theorem prefix_snoc {t b post q : List Packet} {p : Packet} (ht : t <+: b) (hne : t ≠ b)
    (h : t ++ p :: q = b ++ post) : t ++ [p] <+: b := by
  obtain ⟨r, rfl⟩ := ht
  cases r with
  | nil => simp at hne
  | cons r₀ r =>
    rw [List.append_assoc, List.cons_append] at h
    obtain ⟨rfl, -⟩ := List.cons.inj (List.append_cancel_left h)
    exact ⟨r, by simp⟩

/-- A prefix of `pre` and `n` keys, `pre` key-free and `n` positive, that holds `n` keys is all
    of it. -/
theorem eq_of_prefix_of_countP {t pre : List Packet} {n : Nat} (hn : 0 < n) (hpre : KeyFree pre)
    (ht : t <+: pre ++ List.replicate n shutdownPacket) (hc : t.countP Packet.isKey = n) :
    t = pre ++ List.replicate n shutdownPacket := by
  obtain ⟨r, hr⟩ := ht
  have hcr : r.countP Packet.isKey = 0 := by
    have := congrArg (List.countP Packet.isKey) hr
    simp only [List.countP_append, hc, countP_isKey_of_keyFree hpre, List.countP_replicate,
      isKey_shutdownPacket, if_true] at this
    omega
  rcases List.eq_nil_or_concat r with rfl | ⟨r, x, rfl⟩
  · simpa using hr
  · obtain ⟨m, rfl⟩ : ∃ m, n = m + 1 := ⟨n - 1, by omega⟩
    rw [List.concat_eq_append, List.replicate_succ', ← List.append_assoc,
      ← List.append_assoc] at hr
    obtain ⟨-, hx⟩ := List.append_inj' hr rfl
    simp [List.singleton_inj.1 hx] at hcr

/-- What holds once `Shutdown` has posted its keys after the packets `pre`. -/
structure AfterShutdown (pre : List Packet) (e : IoEngine) : Prop where
  /-- `Shutdown` has been called, so no event posts keys again. -/
  called : e.shutdown ≠ .notCalled
  /-- `pre` holds no key. -/
  pre_keyFree : KeyFree pre
  /-- The port queued `pre`, one key per thread, and since then only completions. -/
  posted : ∃ post, e.posted = pre ++ List.replicate e.threadCount shutdownPacket ++ post ∧
    KeyFree post
  /-- `s_thread_count` threads, at least one. -/
  workers : e.workers.length = e.threadCount ∧ 0 < e.threadCount
  /-- No packet queued after the keys has been taken. -/
  taken : e.taken <+: pre ++ List.replicate e.threadCount shutdownPacket

theorem afterShutdown_call {e : IoEngine} (h : Inv e) (hs : e.shutdown = .notCalled)
    (hi : e.initialized = true) : AfterShutdown e.posted e.shutdownCall := by
  obtain ⟨ho, hw⟩ := h.initialized hi
  simp only [shutdownCall, hs, hi, enqueue, ho, if_true]
  exact ⟨by simp, h.keyFree hs, ⟨[], by simp, by simp [KeyFree]⟩, hw,
    ⟨e.queue ++ _, by rw [← List.append_assoc, h.fifo]⟩⟩

/-- The keys are the last packets the threads take: once every thread has left its loop, they
    have taken `pre` and the keys. -/
theorem AfterShutdown.taken_eq {pre : List Packet} {e : IoEngine} (h : Inv e)
    (ha : AfterShutdown pre e) (hx : ∀ w ∈ e.workers, w = .exited) :
    e.taken = pre ++ List.replicate e.threadCount shutdownPacket := by
  refine eq_of_prefix_of_countP ha.workers.2 ha.pre_keyFree ha.taken ?_
  rw [← h.exits, ← ha.workers.1]
  exact List.count_eq_length.2 fun w hw => (hx w hw).symm

theorem AfterShutdown.step {pre : List Packet} {e : IoEngine} (h : Inv e)
    (ha : AfterShutdown pre e) (a : PortEvent) : AfterShutdown pre (e.step a) := by
  obtain ⟨post, hpost, hkf⟩ := ha.posted
  cases a with
  | complete ctx bytes ok err =>
    simp only [IoEngine.step, enqueue]
    split_ifs
    · exact { ha with
        posted := ⟨post ++ [completionPacket ctx bytes ok err], by simp [hpost],
          keyFree_append.2 ⟨hkf, by simp [KeyFree]⟩⟩ }
    · exact ha
  | dequeue i =>
    rcases dequeue_cases e i with he | ⟨p, q, -, hw, hq, he⟩
    · simpa only [IoEngine.step, he] using ha
    simp only [IoEngine.step, he]
    refine { ha with
      workers := by simpa using ha.workers
      taken := prefix_snoc ha.taken (fun ht => ?_) (by rw [← hq, h.fifo, hpost]) }
    -- every key taken: every thread has left, yet thread `i` is waiting
    have hall : e.workers.count .exited = e.workers.length := by
      rw [h.exits, ht, List.countP_append, countP_isKey_of_keyFree ha.pre_keyFree,
        ha.workers.1]
      simp [List.countP_replicate]
    cases List.count_eq_length.1 hall .waiting (List.getElem?_mem hw)
  | callbackReturn i =>
    rcases callbackReturn_cases e i with he | ⟨c, -, he⟩
    · simpa only [IoEngine.step, he] using ha
    simp only [IoEngine.step, he]
    exact { ha with workers := by simpa using ha.workers }
  | shutdownCall => simpa only [IoEngine.step, shutdownCall, if_neg ha.called] using ha
  | shutdownWaitEnds =>
    simp only [IoEngine.step, shutdownWaitEnds]
    split_ifs
    · exact { ha with called := by simp }
    · exact ha

theorem AfterShutdown.run {pre : List Packet} {e : IoEngine} (h : Inv e)
    (ha : AfterShutdown pre e) (es : List PortEvent) : AfterShutdown pre (e.run es) := by
  induction es generalizing e with
  | nil => exact ha
  | cons a es ih => exact ih (h.step a) (ha.step h a)

/-! ## After a failed `Init` -/

/-- An engine that is not initialised, and whose `Shutdown`, if called, returned at once. -/
structure Down (e : IoEngine) : Prop where
  not_initialized : e.initialized = false
  not_waiting : e.shutdown ≠ .waiting
  keyFree : KeyFree e.posted

theorem down_init {threadCount : Int} {os : InitAnswers}
    (h : (init threadCount os).2 ≠ .success) : Down (init threadCount os).1 := by
  unfold init at h ⊢
  split_ifs at h ⊢ <;> constructor <;> simp_all [empty, KeyFree]

theorem Down.step {e : IoEngine} (h : Down e) (a : PortEvent) : Down (e.step a) := by
  cases a with
  | complete =>
    simp only [IoEngine.step, enqueue]
    split_ifs
    · exact { h with keyFree := keyFree_append.2 ⟨h.keyFree, by simp [KeyFree]⟩ }
    · exact h
  | dequeue i =>
    rcases dequeue_cases e i with he | ⟨_, _, _, _, _, he⟩ <;>
      (simp only [IoEngine.step, he]; exact ⟨h.1, h.2, h.3⟩)
  | callbackReturn i =>
    rcases callbackReturn_cases e i with he | ⟨_, _, he⟩ <;>
      (simp only [IoEngine.step, he]; exact ⟨h.1, h.2, h.3⟩)
  | shutdownCall =>
    simp only [IoEngine.step, shutdownCall, h.not_initialized, Bool.false_eq_true, if_false]
    split_ifs
    · exact ⟨rfl, by simp, h.keyFree⟩
    · exact h
  | shutdownWaitEnds => simpa only [IoEngine.step, shutdownWaitEnds, if_neg h.not_waiting] using h

theorem Down.run {e : IoEngine} (h : Down e) (es : List PortEvent) : Down (e.run es) := by
  induction es generalizing e with
  | nil => exact h
  | cons a es ih => exact ih (h.step a)

end IoEngine

/-! ## Every run -/

/-- `Shutdown` in a run from a successful `Init`: no packet queued after its keys is ever taken
    off the port; and once every thread has left its loop, the threads have taken exactly the
    packets queued before the call and the keys, and the callbacks of those completions have
    all returned, each once. -/
theorem shutdown_drains (threadCount : Int) (os : InitAnswers) (es₁ es₂ : List PortEvent)
    (hinit : (IoEngine.init threadCount os).2 = .success)
    (hcall : PortEvent.shutdownCall ∉ es₁) :
    let e₁ := (IoEngine.init threadCount os).1.run es₁
    let e := e₁.run (.shutdownCall :: es₂)
    e.taken <+: e₁.posted ++ List.replicate e.threadCount shutdownPacket ∧
      ((∀ w ∈ e.workers, w = .exited) →
        e.taken = e₁.posted ++ List.replicate e.threadCount shutdownPacket ∧
          e.returned.Perm (e₁.posted.filterMap Packet.callback)) := by
  intro e₁ e
  obtain ⟨hi, hs, -⟩ := IoEngine.init_success hinit
  have h₁ := (IoEngine.inv_init threadCount os).run es₁
  obtain ⟨hs₁, hi₁⟩ := IoEngine.run_before_shutdown hs hcall
  have h : e.Inv := h₁.shutdownCall.run es₂
  have ha : IoEngine.AfterShutdown e₁.posted e :=
    (IoEngine.afterShutdown_call h₁ hs₁ (hi₁.trans hi)).run h₁.shutdownCall es₂
  refine ⟨ha.taken, fun hx => ?_⟩
  have ht := ha.taken_eq h hx
  have hr : e.running = [] := List.filterMap_eq_nil_iff.2 fun w hw => by simp [hx w hw]
  have hk : (List.replicate e.threadCount shutdownPacket).filterMap Packet.callback = [] :=
    List.filterMap_eq_nil_iff.2 fun p hp => by simp [List.eq_of_mem_replicate hp]
  refine ⟨ht, ?_⟩
  simpa [hr, ht, hk, List.filterMap_append] using h.calls

/-- Two threads: a completion, `Shutdown`, another completion, and both threads take a packet.
    -/
theorem shutdown_drains_two_threads :
    (IoEngine.init 2 ⟨true, 4, true, true, fun _ => true⟩).2 = .success ∧
      PortEvent.shutdownCall ∉ [PortEvent.complete (some ⟨0, true⟩) 5 true 0] ∧
      let e₁ := (IoEngine.init 2 ⟨true, 4, true, true, fun _ => true⟩).1.run
        [.complete (some ⟨0, true⟩) 5 true 0]
      let e := e₁.run (.shutdownCall :: [.complete (some ⟨1, true⟩) 0 false 995, .dequeue 0,
        .dequeue 1, .dequeue 0, .callbackReturn 0])
      e.taken <+: e₁.posted ++ List.replicate e.threadCount shutdownPacket ∧
        ((∀ w ∈ e.workers, w = .exited) →
          e.taken = e₁.posted ++ List.replicate e.threadCount shutdownPacket ∧
            e.returned.Perm (e₁.posted.filterMap Packet.callback)) :=
  ⟨by decide, by decide,
    shutdown_drains 2 ⟨true, 4, true, true, fun _ => true⟩ _ _ (by decide) (by decide)⟩

/-- After a failed `Init`, whatever happens on the port, `Shutdown` included, no shutdown key is
    ever posted and no thread that `Init` started leaves its loop. -/
theorem failed_init_threads_stay (threadCount : Int) (os : InitAnswers) (es : List PortEvent)
    (h : (IoEngine.init threadCount os).2 ≠ .success) :
    let e := (IoEngine.init threadCount os).1.run es
    KeyFree e.posted ∧ WorkerPhase.exited ∉ e.workers := by
  intro e
  have hd := (IoEngine.down_init h).run es
  have hi := (IoEngine.inv_init threadCount os).run es
  refine ⟨hd.keyFree, fun hx => ?_⟩
  have ht : KeyFree e.taken := fun p hp => hd.keyFree p (hi.fifo ▸ List.mem_append_left _ hp)
  have hc := hi.exits
  rw [countP_isKey_of_keyFree ht, List.count_eq_zero] at hc
  exact hc hx

/-- The second of two threads fails to start: the first is left waiting through `Shutdown`. -/
theorem failed_init_threads_stay_second_thread :
    (IoEngine.init 2 ⟨true, 4, true, true, fun i => decide (i < 1)⟩).2 ≠ .success ∧
      let e := (IoEngine.init 2 ⟨true, 4, true, true, fun i => decide (i < 1)⟩).1.run
        [.complete (some ⟨0, true⟩) 5 true 0, .shutdownCall, .dequeue 0, .callbackReturn 0,
          .dequeue 0]
      KeyFree e.posted ∧ WorkerPhase.exited ∉ e.workers :=
  ⟨by decide,
    failed_init_threads_stay 2 ⟨true, 4, true, true, fun i => decide (i < 1)⟩ _ (by decide)⟩

end ReverseSocks
