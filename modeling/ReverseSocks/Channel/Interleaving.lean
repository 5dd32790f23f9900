import ReverseSocks.Mux.Registry

/-! # A channel's handlers on two workers

    `channel.cpp` takes no lock. The frames for a channel's id are dispatched one at a time on
    the worker that completes the transport's receive; the completions of the channel's
    target run on whichever worker takes them. So `OnClose` can run while
    `OnTargetDisconnected` or `OnTargetData` is part-way through on another worker.

    A handler is a list of statements (`Stmt`), one per test or write of the channel's fields
    or call to the session; a handler no race below needs split is one statement, and
    splitting it further only adds schedules. Run with no other statement between them, a
    handler's statements are the handler of the atomic model (`runAll_frameCode`,
    `runAll_targetCode`).
-/

namespace ReverseSocks

/-- What a channel's handlers share across workers: the channel object, whether the session's
    registry still holds it, and every call made so far (a ghost history). -/
structure Shared where
  ch : Channel
  held : Bool
  calls : List Call

/-- One statement of a channel handler, as a worker runs it. -/
inductive Stmt
  /-- `if (<test of m_state>)`, whose body is the next `n` statements. -/
  | test (p : ChannelState → Bool) (n : Nat)
  /-- `m_session->Send…(m_id, …)`. -/
  | send (c : UInt16 → MuxCall)
  /-- `m_state = s`. -/
  | setState (s : ChannelState)
  /-- `if (m_target) m_target->Close()`. -/
  | closeTarget
  /-- `m_target.reset()`. -/
  | resetTarget
  /-- The session's `RemoveChannel(id)`, if the state it reads passes `p`. -/
  | removeIf (p : ChannelState → Bool)
  /-- A stretch of a handler run as one step. -/
  | block (f : Channel → Channel × List Call)

namespace Shared

/-- The channel and the calls after a stretch of a handler returned `r`. -/
def apply (sh : Shared) (r : Channel × List Call) : Shared :=
  { sh with ch := r.1, calls := sh.calls ++ r.2 }

@[simp] theorem apply_ch (sh : Shared) (r : Channel × List Call) : (sh.apply r).ch = r.1 := rfl

@[simp] theorem apply_held (sh : Shared) (r : Channel × List Call) :
    (sh.apply r).held = sh.held := rfl

@[simp] theorem apply_calls (sh : Shared) (r : Channel × List Call) :
    (sh.apply r).calls = sh.calls ++ r.2 := rfl

@[simp] theorem apply_nil (sh : Shared) : sh.apply (sh.ch, []) = sh := by
  cases sh; simp [apply]

@[simp] theorem apply_with_held (sh : Shared) (r : Channel × List Call) :
    ({ sh.apply r with held := sh.held } : Shared) = sh.apply r := rfl

end Shared

namespace Stmt

/-- One statement: the shared state afterwards, and how many statements to skip. -/
def exec : Stmt → Shared → Shared × Nat
  | .test p n, sh => (sh, if p sh.ch.state then 0 else n)
  | .send c, sh => ({ sh with calls := sh.calls ++ [.mux (c sh.ch.id)] }, 0)
  | .setState s, sh => ({ sh with ch := { sh.ch with state := s } }, 0)
  | .closeTarget, sh => ({ sh with ch := { sh.ch with target := sh.ch.target.map TcpConnection.close } }, 0)
  | .resetTarget, sh => ({ sh with ch := { sh.ch with target := none } }, 0)
  | .removeIf p, sh => ({ sh with held := sh.held && !p sh.ch.state }, 0)
  | .block f, sh => (sh.apply (f sh.ch), 0)

/-- A worker runs the next statement of its code: the shared state and the code left. -/
def next : List Stmt → Shared → Shared × List Stmt
  | [], sh => (sh, [])
  | s :: ss, sh => ((s.exec sh).1, ss.drop (s.exec sh).2)

/-- A worker's code run to its end with no other statement between its own. -/
def runAll : List Stmt → Shared → Shared
  | [], sh => sh
  | s :: ss, sh => runAll (ss.drop (s.exec sh).2) (s.exec sh).1
termination_by code _ => code.length
decreasing_by simp_wf; omega

@[simp] theorem runAll_nil (sh : Shared) : runAll [] sh = sh := by rw [runAll]

theorem runAll_cons (s : Stmt) (ss : List Stmt) (sh : Shared) :
    runAll (s :: ss) sh = runAll (ss.drop (s.exec sh).2) (s.exec sh).1 := by
  rw [runAll]

/-- A statement run by itself is a stutter of the code's end result. -/
theorem runAll_next (code : List Stmt) (sh : Shared) :
    runAll (next code sh).2 (next code sh).1 = runAll code sh := by
  cases code with
  | nil => rfl
  | cons s ss => rw [runAll_cons]; rfl

end Stmt

/-! ## The handlers as statements -/

namespace Channel

/-- `OnClose`: send `CHANNEL_CLOSE_ACK`, close and drop the target, set `Closed`. -/
def onCloseCode : List Stmt :=
  [.send .channelCloseAck, .closeTarget, .resetTarget, .setState .closed]

/-- `ForceClose`: nothing once `Closed`; otherwise close and drop the target, set `Closed`. -/
def forceCloseCode : List Stmt :=
  [.test (· != .closed) 3, .closeTarget, .resetTarget, .setState .closed]

/-- `OnTargetDisconnected`. -/
def onTargetDisconnectedCode : List Stmt :=
  [.test (fun s => s == .relaying || s == .connecting) 2,
    .send (.channelClose · FRAME_FLAG_FIN), .setState .closing, .closeTarget]

/-- `OnTargetData`: `SendToMux`, in `Relaying` only. -/
def onTargetDataCode (data : ByteBuffer) : List Stmt :=
  [.test (· == .relaying) 1, .block (·.sendToMux data)]

section codes

open Stmt

variable (rest : List Stmt) (sh : Shared)

theorem runAll_onCloseCode (flags : UInt8) :
    runAll (onCloseCode ++ rest) sh = runAll rest (sh.apply (sh.ch.onClose flags)) := by
  simp only [onCloseCode, List.cons_append, List.nil_append, runAll_cons, exec, List.drop_zero]
  rfl

theorem runAll_forceCloseCode :
    runAll (forceCloseCode ++ rest) sh = runAll rest { sh with ch := sh.ch.forceClose } := by
  by_cases h : sh.ch.state = .closed <;>
    simp [forceCloseCode, runAll_cons, exec, forceClose, h]

theorem runAll_onTargetDisconnectedCode (e : ErrorCode) :
    runAll (onTargetDisconnectedCode ++ rest) sh =
      runAll rest (sh.apply (sh.ch.onTargetDisconnected e)) := by
  by_cases h : sh.ch.state = .relaying ∨ sh.ch.state = .connecting
  · rw [onTargetDisconnected_active h]
    rcases h with h | h <;> simp [onTargetDisconnectedCode, runAll_cons, exec, h] <;> rfl
  · rw [onTargetDisconnected_idle h]
    simp only [not_or] at h
    simp [onTargetDisconnectedCode, runAll_cons, exec, h.1, h.2, Shared.apply]

theorem runAll_onTargetDataCode (data : ByteBuffer) :
    runAll (onTargetDataCode data ++ rest) sh = runAll rest (sh.apply (sh.ch.onTargetData data)) := by
  by_cases h : sh.ch.state = .relaying <;> simp [onTargetDataCode, runAll_cons, exec, onTargetData, h]

end codes

end Channel

/-- What the worker of the transport's receive dispatches to a channel. -/
inductive FrameEvent
  /-- `CHANNEL_REQUEST`: `OnRequest`. -/
  | request (data : ByteBuffer)
  /-- `DATA`: `OnData`; `wsa` answers the `WSASend` it may start. -/
  | data (data : ByteBuffer) (wsa : Option ErrorCode)
  /-- `WINDOW_UPDATE`: `OnWindowUpdate`. -/
  | windowUpdate (increment : UInt32)
  /-- `CHANNEL_CLOSE`: `HandleChannelClose`. -/
  | close (flags : UInt8)
  /-- `CHANNEL_CLOSE_ACK`, or the session's `CloseAllChannels`: `ForceClose`, then the
      registry drops the channel. -/
  | forceClose

namespace FrameEvent

/-- The frame as an input of the atomic model. -/
def toInput : FrameEvent → ChannelEvent ⊕ ChannelEnd
  | .request payload => .inl (.request payload)
  | .data payload wsa => .inl (.data payload wsa)
  | .windowUpdate increment => .inl (.windowUpdate increment)
  | .close flags => .inr (.close flags)
  | .forceClose => .inr .forceClose

/-- The statements of a frame's dispatch. `HandleChannelClose` reads the state after `OnClose`
    returned and removes the channel only if it is `Closed`. -/
def code (net : Network) : FrameEvent → List Stmt
  | .request payload => [.block (·.onRequest payload net)]
  | .data payload wsa => [.block (·.onData payload wsa)]
  | .windowUpdate increment => [.block fun ch => (ch.onWindowUpdate increment, [])]
  | .close _ => Channel.onCloseCode ++ [.removeIf (· == .closed)]
  | .forceClose => Channel.forceCloseCode ++ [.removeIf fun _ => true]

end FrameEvent

namespace TargetEvent

/-- The statements of a completion of the channel's target, as a worker takes it while the
    channel is `ch`: the connection's handler, then its upcall. A receive runs
    `OnRecvComplete`'s bookkeeping, then `OnTargetDisconnected`, or `OnTargetData` and the
    next `PostRecv`. -/
def code (ch : Channel) : TargetEvent → List Stmt
  | .connectComplete ec post => [.block (·.onConnectCompletion ec post)]
  | .recvComplete bytes ec post =>
    match ch.target with
    | some t =>
      if t.recvPending then
        .block (fun ch => ({ ch with target := ch.target.map fun t => (t.recvComplete bytes ec).1 }, [])) ::
          match (t.recvComplete bytes ec).2 with
          | .disconnect _ => Channel.onTargetDisconnectedCode
          | .data b => Channel.onTargetDataCode b ++ [.block (·.afterTargetData post)]
      else []
    | none => []
  | .sendComplete ec wsa => [.block fun ch => (ch.onSendCompletion ec wsa, [])]

end TargetEvent

namespace Shared

variable (net : Network)

/-- The atomic model's dispatch of a frame: the whole handler, and for an ending the
    registry's removal. -/
def onFrame (sh : Shared) (f : FrameEvent) : Shared :=
  { sh.apply (sh.ch.handle net f.toInput) with held := sh.held && f.toInput.isLeft }

/-- The atomic model's completion of the target: the whole handler. -/
def onTarget (sh : Shared) (e : TargetEvent) : Shared :=
  sh.apply (sh.ch.step net e.toChannelEvent)

end Shared

section refinement

open Stmt

variable (net : Network) (sh : Shared)

/-- A frame's statements run with no other between them are the atomic handler. -/
theorem runAll_frameCode (f : FrameEvent) : runAll (f.code net) sh = sh.onFrame net f := by
  cases f with
  | close flags =>
    rw [FrameEvent.code, Channel.runAll_onCloseCode _ _ flags]
    simp [Shared.onFrame, FrameEvent.toInput, Channel.handle, Channel.finish, runAll_cons, exec,
      Channel.onClose]
  | forceClose =>
    simp only [FrameEvent.code, Channel.runAll_forceCloseCode, runAll_cons, exec, runAll_nil,
      List.drop_zero]
    simp [Shared.onFrame, FrameEvent.toInput, Channel.handle, Channel.finish, Shared.apply]
  | _ => simp [FrameEvent.code, Shared.onFrame, FrameEvent.toInput, Channel.handle, Channel.step,
      runAll_cons, exec, Shared.apply]

/-- A completion's statements run with no other between them are the atomic handler. -/
theorem runAll_targetCode (e : TargetEvent) :
    runAll (e.code sh.ch) sh = sh.onTarget net e := by
  cases e with
  | recvComplete bytes ec post =>
    simp only [Shared.onTarget, TargetEvent.toChannelEvent, Channel.step]
    rcases ht : sh.ch.target with _ | t
    · simp [TargetEvent.code, ht, Channel.onRecvCompletion_not_owed]
    by_cases hp : t.recvPending = true
    swap
    · simp [TargetEvent.code, ht, hp, Channel.onRecvCompletion_not_owed]
    rcases hr : (t.recvComplete bytes ec).2 with b | e
    · rw [Channel.onRecvCompletion_data ht hp hr]
      simp only [TargetEvent.code, ht, hp, hr, if_true, runAll_cons, exec, List.drop_zero,
        Channel.runAll_onTargetDataCode, runAll_nil, Option.map_some']
      simp [Shared.apply, Channel.onDataUpcall]
    · rw [Channel.onRecvCompletion_disconnect ht hp hr]
      simp only [TargetEvent.code, ht, hp, hr, if_true, runAll_cons, exec, List.drop_zero,
        Option.map_some']
      simpa [Shared.apply] using Channel.runAll_onTargetDisconnectedCode [] _ e
  | _ => simp [TargetEvent.code, Shared.onTarget, TargetEvent.toChannelEvent, Channel.step,
      runAll_cons, exec]

end refinement

/-- No reply sequence holds a `CHANNEL_CLOSE_ACK`. -/
theorem Channel.Reply.closeAck_not_mem {id : UInt16} {Y : List MuxCall} (h : Channel.Reply id Y)
    (k : UInt16) : MuxCall.channelCloseAck k ∉ Y := by
  cases h with
  | refused => simp
  | failed r _ => simp
  | relayed xs hxs =>
    intro hm
    simp only [List.mem_append, List.mem_cons, reduceCtorEq, List.mem_singleton, or_false,
      false_or, List.not_mem_nil] at hm
    exact hxs _ hm

/-- Calls that end with `CHANNEL_CLOSE_ACK` and then `CHANNEL_CLOSE` leave the reply grammar. -/
theorem Channel.not_allowedTrace_closeAck_close (id k : UInt16) (fl : UInt8) (cs : List MuxCall) :
    ¬ Channel.AllowedTrace id (cs ++ [.channelCloseAck k, .channelClose k fl]) := by
  rintro ⟨Y, hY, hp | ⟨y, -, he⟩⟩
  · have hm : MuxCall.channelCloseAck k ∈ MuxCall.channelOpenAck id :: Y := hp.subset (by simp)
    simp only [List.mem_cons, reduceCtorEq, false_or] at hm
    exact hY.closeAck_not_mem k hm
  · have he' : (cs ++ [.channelCloseAck k]) ++ [.channelClose k fl] =
        (MuxCall.channelOpenAck id :: y) ++ [.channelCloseAck id] := by simpa using he
    simpa using (List.append_inj' he' rfl).2

/-! ## Two workers -/

/-- A channel on two workers: the shared state, and the statements each worker still has to
    run, the one of the transport's receive (`dispatch`) and the one in a completion of the
    target (`target`). -/
structure Workers where
  shared : Shared
  dispatch : List Stmt
  target : List Stmt

/-- What happens next. -/
inductive WorkerEvent
  /-- The transport's worker dispatches a frame for the channel's id: it starts when that
      worker is idle and the registry holds the channel. -/
  | frame (f : FrameEvent)
  /-- A worker takes a completion of the target, when no other is inside one. -/
  | target (e : TargetEvent)
  /-- The transport's worker runs its next statement. -/
  | stepDispatch
  /-- The target's worker runs its next statement. -/
  | stepTarget

/-- The handler an event starts, as an input of the atomic model. -/
def WorkerEvent.input : WorkerEvent → Option (FrameEvent ⊕ TargetEvent)
  | .frame f => some (.inl f)
  | .target e => some (.inr e)
  | _ => none

namespace Shared

variable (net : Network)

/-- One input of the atomic model; a frame reaches the channel only while the registry holds
    it. -/
def handle (sh : Shared) : FrameEvent ⊕ TargetEvent → Shared
  | .inl f => if sh.held then sh.onFrame net f else sh
  | .inr e => sh.onTarget net e

/-- Inputs in order. -/
def run (sh : Shared) (xs : List (FrameEvent ⊕ TargetEvent)) : Shared := xs.foldl (handle net) sh

end Shared

namespace Workers

variable (net : Network)

/-- The channel `HandleChannelOpen` creates, registers and opens. -/
def opened (id : UInt16) (window_size : UInt32) : Workers :=
  ⟨⟨(Channel.new id window_size).onOpen.1, true, (Channel.new id window_size).onOpen.2⟩, [], []⟩

/-- Neither worker is inside a handler. -/
def idle (w : Workers) : Bool := w.dispatch.isEmpty && w.target.isEmpty

/-- One event. -/
def step (w : Workers) : WorkerEvent → Workers
  | .frame f => if w.dispatch.isEmpty && w.shared.held then { w with dispatch := f.code net } else w
  | .target e => if w.target.isEmpty then { w with target := e.code w.shared.ch } else w
  | .stepDispatch => ⟨(Stmt.next w.dispatch w.shared).1, (Stmt.next w.dispatch w.shared).2, w.target⟩
  | .stepTarget => ⟨(Stmt.next w.target w.shared).1, w.dispatch, (Stmt.next w.target w.shared).2⟩

/-- Events in order. -/
def run (w : Workers) (es : List WorkerEvent) : Workers := es.foldl (step net) w

/-- Every handler starts while both workers are idle, as with one I/O worker thread. -/
def serial (w : Workers) : List WorkerEvent → Bool
  | [] => true
  | e :: es => (e.input.isNone || w.idle) && serial (w.step net e) es

/-- The statements in flight run to their ends, the transport's worker first. -/
def complete (w : Workers) : Shared := Stmt.runAll w.target (Stmt.runAll w.dispatch w.shared)

@[simp] theorem run_nil (w : Workers) : w.run net [] = w := rfl

@[simp] theorem run_cons (w : Workers) (e : WorkerEvent) (es : List WorkerEvent) :
    w.run net (e :: es) = (w.step net e).run net es := rfl

theorem run_append (w : Workers) (es es' : List WorkerEvent) :
    w.run net (es ++ es') = (w.run net es).run net es' := List.foldl_append ..

theorem serial_append (w : Workers) (es es' : List WorkerEvent) :
    w.serial net (es ++ es') = (w.serial net es && (w.run net es).serial net es') := by
  induction es generalizing w with
  | nil => simp [serial]
  | cons e es ih => simp [serial, ih, Bool.and_assoc]

theorem idle_iff {w : Workers} : w.idle = true ↔ w.dispatch = [] ∧ w.target = [] := by
  simp [idle]

theorem complete_of_idle {w : Workers} (h : w.idle = true) : w.complete = w.shared := by
  obtain ⟨hd, ht⟩ := idle_iff.1 h
  simp [complete, hd, ht]

/-- One event of a serial schedule, with at most one worker inside a handler: a statement is a
    stutter of `complete`, and a start is the atomic handler. -/
theorem step_complete {w : Workers} (hw : w.dispatch = [] ∨ w.target = []) (e : WorkerEvent)
    (he : (e.input.isNone || w.idle) = true) :
    ((w.step net e).dispatch = [] ∨ (w.step net e).target = []) ∧
      (w.step net e).complete = match e.input with
        | some x => w.complete.handle net x
        | none => w.complete := by
  cases e with
  | frame f =>
    obtain ⟨hd, ht⟩ := idle_iff.1 (by simpa [WorkerEvent.input] using he)
    cases hh : w.shared.held
    · simp [step, hd, ht, hh, complete, Shared.handle, WorkerEvent.input]
    · simp [step, hd, ht, hh, complete, Shared.handle, WorkerEvent.input, runAll_frameCode]
  | target e =>
    obtain ⟨hd, ht⟩ := idle_iff.1 (by simpa [WorkerEvent.input] using he)
    simp [step, hd, ht, complete, Shared.handle, WorkerEvent.input, runAll_targetCode net]
  | stepDispatch =>
    rcases hw with hd | ht
    · simp [step, hd, complete, Stmt.next, WorkerEvent.input]
    · simp [step, ht, complete, Stmt.runAll_next, WorkerEvent.input]
  | stepTarget =>
    rcases hw with hd | ht
    · simp [step, hd, complete, Stmt.runAll_next, WorkerEvent.input]
    · simp [step, ht, complete, Stmt.next, WorkerEvent.input]

/-- A serial schedule, from a state with at most one worker inside a handler, refines the
    atomic model under `complete`. -/
theorem serial_complete {w : Workers} (hw : w.dispatch = [] ∨ w.target = [])
    (es : List WorkerEvent) (hs : w.serial net es = true) :
    (w.run net es).complete = w.complete.run net (es.filterMap WorkerEvent.input) := by
  induction es generalizing w with
  | nil => rfl
  | cons e es ih =>
    simp only [serial, Bool.and_eq_true] at hs
    obtain ⟨hw', hc⟩ := step_complete net hw e hs.1
    rw [run_cons, ih hw' hs.2, hc, List.filterMap_cons]
    cases e.input <;> rfl

/-- A SOCKS5 method request and a CONNECT to 127.0.0.1:80 in one `CHANNEL_REQUEST`, and the
    connect's completion, each handler alone. -/
def grantConnect : List WorkerEvent :=
  [.frame (.request [5, 1, 0, 5, 1, 0, 1, 127, 0, 0, 1, 0, 80]), .stepDispatch,
    .target (.connectComplete .success none), .stepTarget]

/-- Every schedule in which a handler starts only while both workers are idle, as with one I/O
    worker thread, computes what the atomic model computes: wherever both workers are idle, the
    shared state is the atomic run of the handlers started, in order. -/
theorem serial_run (w : Workers) (es : List WorkerEvent) (hi : w.idle = true)
    (hs : w.serial net es = true) (hi' : (w.run net es).idle = true) :
    (w.run net es).shared = w.shared.run net (es.filterMap WorkerEvent.input) := by
  rw [← complete_of_idle hi', serial_complete net (.inl (idle_iff.1 hi).1) es hs,
    complete_of_idle hi]

/-- The channel granted a CONNECT, each handler alone. -/
theorem serial_run_granted :
    (opened 1 262144).idle = true ∧
      (opened 1 262144).serial (fun _ _ => .success) grantConnect = true ∧
      ((opened 1 262144).run (fun _ _ => .success) grantConnect).idle = true ∧
      ((opened 1 262144).run (fun _ _ => .success) grantConnect).shared =
        (opened 1 262144).shared.run (fun _ _ => .success)
          [.inl (.request [5, 1, 0, 5, 1, 0, 1, 127, 0, 0, 1, 0, 80]),
            .inr (.connectComplete .success none)] :=
  ⟨rfl, by decide, by decide, serial_run _ _ _ rfl (by decide) (by decide)⟩

end Workers

/-! ## One worker -/

theorem Channel.step_of_target_none {ch : Channel} (h : ch.target = none) (net : Network)
    (e : TargetEvent) : ch.step net e.toChannelEvent = (ch, []) := by
  cases e <;> simp [TargetEvent.toChannelEvent, Channel.step, Channel.onConnectCompletion,
    Channel.onRecvCompletion, Channel.onSendCompletion, h]

namespace Shared

variable {net : Network} {id : UInt16} {sh : Shared}

/-- What the atomic model keeps of a channel opened under `id`: the lifecycle invariant, and,
    while the registry holds it, a history its state allows; once dropped, it is `Closed` and
    its calls follow the reply grammar. -/
structure Good (id : UInt16) (sh : Shared) : Prop where
  inv : sh.ch.Inv
  live : sh.held = true → Channel.Hist id sh.ch (Channel.muxCalls sh.calls)
  ended : sh.held = false →
    sh.ch.state = .closed ∧ Channel.AllowedTrace id (Channel.muxCalls sh.calls)

theorem good_opened (id : UInt16) (W : UInt32) : (Workers.opened id W).shared.Good id :=
  ⟨rfl, fun _ => ⟨rfl, rfl⟩, fun h => by simp [Workers.opened] at h⟩

theorem Good.step (h : sh.Good id) (hh : sh.held = true) (ev : ChannelEvent) :
    (sh.apply (sh.ch.step net ev)).Good id :=
  ⟨Channel.inv_step h.inv net ev, fun _ => by simpa using Channel.hist_step h.inv (h.live hh) net ev,
    fun h' => by simp [hh] at h'⟩

theorem Good.finish (h : sh.Good id) (hh : sh.held = true) (en : ChannelEnd) :
    ({ sh.apply (sh.ch.finish en) with held := false } : Shared).Good id := by
  refine ⟨Channel.inv_finish h.inv en, by simp, fun _ => ⟨Channel.finish_state en, ?_⟩⟩
  have ha : Channel.AllowedTrace id (Channel.muxCalls sh.calls ++
      Channel.muxCalls (Channel.run (fun _ _ => .success) sh.ch [.inr en]).2) :=
    (h.live hh).allowed_finish (some en)
  simpa [Channel.run, Channel.handle] using ha

/-- Once dropped, the channel is `Closed` with no target, so a completion does nothing. -/
theorem Good.onTarget_dropped (h : sh.Good id) (hh : sh.held = false) (e : TargetEvent) :
    sh.onTarget net e = sh := by
  have ht : sh.ch.target = none := by simpa [Channel.Inv, (h.ended hh).1] using h.inv
  simp [onTarget, Channel.step_of_target_none ht]

theorem Good.handle (h : sh.Good id) : ∀ x, (sh.handle net x).Good id
  | .inl f => by
    cases hh : sh.held
    · simpa [Shared.handle, hh] using h
    · cases f <;> simp only [Shared.handle, if_pos hh, onFrame, FrameEvent.toInput,
        Channel.handle, Sum.isLeft_inl, Sum.isLeft_inr, Bool.and_true, Bool.and_false,
        apply_with_held]
      all_goals first | exact h.step hh _ | exact h.finish hh _
  | .inr e => by
    cases hh : sh.held
    · simpa [Shared.handle, h.onTarget_dropped hh] using h
    · exact h.step hh e.toChannelEvent

theorem Good.closed_handle (h : sh.Good id) (hc : sh.ch.state = .closed) (x : FrameEvent ⊕ TargetEvent) :
    (sh.handle net x).ch.state = .closed := by
  have key : ∀ y : ChannelEvent ⊕ ChannelEnd, (sh.ch.handle net y).1.state = .closed := fun y =>
    (Channel.settled_handle h.inv net y (by simp [hc])).2 hc
  cases x with
  | inl f => by_cases hh : sh.held <;> simp [Shared.handle, onFrame, hh, hc, key]
  | inr e => exact key (.inl e.toChannelEvent)

theorem Good.run (h : sh.Good id) (xs : List (FrameEvent ⊕ TargetEvent)) :
    (sh.run net xs).Good id := by
  induction xs generalizing sh with
  | nil => exact h
  | cons x xs ih => exact ih (h.handle x)

theorem Good.closed_run (h : sh.Good id) (hc : sh.ch.state = .closed)
    (xs : List (FrameEvent ⊕ TargetEvent)) : (sh.run net xs).ch.state = .closed := by
  induction xs generalizing sh with
  | nil => exact hc
  | cons x xs ih => exact ih (h.handle x) (h.closed_handle hc x)

theorem handle_held (sh : Shared) (x : FrameEvent ⊕ TargetEvent) :
    (sh.handle net x).held = true ↔
      sh.held = true ∧ ∀ f, x = .inl f → f.toInput.isLeft = true := by
  cases x with
  | inl f => by_cases hh : sh.held <;> simp [Shared.handle, onFrame, hh]
  | inr e => simp [Shared.handle, onTarget]

/-- The registry holds the channel until an ending is dispatched to it. -/
theorem run_held (sh : Shared) (xs : List (FrameEvent ⊕ TargetEvent)) :
    (sh.run net xs).held = true ↔
      sh.held = true ∧ ∀ f, .inl f ∈ xs → f.toInput.isLeft = true := by
  induction xs generalizing sh with
  | nil => simp [Shared.run]
  | cons x xs ih =>
    rw [Shared.run, List.foldl_cons, ← Shared.run, ih, handle_held]
    simp only [List.mem_cons]
    constructor
    · rintro ⟨⟨hh, hx⟩, hxs⟩
      exact ⟨hh, fun f hf => hf.elim (fun e => hx f e.symm) (hxs f)⟩
    · rintro ⟨hh, hf⟩
      exact ⟨⟨hh, fun f e => hf f (.inl e.symm)⟩, fun f h' => hf f (.inr h')⟩

end Shared

theorem WorkerEvent.inl_mem_filterMap {f : FrameEvent} {es : List WorkerEvent} :
    .inl f ∈ es.filterMap WorkerEvent.input ↔ WorkerEvent.frame f ∈ es := by
  rw [List.mem_filterMap]
  constructor
  · rintro ⟨e, he, hi⟩
    cases e <;> simp_all [WorkerEvent.input]
  · intro h
    exact ⟨_, h, rfl⟩

namespace Workers

variable (net : Network)

/-- With one I/O worker the handlers never overlap, and whenever none runs the channel keeps
    its laws: its calls follow the reply grammar, its state and target agree as in the atomic
    lifecycle, the registry holds it until a close is dispatched, and `Closed` is never left. -/
theorem one_worker_laws (id : UInt16) (W : UInt32) (es es' : List WorkerEvent)
    (hs : (opened id W).serial net (es ++ es') = true)
    (hi : ((opened id W).run net es).idle = true)
    (hi' : ((opened id W).run net (es ++ es')).idle = true) :
    let w := (opened id W).run net es
    Channel.AllowedTrace id (Channel.muxCalls w.shared.calls) ∧
    w.shared.ch.state ≠ .opening ∧
    (w.shared.ch.target.isSome = true ↔
      w.shared.ch.state = .connecting ∨ w.shared.ch.state = .relaying ∨
        w.shared.ch.state = .closing) ∧
    (w.shared.ch.state = .relaying →
      ∃ t, w.shared.ch.target = some t ∧ t.connected = true ∧ t.socket = true) ∧
    (w.shared.ch.state = .connecting ∨ w.shared.ch.state = .relaying ∨
      w.shared.ch.state = .closing → w.shared.ch.methodDone = true) ∧
    (w.shared.held = true ↔ ∀ f, WorkerEvent.frame f ∈ es → f.toInput.isLeft = true) ∧
    (w.shared.ch.state = .closed →
      ((opened id W).run net (es ++ es')).shared.ch.state = .closed) := by
  intro w
  rw [serial_append, Bool.and_eq_true] at hs
  have ho : (opened id W).idle = true := rfl
  have hw : w.shared = (opened id W).shared.run net (es.filterMap WorkerEvent.input) := by
    rw [← complete_of_idle hi, serial_complete net (.inl (idle_iff.1 ho).1) es hs.1,
      complete_of_idle ho]
  have hw' : ((opened id W).run net (es ++ es')).shared =
      w.shared.run net (es'.filterMap WorkerEvent.input) := by
    rw [← complete_of_idle hi', run_append, serial_complete net (.inl (idle_iff.1 hi).1) es' hs.2,
      complete_of_idle hi]
  have hg : w.shared.Good id := hw ▸ (Shared.good_opened id W).run _
  refine ⟨?_, hg.inv.shape.1, hg.inv.shape.2.1, hg.inv.shape.2.2.1, hg.inv.shape.2.2.2, ?_,
    fun hc => hw' ▸ hg.closed_run hc _⟩
  · cases hh : w.shared.held
    · exact (hg.ended hh).2
    · have ha : Channel.AllowedTrace id (Channel.muxCalls w.shared.calls ++
          Channel.muxCalls (Channel.run net w.shared.ch []).2) := (hg.live hh).allowed_finish none
      simpa [Channel.run] using ha
  · rw [hw, Shared.run_held]
    simp only [WorkerEvent.inl_mem_filterMap]
    exact ⟨fun h => h.2, fun h => ⟨rfl, h⟩⟩

/-- A channel granted a CONNECT and then closed by the peer, each handler alone. -/
theorem one_worker_laws_granted_then_closed :
    (opened 1 262144).serial (fun _ _ => .success) (grantConnect ++
        [.frame (.close 0), .stepDispatch, .stepDispatch, .stepDispatch, .stepDispatch,
          .stepDispatch]) = true ∧
      ((opened 1 262144).run (fun _ _ => .success) grantConnect).idle = true ∧
      ((opened 1 262144).run (fun _ _ => .success) (grantConnect ++
        [.frame (.close 0), .stepDispatch, .stepDispatch, .stepDispatch, .stepDispatch,
          .stepDispatch])).idle = true ∧
      Channel.AllowedTrace 1 (Channel.muxCalls
        ((opened 1 262144).run (fun _ _ => .success) grantConnect).shared.calls) :=
  ⟨by decide, by decide, by decide,
    (one_worker_laws (fun _ _ => .success) 1 262144 grantConnect
      [.frame (.close 0), .stepDispatch, .stepDispatch, .stepDispatch, .stepDispatch, .stepDispatch]
      (by decide) (by decide) (by decide)).1⟩

/-! ## A close racing a lost target -/

/-- `CHANNEL_CLOSE` dispatched while a completion reports the target lost: that completion's
    worker tests the state; the transport's worker runs `OnClose`; the first sends
    `CHANNEL_CLOSE(FIN)` and sets `Closing`; `HandleChannelClose` reads the state; and
    `OnTargetDisconnected` closes the target, which is gone. -/
def closeRace (bytes : ByteBuffer) (ec : ErrorCode) (post : Option ErrorCode) (flags : UInt8) :
    List WorkerEvent :=
  [.target (.recvComplete bytes ec post), .stepTarget, .stepTarget,
    .frame (.close flags), .stepDispatch, .stepDispatch, .stepDispatch, .stepDispatch,
    .stepTarget, .stepTarget, .stepDispatch, .stepTarget]

variable {w : Workers} {t : TcpConnection} {bytes : ByteBuffer} {ec : ErrorCode}

/-- The race from an idle, registered, relaying channel whose target owes a receive that
    reports the connection lost: after `OnClose` the channel is `Closed` with no target; at the
    end it is `Closing` with no target, still registered, and has sent `CHANNEL_CLOSE_ACK` and
    then `CHANNEL_CLOSE(FIN)`. -/
theorem run_closeRace (hi : w.idle = true) (hh : w.shared.held = true)
    (hs : w.shared.ch.state = .relaying) (ht : w.shared.ch.target = some t)
    (hp : t.recvPending = true) (hl : ec ≠ .success ∨ bytes = []) (post : Option ErrorCode)
    (flags : UInt8) :
    (w.run net ((closeRace bytes ec post flags).take 8)).shared.ch =
        { w.shared.ch with state := .closed, target := none } ∧
      w.run net (closeRace bytes ec post flags) =
        ⟨⟨{ w.shared.ch with state := .closing, target := none }, true, w.shared.calls ++
          [.mux (.channelCloseAck w.shared.ch.id), .mux (.channelClose w.shared.ch.id FRAME_FLAG_FIN)]⟩,
          [], []⟩ := by
  obtain ⟨⟨ch, held, calls⟩, d, tg⟩ := w
  obtain ⟨rfl, rfl⟩ := idle_iff.1 hi
  dsimp only at hh hs ht
  subst hh
  have hr : (t.recvComplete bytes ec).2 =
      .disconnect (if ec = .success then .connectionReset else ec) := by
    simp [TcpConnection.recvComplete, hl]
  simp [closeRace, step, TargetEvent.code, ht, hp, hr, Stmt.next, Stmt.exec, hs,
    Channel.onTargetDisconnectedCode, Channel.onCloseCode, FrameEvent.code]

section race

variable (id : UInt16) (W : UInt32) (es : List WorkerEvent) (t : TcpConnection)
  (bytes : ByteBuffer) (ec : ErrorCode) (post : Option ErrorCode) (flags : UInt8)

/-- With two workers, a relaying channel whose target reports the connection lost while
    `CHANNEL_CLOSE` is dispatched sends `CHANNEL_CLOSE(FIN)` after `CHANNEL_CLOSE_ACK`, so its
    calls leave the reply grammar. -/
theorem close_race_calls (hi : ((opened id W).run net es).idle = true)
    (hh : ((opened id W).run net es).shared.held = true)
    (hs : ((opened id W).run net es).shared.ch.state = .relaying)
    (ht : ((opened id W).run net es).shared.ch.target = some t) (hp : t.recvPending = true)
    (hl : ec ≠ .success ∨ bytes = []) :
    ¬ Channel.AllowedTrace id
      (Channel.muxCalls ((opened id W).run net (es ++ closeRace bytes ec post flags)).shared.calls) := by
  rw [run_append, (run_closeRace net hi hh hs ht hp hl post flags).2]
  simp only [Channel.muxCalls_append, Channel.muxCalls_cons_mux, Channel.muxCalls_nil]
  exact Channel.not_allowedTrace_closeAck_close id _ _ _

/-- The channel granted a CONNECT, whose target's peer then closes while `CHANNEL_CLOSE` is
    dispatched. -/
theorem close_race_calls_granted :
    ((opened 1 262144).run (fun _ _ => .success) grantConnect).idle = true ∧
      ((opened 1 262144).run (fun _ _ => .success) grantConnect).shared.held = true ∧
      ((opened 1 262144).run (fun _ _ => .success) grantConnect).shared.ch.state = .relaying ∧
      ((opened 1 262144).run (fun _ _ => .success) grantConnect).shared.ch.target =
        some ⟨true, true, true, false, [], false, true, false⟩ ∧
      ¬ Channel.AllowedTrace 1 (Channel.muxCalls ((opened 1 262144).run (fun _ _ => .success)
        (grantConnect ++ closeRace [] .success none 0)).shared.calls) :=
  ⟨by decide, by decide, by decide, by decide, close_race_calls (fun _ _ => .success) 1 262144 grantConnect ⟨true, true, true, false, [], false, true, false⟩
      [] .success none 0 (by decide) (by decide) (by decide) (by decide) rfl (.inr rfl)⟩

/-- With two workers, the same race takes the channel from `Closed` to `Closing`, which then owns
    no target. -/
theorem close_race_lifecycle (hi : ((opened id W).run net es).idle = true)
    (hh : ((opened id W).run net es).shared.held = true)
    (hs : ((opened id W).run net es).shared.ch.state = .relaying)
    (ht : ((opened id W).run net es).shared.ch.target = some t) (hp : t.recvPending = true)
    (hl : ec ≠ .success ∨ bytes = []) :
    ((opened id W).run net (es ++ (closeRace bytes ec post flags).take 8)).shared.ch.state = .closed ∧
      ((opened id W).run net (es ++ closeRace bytes ec post flags)).shared.ch.state = .closing ∧
      ((opened id W).run net (es ++ closeRace bytes ec post flags)).shared.ch.target = none := by
  have h := run_closeRace net hi hh hs ht hp hl post flags
  simp only [run_append, h.1, h.2, and_self]

/-- The channel granted a CONNECT, whose target's peer then closes while `CHANNEL_CLOSE` is
    dispatched. -/
theorem close_race_lifecycle_granted :
    ((opened 1 262144).run (fun _ _ => .success) grantConnect).idle = true ∧
      ((opened 1 262144).run (fun _ _ => .success) grantConnect).shared.held = true ∧
      ((opened 1 262144).run (fun _ _ => .success) grantConnect).shared.ch.state = .relaying ∧
      ((opened 1 262144).run (fun _ _ => .success) grantConnect).shared.ch.target =
        some ⟨true, true, true, false, [], false, true, false⟩ ∧
      ((opened 1 262144).run (fun _ _ => .success)
        (grantConnect ++ (closeRace [] .success none 0).take 8)).shared.ch.state = .closed ∧
      ((opened 1 262144).run (fun _ _ => .success)
        (grantConnect ++ closeRace [] .success none 0)).shared.ch.state = .closing ∧
      ((opened 1 262144).run (fun _ _ => .success)
        (grantConnect ++ closeRace [] .success none 0)).shared.ch.target = none :=
  ⟨by decide, by decide, by decide, by decide, close_race_lifecycle (fun _ _ => .success) 1 262144 grantConnect ⟨true, true, true, false, [], false, true, false⟩
      [] .success none 0 (by decide) (by decide) (by decide) (by decide) rfl (.inr rfl)⟩

/-- With two workers, the same race leaves the channel in the registry once both handlers
    returned, though `CHANNEL_CLOSE` is the last frame dispatched for it. -/
theorem close_race_registered (hi : ((opened id W).run net es).idle = true)
    (hh : ((opened id W).run net es).shared.held = true)
    (hs : ((opened id W).run net es).shared.ch.state = .relaying)
    (ht : ((opened id W).run net es).shared.ch.target = some t) (hp : t.recvPending = true)
    (hl : ec ≠ .success ∨ bytes = []) :
    ((opened id W).run net (es ++ closeRace bytes ec post flags)).idle = true ∧
      ((opened id W).run net (es ++ closeRace bytes ec post flags)).shared.held = true := by
  rw [run_append, (run_closeRace net hi hh hs ht hp hl post flags).2]
  exact ⟨rfl, rfl⟩

/-- The channel granted a CONNECT, whose target's peer then closes while `CHANNEL_CLOSE` is
    dispatched. -/
theorem close_race_registered_granted :
    ((opened 1 262144).run (fun _ _ => .success) grantConnect).idle = true ∧
      ((opened 1 262144).run (fun _ _ => .success) grantConnect).shared.held = true ∧
      ((opened 1 262144).run (fun _ _ => .success) grantConnect).shared.ch.state = .relaying ∧
      ((opened 1 262144).run (fun _ _ => .success) grantConnect).shared.ch.target =
        some ⟨true, true, true, false, [], false, true, false⟩ ∧
      ((opened 1 262144).run (fun _ _ => .success)
        (grantConnect ++ closeRace [] .success none 0)).idle = true ∧
      ((opened 1 262144).run (fun _ _ => .success)
        (grantConnect ++ closeRace [] .success none 0)).shared.held = true :=
  ⟨by decide, by decide, by decide, by decide, close_race_registered (fun _ _ => .success) 1 262144 grantConnect ⟨true, true, true, false, [], false, true, false⟩
      [] .success none 0 (by decide) (by decide) (by decide) (by decide) rfl (.inr rfl)⟩

end race

end Workers

end ReverseSocks
