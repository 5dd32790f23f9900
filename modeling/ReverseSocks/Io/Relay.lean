import ReverseSocks.Io.Engine
import ReverseSocks.Socks5.Session

/-! # Relays on the completion port of the proxy library

    The proxy library runs its SOCKS5 sessions' target connections on the same `IoEngine` and
    `TcpConnection` as the client. The worker that takes a session's connect completion calls
    `OnTcpConnected`, which on `Success` runs `StartRelay`: a loop that reads the SSH channel
    and blocks in `Read` until the channel ends (`Socks5Session.startRelay`). The worker leaves
    the callback only then.

    `RelayPort` is the engine of `Io/Engine.lean` with the proxy's sessions, whose connect
    callbacks return as `Socks5Session.onTcpConnected` says. Once every worker runs the relay of
    a session whose channel is open (`RelayPort.Starved`), nothing is taken off the port again
    until one of those channels ends (`relays_starve_port`).
-/

namespace ReverseSocks

namespace Socks5Session

/-- `StartRelay`'s loop ends exactly when a `Read` returned the channel's end. -/
theorem startRelay_ended (reads : List ByteBuffer) : (startRelay reads).2.1 = true ↔ [] ∈ reads := by
  induction reads with
  | nil => simp [startRelay]
  | cons r rs ih =>
    by_cases hr : r = []
    · simp [startRelay, hr]
    · simp [startRelay, hr, ih, Ne.symm hr]

/-- `OnTcpConnected` returns, the session closed, exactly when the connect failed or
    `StartRelay` read the channel's end; otherwise it blocks in `Read`. -/
theorem onTcpConnected_closed (s : Socks5Session) (ec : ErrorCode) (reads : List ByteBuffer) :
    (s.onTcpConnected ec reads).1.state = .closed ↔ ec ≠ .success ∨ [] ∈ reads := by
  rw [← startRelay_ended]
  by_cases hec : ec = .success <;> by_cases hk : (startRelay reads).2.1 = true <;>
    simp [onTcpConnected, hec, hk, close_state]

end Socks5Session

/-- The contexts of session `s`'s `m_tcp`: `m_connect_ctx` is `3 * s`, `m_recv_ctx` and
    `m_send_ctx` the next two. -/
def connectCtx (s : Nat) : Nat := 3 * s

/-- A session of the proxy once its handshake has started the connect: the session, and what
    its channel's `Read` has returned since. -/
structure RelaySession where
  session : Socks5Session
  reads : List ByteBuffer
  deriving Repr

/-- The proxy's completion port and its sessions. -/
structure RelayPort where
  engine : IoEngine
  sessions : List RelaySession
  deriving Repr

/-- What can happen next. -/
inductive RelayEvent
  /-- An event of the completion port. -/
  | port (a : PortEvent)
  /-- `Read` on session `s`'s channel returns `r`: bytes, or `[]` for its end or an error. -/
  | read (s : Nat) (r : ByteBuffer)
  deriving DecidableEq, Repr

namespace RelayPort

/-- The session whose `OnTcpConnected` a callback is: that of its `m_connect_ctx`. -/
def sessionOf (c : Callback) : Option Nat := if c.ctx % 3 = 0 then some (c.ctx / 3) else none

/-- A callback that has not returned: `OnTcpConnected` of a session that it leaves open, its
    `StartRelay` loop blocked in `Read`. -/
def blocked (x : RelayPort) (c : Callback) : Bool :=
  match sessionOf c >>= (x.sessions[·]?) with
  | some r => (r.session.onTcpConnected c.ec r.reads).1.state != .closed
  | none => false

/-- One event. A thread whose callback is blocked does not return from it. -/
def step (x : RelayPort) : RelayEvent → RelayPort
  | .read s r => { x with sessions := x.sessions.modify (fun q => { q with reads := q.reads ++ [r] }) s }
  | .port (.callbackReturn i) =>
    match x.engine.workers[i]? with
    | some (.calling c) => if x.blocked c then x else { x with engine := x.engine.callbackReturn i }
    | _ => x
  | .port a => { x with engine := x.engine.step a }

/-- The events of a run, in order. -/
def run (x : RelayPort) (es : List RelayEvent) : RelayPort := es.foldl step x

/-- The sessions after their handshakes `hs`, one list of channel reads each, with what their
    channels returned after the handshake, and the port as `Init` leaves it. -/
def opened (net : Network) (threadCount : Int) (os : InitAnswers) (hs : List (List ByteBuffer)) :
    RelayPort :=
  ⟨(IoEngine.init threadCount os).1,
    hs.map fun h => ⟨(Socks5Session.start net h).1, (Socks5Session.start net h).2.2⟩⟩

@[simp] theorem run_nil (x : RelayPort) : x.run [] = x := rfl

@[simp] theorem run_cons (x : RelayPort) (a : RelayEvent) (es : List RelayEvent) :
    x.run (a :: es) = (x.step a).run es := rfl

theorem run_append (x : RelayPort) (es es' : List RelayEvent) :
    x.run (es ++ es') = (x.run es).run es' := List.foldl_append ..

/-- Events of the port other than callback returns run as on the engine. -/
theorem run_port (x : RelayPort) (as : List PortEvent)
    (has : ∀ i, PortEvent.callbackReturn i ∉ as) :
    x.run (as.map .port) = { x with engine := x.engine.run as } := by
  induction as generalizing x with
  | nil => rfl
  | cons a as ih =>
    have hs : x.step (.port a) = { x with engine := x.engine.step a } := by
      cases a with
      | callbackReturn i => exact absurd (.head _) (has i)
      | _ => rfl
    rw [List.map_cons, run_cons, hs, ih _ fun i hi => has i (.tail _ hi)]
    rfl

theorem blocked_iff {x : RelayPort} {c : Callback} :
    x.blocked c = true ↔ ∃ s r, sessionOf c = some s ∧ x.sessions[s]? = some r ∧
      c.ec = .success ∧ [] ∉ r.reads := by
  unfold blocked
  rcases hs : sessionOf c with _ | s
  · simp
  rcases hr : x.sessions[s]? with _ | r
  · simp [hr]
  simp [hr, Socks5Session.onTcpConnected_closed]

/-! ## Every thread in a relay -/

/-- Every thread runs the callback of a session of `S`, blocked in its relay. -/
def Starved (S : List Nat) (x : RelayPort) : Prop :=
  ∀ w ∈ x.engine.workers, ∃ c s, w = .calling c ∧ sessionOf c = some s ∧ s ∈ S ∧
    x.blocked c = true

/-- Completions and `Shutdown` leave the threads where they are and take nothing off the
    port. -/
theorem engine_step_frame (e : IoEngine) (a : PortEvent) (ha₁ : ∀ i, a ≠ .dequeue i)
    (ha₂ : ∀ i, a ≠ .callbackReturn i) :
    (e.step a).workers = e.workers ∧ (e.step a).taken = e.taken := by
  cases a with
  | dequeue i => exact absurd rfl (ha₁ i)
  | callbackReturn i => exact absurd rfl (ha₂ i)
  | _ =>
    simp only [IoEngine.step, IoEngine.shutdownCall, IoEngine.shutdownWaitEnds, IoEngine.enqueue]
    split_ifs <;> exact ⟨rfl, rfl⟩

/-- A read that does not end the channel of a session of `S` keeps its callbacks blocked. -/
theorem blocked_read {S : List Nat} {x : RelayPort} {c : Callback} {s : Nat}
    (hc : sessionOf c = some s) (hS : s ∈ S) (hb : x.blocked c = true) (s' : Nat) (r : ByteBuffer)
    (hr : ∀ t ∈ S, RelayEvent.read s' r ≠ .read t []) : (x.step (.read s' r)).blocked c = true := by
  obtain ⟨t, q, ht, hq, hec, hn⟩ := blocked_iff.1 hb
  rw [hc] at ht; cases ht
  by_cases hs : s' = s
  · subst hs
    have : r ≠ [] := fun h => hr s' hS (by rw [h])
    refine blocked_iff.2 ⟨s', { q with reads := q.reads ++ [r] }, hc, ?_, hec,
      by simp [hn, Ne.symm this]⟩
    simp [step, List.getElem?_modify, hq]
  · exact blocked_iff.2 ⟨s, q, hc, by simp [step, List.getElem?_modify, hq, hs], hec, hn⟩

/-- While every thread is blocked in a relay of an open channel, an event other than the end of
    one of those channels takes nothing off the port and moves no thread. -/
theorem Starved.step {S : List Nat} {x : RelayPort} (h : Starved S x)
    (a : RelayEvent) (ha : ∀ s ∈ S, a ≠ .read s []) :
    Starved S (x.step a) ∧ (x.step a).engine.taken = x.engine.taken ∧
      (x.step a).engine.workers = x.engine.workers := by
  cases a with
  | read s' r =>
    refine ⟨fun w hw => ?_, rfl, rfl⟩
    obtain ⟨c, s, rfl, hc, hs, hb⟩ := h w hw
    exact ⟨c, s, rfl, hc, hs, blocked_read hc hs hb s' r ha⟩
  | port a =>
    suffices hw : (x.step (.port a)).engine.workers = x.engine.workers ∧
        (x.step (.port a)).engine.taken = x.engine.taken ∧
        ∀ c, (x.step (.port a)).blocked c = x.blocked c by
      refine ⟨fun w hw' => ?_, hw.2.1, hw.1⟩
      rw [hw.1] at hw'
      obtain ⟨c, s, rfl, hc, hs, hb⟩ := h w hw'
      exact ⟨c, s, rfl, hc, hs, by rw [hw.2.2]; exact hb⟩
    cases a with
    | dequeue i =>
      rcases IoEngine.dequeue_cases x.engine i with he | ⟨_, _, _, hw, -, -⟩
      · exact ⟨congrArg IoEngine.workers he, congrArg IoEngine.taken he, fun _ => rfl⟩
      · obtain ⟨c, s, hc, -⟩ := h _ (List.getElem?_mem hw)
        cases hc
    | callbackReturn i =>
      simp only [RelayPort.step]
      split
      · next c hw =>
        obtain ⟨c', s, hc, -, -, hb⟩ := h _ (List.getElem?_mem hw)
        cases hc
        simp [hb]
      · exact ⟨rfl, rfl, fun _ => rfl⟩
    | _ => exact (engine_step_frame x.engine _ (by simp) (by simp)).imp_right (⟨·, fun _ => rfl⟩)

theorem Starved.run {S : List Nat} {x : RelayPort} (h : Starved S x)
    (es : List RelayEvent) (hes : ∀ s ∈ S, RelayEvent.read s [] ∉ es) :
    Starved S (x.run es) ∧ (x.run es).engine.taken = x.engine.taken ∧
      (x.run es).engine.workers = x.engine.workers := by
  induction es generalizing x with
  | nil => exact ⟨h, rfl, rfl⟩
  | cons a es ih =>
    obtain ⟨h₁, ht₁, hw₁⟩ := h.step a fun s hs he => hes s hs (he ▸ .head _)
    obtain ⟨h₂, ht₂, hw₂⟩ := ih h₁ fun s hs he => hes s hs (.tail _ he)
    exact ⟨h₂, ht₂.trans ht₁, hw₂.trans hw₁⟩

end RelayPort

/-! ## Reaching it: one successful connect per worker -/

namespace IoEngine

theorem run_append (e : IoEngine) (es es' : List PortEvent) :
    e.run (es ++ es') = (e.run es).run es' := List.foldl_append ..

/-- Completions on an open port join its queue, in order. -/
theorem run_completes (e : IoEngine) (ho : e.portOpen = true) (cs : List IoContextRef) :
    e.run (cs.map fun c => .complete (some c) 0 true 0) =
      { e with queue := e.queue ++ cs.map (fun c => completionPacket (some c) 0 true 0),
               posted := e.posted ++ cs.map (fun c => completionPacket (some c) 0 true 0) } := by
  induction cs generalizing e with
  | nil => simp
  | cons c cs ih =>
    rw [List.map_cons, run_cons]
    simp only [step, enqueue, ho, if_true]
    rw [ih _ rfl]
    simp

/-- Waiting threads `k`, `k + 1`, ... wake in turn, and take the packets at the head of the
    queue in order. -/
theorem run_dequeues (pre : List WorkerPhase) (ps rest : List Packet) (e : IoEngine)
    (ho : e.portOpen = true) (hW : e.workers = pre ++ List.replicate ps.length .waiting)
    (hq : e.queue = ps ++ rest) :
    (e.run ((List.range' pre.length ps.length).map .dequeue)).workers = pre ++ ps.map Packet.next ∧
      (e.run ((List.range' pre.length ps.length).map .dequeue)).queue = rest := by
  induction ps generalizing pre e with
  | nil => simp_all
  | cons p ps ih =>
    have hw : e.workers[pre.length]? = some .waiting := by
      rw [hW, List.getElem?_append_right (Nat.le_refl _), Nat.sub_self, List.length_cons,
        List.replicate_succ, List.getElem?_cons_zero]
    rw [List.length_cons, List.range'_succ, List.map_cons, run_cons]
    have hd : e.step (.dequeue pre.length) =
        { e with queue := ps ++ rest, taken := e.taken ++ [p],
                 workers := (pre ++ [p.next]) ++ List.replicate ps.length .waiting } := by
      simp only [step, dequeue, ho, hw, hq, List.cons_append, true_and, if_true]
      simp [hW, List.replicate_succ, List.set_append_right]
    rw [hd]
    have := ih (pre ++ [p.next])
      { e with queue := ps ++ rest, taken := e.taken ++ [p],
               workers := (pre ++ [p.next]) ++ List.replicate ps.length .waiting } ho rfl rfl
    simpa using this

end IoEngine

/-- One successful connect per worker starves the port: once `Init`'s workers have each taken
    the connect completion of a session whose channel is open, nothing is taken off the port
    again until one of those channels ends, whatever completes. -/
theorem relays_starve_port (net : Network) (threadCount : Int) (os : InitAnswers)
    (hinit : (IoEngine.init threadCount os).2 = .success) (hs : List (List ByteBuffer))
    (hlen : hs.length = workerCount threadCount os.processors)
    (hopen : ∀ h ∈ hs, [] ∉ (Socks5Session.start net h).2.2)
    (es : List RelayEvent) (hes : ∀ s < hs.length, RelayEvent.read s [] ∉ es) :
    let x := (RelayPort.opened net threadCount os hs).run
      ((List.range hs.length).map (fun s => .port (.complete (some ⟨connectCtx s, true⟩) 0 true 0)) ++
        (List.range hs.length).map fun i => .port (.dequeue i))
    x.engine.workers = (List.range hs.length).map (fun s => .calling ⟨connectCtx s, 0, .success⟩) ∧
      (x.run es).engine.taken = x.engine.taken ∧
      (x.run es).engine.workers = x.engine.workers := by
  intro x
  obtain ⟨hi, -, hw⟩ := IoEngine.init_success hinit
  have ho := ((IoEngine.inv_init threadCount os).initialized hi).1
  set cs : List IoContextRef := (List.range hs.length).map fun s => ⟨connectCtx s, true⟩
  have hxeq : x = ⟨(IoEngine.init threadCount os).1.run
      ((cs.map fun c => PortEvent.complete (some c) 0 true 0) ++
        (List.range' 0 cs.length).map PortEvent.dequeue),
      (RelayPort.opened net threadCount os hs).sessions⟩ := by
    have hev : ((List.range hs.length).map
          (fun s => RelayEvent.port (.complete (some ⟨connectCtx s, true⟩) 0 true 0)) ++
        (List.range hs.length).map fun i => RelayEvent.port (.dequeue i)) =
        ((cs.map fun c => PortEvent.complete (some c) 0 true 0) ++
          (List.range' 0 cs.length).map PortEvent.dequeue).map RelayEvent.port := by
      simp [cs, List.range_eq_range', Function.comp_def]
    show RelayPort.run _ _ = _
    rw [hev, RelayPort.run_port _ _ (by simp [List.mem_range'])]
    rfl
  have hx : x.engine.workers =
      (List.range hs.length).map (fun s => .calling ⟨connectCtx s, 0, .success⟩) := by
    rw [hxeq]
    simp only [IoEngine.run_append, IoEngine.run_completes _ ho]
    rw [← List.length_map cs fun c => completionPacket (some c) 0 true 0]
    refine (IoEngine.run_dequeues [] _ [] _ ?_ ?_ ?_).1.trans ?_
    · exact ho
    · simp [hw, hlen, cs]
    · simp
    · simp [cs, Packet.next, completionPacket, IOCP_SHUTDOWN_KEY, completionError, Function.comp_def]
  have hst : RelayPort.Starved (List.range hs.length) x := by
    intro w hw'
    obtain ⟨s, hs', rfl⟩ := List.mem_map.1 (hx ▸ hw')
    have hsl := List.mem_range.1 hs'
    have hsess : RelayPort.sessionOf ⟨connectCtx s, 0, .success⟩ = some s := by
      simp [RelayPort.sessionOf, connectCtx]
    refine ⟨_, s, rfl, hsess, hs', RelayPort.blocked_iff.2 ⟨s,
      ⟨(Socks5Session.start net hs[s]).1, (Socks5Session.start net hs[s]).2.2⟩, hsess, ?_, rfl,
      hopen _ (List.getElem_mem hsl)⟩⟩
    rw [hxeq]
    simp [RelayPort.opened, hsl]
  exact ⟨hx, (hst.run es fun s hs' => hes s (List.mem_range.1 hs')).2⟩

/-- Two workers, the default on two processors: two sessions' handshakes ask for
    127.0.0.1:80 and their connects complete; then the first session's target answers, a worker
    tries to return from its callback, and the first channel delivers data; no worker takes the
    answer off the port. -/
theorem relays_starve_port_two_sessions :
    (IoEngine.init 0 ⟨true, 2, true, true, fun _ => true⟩).2 = .success ∧
      [[[5, 1, 0], [5, 1, 0, 1, 127, 0, 0, 1, 0, 80]],
        [[5, 1, 0], [5, 1, 0, 1, 127, 0, 0, 1, 0, 80]]].length = workerCount 0 2 ∧
      (∀ h ∈ [[[5, 1, 0], [5, 1, 0, 1, 127, 0, 0, 1, 0, 80]],
          [[5, 1, 0], [5, 1, 0, 1, 127, 0, 0, 1, 0, 80]]],
        [] ∉ (Socks5Session.start (fun _ _ => .success) h).2.2) ∧
      (∀ s < 2, RelayEvent.read s [] ∉ [.port (.complete (some ⟨connectCtx 0 + 1, true⟩) 100 true 0),
          .port (.dequeue 0), .port (.callbackReturn 0), .read 0 [1, 2, 3], .port (.dequeue 1)]) ∧
      let x := (RelayPort.opened (fun _ _ => .success) 0 ⟨true, 2, true, true, fun _ => true⟩
          [[[5, 1, 0], [5, 1, 0, 1, 127, 0, 0, 1, 0, 80]],
            [[5, 1, 0], [5, 1, 0, 1, 127, 0, 0, 1, 0, 80]]]).run
        ((List.range 2).map (fun s => .port (.complete (some ⟨connectCtx s, true⟩) 0 true 0)) ++
          (List.range 2).map fun i => .port (.dequeue i))
      x.engine.workers = (List.range 2).map (fun s => .calling ⟨connectCtx s, 0, .success⟩) ∧
        (x.run [.port (.complete (some ⟨connectCtx 0 + 1, true⟩) 100 true 0), .port (.dequeue 0),
            .port (.callbackReturn 0), .read 0 [1, 2, 3], .port (.dequeue 1)]).engine.taken =
          x.engine.taken ∧
        (x.run [.port (.complete (some ⟨connectCtx 0 + 1, true⟩) 100 true 0), .port (.dequeue 0),
            .port (.callbackReturn 0), .read 0 [1, 2, 3], .port (.dequeue 1)]).engine.workers =
          x.engine.workers :=
  ⟨by decide, rfl, by decide, by decide,
    relays_starve_port (fun _ _ => .success) 0 ⟨true, 2, true, true, fun _ => true⟩ (by decide)
      _ (by decide) (by decide) _ (by decide)⟩

end ReverseSocks
