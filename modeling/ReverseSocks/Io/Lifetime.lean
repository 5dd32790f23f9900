import ReverseSocks.Io.Engine
import ReverseSocks.Channel.Interleaving
import ReverseSocks.Mux.Delivery

/-! # Completions owed to freed connections

    `Channel::OnClose` and `Channel::ForceClose` call `m_target->Close()`, which cancels the
    target's pending I/O, and at once `m_target.reset()`, which frees the `TcpConnection` with
    its `IoContext`s. A cancelled operation still completes into the port, and the thread that
    takes it reads `ctx->callback` through the freed memory.

    `ChannelPort` runs a channel's handlers with the completion port: the operations the target
    posts and the free of its contexts follow from each handler's change of `m_target`, and a
    thread that takes a completion of the target runs its callback. A relaying channel's target
    always owes a receive (`Channel.Pumps`), so closing a relaying channel frees a context with
    an operation owed (`freed_context_taken`).
-/

namespace ReverseSocks

/-- The context a packet's `OVERLAPPED` points into, if any. -/
def Packet.ctxId (p : Packet) : Option Nat := p.overlapped.map IoContextRef.id

/-- The completion port with the lifetimes of the contexts. -/
structure LifePort where
  engine : IoEngine
  /-- The contexts with an overlapped operation the system still owes a completion for. -/
  owed : List Nat
  /-- The contexts freed with their connection. -/
  freed : List Nat
  /-- Every packet a thread took off the port through a freed context, in order (ghost). -/
  misused : List Packet
  deriving Repr

/-- What can happen next. -/
inductive LifeEvent
  /-- An overlapped operation on context `ctx` is pending: `ConnectEx`, `WSARecv` or `WSASend`
      answered `ERROR_IO_PENDING`. -/
  | issue (ctx : Nat)
  /-- The system completes the operation it owes on `c`. -/
  | complete (c : IoContextRef) (bytes : Nat) (ok : Bool) (err : Nat)
  /-- A connection is freed with its contexts: `m_target.reset()`. -/
  | free (ctxs : List Nat)
  /-- Any other event of the port. -/
  | port (a : PortEvent)
  deriving DecidableEq, Repr

namespace LifePort

/-- The packet's `OVERLAPPED` points into a freed context. -/
def throughFreed (x : LifePort) (p : Packet) : Bool :=
  match p.ctxId with
  | some i => decide (i ∈ x.freed)
  | none => false

/-- One event. A thread that takes a packet through a freed context is recorded. -/
def step (x : LifePort) : LifeEvent → LifePort
  | .issue ctx => { x with owed := ctx :: x.owed }
  | .complete c bytes ok err =>
    if c.id ∈ x.owed then
      { x with owed := x.owed.erase c.id,
               engine := x.engine.enqueue [completionPacket (some c) bytes ok err] }
    else x
  | .free ctxs => { x with freed := ctxs ++ x.freed }
  | .port a =>
    { x with engine := x.engine.step a,
             misused := x.misused ++
               ((x.engine.step a).taken.drop x.engine.taken.length).filter x.throughFreed }

/-- The events of a run, in order. -/
def run (x : LifePort) (es : List LifeEvent) : LifePort := es.foldl step x

/-- The port as `Init` leaves it. -/
def init (threadCount : Int) (os : InitAnswers) : LifePort :=
  ⟨(IoEngine.init threadCount os).1, [], [], []⟩

@[simp] theorem run_nil (x : LifePort) : x.run [] = x := rfl

@[simp] theorem run_cons (x : LifePort) (a : LifeEvent) (es : List LifeEvent) :
    x.run (a :: es) = (x.step a).run es := rfl

theorem run_append (x : LifePort) (es es' : List LifeEvent) :
    x.run (es ++ es') = (x.run es).run es' := List.foldl_append ..

theorem run_issues (x : LifePort) (cs : List Nat) :
    x.run (cs.map .issue) = { x with owed := cs.reverse ++ x.owed } := by
  induction cs generalizing x with
  | nil => rfl
  | cons c cs ih => simp [ih, step]

theorem step_complete_freed (x : LifePort) (c : IoContextRef) (bytes : Nat) (ok : Bool)
    (err : Nat) : (x.step (.complete c bytes ok err)).freed = x.freed := by
  simp only [step]; split_ifs <;> rfl

theorem inv_step {x : LifePort} (h : x.engine.Inv) (a : LifeEvent) : (x.step a).engine.Inv := by
  cases a with
  | complete c bytes ok err =>
    simp only [step]
    split_ifs
    · exact h.enqueue (by simp [KeyFree])
    · exact h
  | port a => exact h.step a
  | _ => exact h

theorem inv_run {x : LifePort} (h : x.engine.Inv) (es : List LifeEvent) : (x.run es).engine.Inv := by
  induction es generalizing x with
  | nil => exact h
  | cons a es ih => exact ih (inv_step h a)

/-! ## What the system still owes -/

/-- The operation owed on context `c` is still owed, or its completion waits on the port, or
    the port is closed. -/
def Owes (x : LifePort) (c : Nat) : Prop :=
  c ∈ x.owed ∨ (∃ p ∈ x.engine.queue, p.ctxId = some c) ∨ x.engine.portOpen = false

theorem owes_complete {x : LifePort} {c : Nat} (h : x.Owes c) (c' : IoContextRef) (bytes : Nat)
    (ok : Bool) (err : Nat) : (x.step (.complete c' bytes ok err)).Owes c := by
  simp only [step]
  split_ifs
  swap
  · exact h
  unfold Owes IoEngine.enqueue
  rcases h with h | ⟨p, hp, hpc⟩ | h
  · by_cases hc : c'.id = c
    · split_ifs with ho
      · exact .inr (.inl ⟨_, List.mem_append_right _ (List.mem_singleton_self _),
          by simp [Packet.ctxId, completionPacket, hc]⟩)
      · exact .inr (.inr (by simpa using ho))
    · exact .inl ((List.mem_erase_of_ne (Ne.symm hc)).2 h)
  · split_ifs
    exacts [.inr (.inl ⟨p, List.mem_append_left _ hp, hpc⟩), .inr (.inl ⟨p, hp, hpc⟩)]
  · split_ifs <;> simp_all

/-- A port event other than a dequeue takes nothing off the port and does not reopen it. -/
theorem owes_port {x : LifePort} {c : Nat} (h : x.Owes c) {a : PortEvent}
    (ha : ∀ i, a ≠ .dequeue i) : (x.step (.port a)).Owes c :=
  h.imp id (Or.imp (fun ⟨p, hp, hpc⟩ => ⟨p, IoEngine.queue_subset_step _ ha hp, hpc⟩)
    fun hc => Bool.eq_false_iff.2 fun ho => by simp [IoEngine.step_portOpen _ a ho] at hc)

/-- A dequeue takes at most the head of the port. -/
theorem head_of_mem_dequeued {x : LifePort} {i : Nat} {p : Packet}
    (hp : p ∈ (x.engine.step (.dequeue i)).taken.drop x.engine.taken.length) :
    ((x.engine.step (.dequeue i)).taken.drop x.engine.taken.length).head? = some p := by
  rcases IoEngine.dequeue_cases x.engine i with he | ⟨p₀, q, -, -, -, he⟩ <;>
    simp only [IoEngine.step, he, List.drop_left, List.drop_length] at hp ⊢
  · cases hp
  · rw [List.mem_singleton.1 hp]; rfl

/-- A dequeue that takes no packet of `c` leaves what is owed on `c`. -/
theorem owes_dequeue {x : LifePort} {c : Nat} (h : x.Owes c) (i : Nat)
    (hp : ∀ p ∈ (x.engine.step (.dequeue i)).taken.drop x.engine.taken.length, p.ctxId ≠ some c) :
    (x.step (.port (.dequeue i))).Owes c := by
  rcases IoEngine.dequeue_cases x.engine i with he | ⟨p₀, q, ho, -, hq, he⟩
  · simpa only [Owes, step, IoEngine.step, he] using h
  have hp₀ : p₀.ctxId ≠ some c := hp p₀ (by simp [IoEngine.step, he])
  simp only [Owes, step, IoEngine.step, he, hq, ho] at h ⊢
  rcases h with h | ⟨p, hp, hpc⟩ | h
  · exact .inl h
  · rcases List.mem_cons.1 hp with rfl | hp
    · exact absurd hpc hp₀
    · exact .inr (.inl ⟨p, hp, hpc⟩)
  · cases h

/-! ## From a freed context on -/

/-- What holds from `x` on for a context `i` that is freed at `x` with an operation owed. -/
structure Since (x : LifePort) (i : Nat) (y : LifePort) : Prop where
  inv : y.engine.Inv
  freed : i ∈ y.freed
  posted : x.engine.posted <+: y.engine.posted
  taken : x.engine.taken <+: y.engine.taken
  /-- Every packet of `i` taken since `x` was taken through the freed context. -/
  misused : ∀ p ∈ y.engine.taken.drop x.engine.taken.length, p.ctxId = some i → p ∈ y.misused
  /-- The operation owed on `i` is still owed, or its completion is on the port or was taken
      since `x`, or the port is closed. -/
  owed : i ∈ y.owed ∨ (∃ p ∈ y.engine.posted.drop x.engine.taken.length, p.ctxId = some i) ∨
    y.engine.portOpen = false

theorem since_self {x : LifePort} (h : x.engine.Inv) {i : Nat} (hf : i ∈ x.freed)
    (ho : x.Owes i) : Since x i x := by
  refine ⟨h, hf, List.prefix_refl _, List.prefix_refl _, by simp, ?_⟩
  rwa [← h.fifo, List.drop_left]

theorem Since.taken_le {x y : LifePort} {i : Nat} (hs : Since x i y) :
    x.engine.taken.length ≤ y.engine.posted.length := by
  have := congrArg List.length hs.inv.fifo
  rw [List.length_append] at this
  have := hs.taken.length_le
  omega

/-- Taking more packets keeps every new packet of `i` recorded, since `i` stays freed. -/
theorem misused_step {x y : LifePort} {i : Nat} (hs : Since x i y) (a : PortEvent) :
    ∀ p ∈ (y.engine.step a).taken.drop x.engine.taken.length, p.ctxId = some i →
      p ∈ y.misused ++
        ((y.engine.step a).taken.drop y.engine.taken.length).filter y.throughFreed := by
  obtain ⟨t, ht⟩ := IoEngine.step_taken y.engine a
  have hle : x.engine.taken.length ≤ y.engine.taken.length := hs.taken.length_le
  intro p hp hpi
  rw [← ht, List.drop_append_of_le_length hle, List.mem_append] at hp
  rw [← ht, List.drop_left]
  rcases hp with hp | hp
  · exact List.mem_append_left _ (hs.misused p hp hpi)
  · exact List.mem_append_right _ (List.mem_filter.2 ⟨hp, by simp [throughFreed, hpi, hs.freed]⟩)

/-- A packet once posted after `n` stays posted after `n`. -/
theorem mem_drop_of_prefix {l l' : List Packet} (h : l <+: l') {n : Nat} (hn : n ≤ l.length)
    {p : Packet} (hp : p ∈ l.drop n) : p ∈ l'.drop n := by
  obtain ⟨t, rfl⟩ := h
  rw [List.drop_append_of_le_length hn]
  exact List.mem_append_left _ hp

theorem Since.step {x y : LifePort} {i : Nat} (hs : Since x i y) (a : LifeEvent) :
    Since x i (y.step a) := by
  cases a with
  | issue ctx => exact { hs with owed := hs.owed.imp_left (List.mem_cons_of_mem _) }
  | free ctxs => exact { hs with freed := List.mem_append_right _ hs.freed }
  | complete c bytes ok err =>
    simp only [LifePort.step]
    split_ifs with hc
    swap
    · exact hs
    have hpo : y.engine.posted <+: (y.engine.enqueue [completionPacket (some c) bytes ok err]).posted := by
      simp only [IoEngine.enqueue]; split_ifs; exacts [List.prefix_append _ _, List.prefix_refl _]
    refine ⟨hs.inv.enqueue (by simp [KeyFree]), hs.freed, hs.posted.trans hpo, ?_, ?_, ?_⟩
    · simp only [IoEngine.enqueue]; split_ifs <;> exact hs.taken
    · simp only [IoEngine.enqueue]; split_ifs <;> exact hs.misused
    rcases hs.owed with hi | ⟨p, hp, hpi⟩ | hcl
    · by_cases hci : c.id = i
      · cases hop : y.engine.portOpen
        · right; right; simp [IoEngine.enqueue, hop]
        · refine .inr (.inl ⟨completionPacket (some c) bytes ok err, ?_,
            by simp [Packet.ctxId, completionPacket, hci]⟩)
          simp only [IoEngine.enqueue, hop, if_true]
          rw [List.drop_append_of_le_length hs.taken_le]
          simp
      · exact .inl ((List.mem_erase_of_ne (Ne.symm hci)).2 hi)
    · exact .inr (.inl ⟨p, mem_drop_of_prefix hpo hs.taken_le hp, hpi⟩)
    · right; right; simp [IoEngine.enqueue, hcl]
  | port a =>
    refine ⟨hs.inv.step a, hs.freed, hs.posted.trans (IoEngine.step_posted _ a),
      hs.taken.trans (IoEngine.step_taken _ a), misused_step hs a, ?_⟩
    rcases hs.owed with hi | ⟨p, hp, hpi⟩ | hcl
    · exact .inl hi
    · exact .inr (.inl ⟨p, mem_drop_of_prefix (IoEngine.step_posted _ a) hs.taken_le hp, hpi⟩)
    · exact .inr (.inr (Bool.eq_false_iff.2 fun ho => by simp [IoEngine.step_portOpen _ a ho] at hcl))

theorem Since.run {x y : LifePort} {i : Nat} (hs : Since x i y) (es : List LifeEvent) :
    Since x i (y.run es) := by
  induction es generalizing y with
  | nil => exact hs
  | cons a es ih => exact ih (hs.step a)

/-- Once the operation owed on `i` is no longer owed and the open port is drained, its
    completion was taken through the freed context. -/
theorem Since.misused_of_drained {x y : LifePort} {i : Nat} (hs : Since x i y)
    (hdone : i ∉ y.owed) (hopen : y.engine.portOpen = true) (hdrain : y.engine.queue = []) :
    ∃ p ∈ y.misused, p.ctxId = some i := by
  rcases hs.owed with hi | ⟨p, hp, hpi⟩ | hcl
  · exact absurd hi hdone
  · refine ⟨p, hs.misused p ?_ hpi, hpi⟩
    simpa [← hs.inv.fifo, hdrain] using hp
  · rw [hopen] at hcl; cases hcl

end LifePort

/-! ## A relaying channel's target owes a receive -/

namespace TcpConnection

theorem Pumping.connectComplete {t : TcpConnection} (h : t.Pumping) (ec : ErrorCode) :
    (t.connectComplete ec).Pumping :=
  ⟨by simp [TcpConnection.connectComplete, h.1], h.2⟩

theorem Pumping.sendComplete {t : TcpConnection} (h : t.Pumping) (ec : ErrorCode)
    (wsa : Option ErrorCode) : (t.sendComplete ec wsa).Pumping := by
  obtain ⟨-, h₂, -, h₄, h₅⟩ := @sendComplete_fields t ec wsa
  exact ⟨h₂.trans h.1, h₅.trans h.2.1, h₄.trans h.2.2⟩

/-- A receive that `WSARecv` queued, on a connected connection that reads, runs its pump. -/
theorem pumping_postRecv {t : TcpConnection} (hc : t.connected = true) (hr : t.reading = true)
    {post : Option ErrorCode} (hp : (t.postRecv post).2 = none) : (t.postRecv post).1.Pumping := by
  cases post <;> simp_all [postRecv, Pumping]

theorem pumping_afterData {t : TcpConnection} (hc : t.connected = true) (hr : t.reading = true)
    {post : Option ErrorCode} (hp : (t.afterData post).2 = none) : (t.afterData post).1.Pumping := by
  simp only [afterData, hr, if_true] at hp ⊢
  exact pumping_postRecv hc hr hp

/-- A receive with data leaves `m_reading` as it was. -/
theorem recvComplete_reading_of_data {t : TcpConnection} {bytes b : ByteBuffer} {ec : ErrorCode}
    (h : (t.recvComplete bytes ec).2 = .data b) : (t.recvComplete bytes ec).1.reading = t.reading := by
  unfold recvComplete at h ⊢
  split_ifs at h ⊢
  rfl

end TcpConnection

namespace Channel

/-- In `Relaying` the target's read pump runs. -/
def Pumps (ch : Channel) : Prop := ch.state = .relaying → ∃ t, ch.target = some t ∧ t.Pumping

section pumps

variable {ch : Channel}

theorem onTargetDisconnected_not_relaying (e : ErrorCode) :
    (ch.onTargetDisconnected e).1.state ≠ .relaying := by
  by_cases ha : ch.state = .relaying ∨ ch.state = .connecting
  · rw [onTargetDisconnected_active ha]; simp
  · rw [onTargetDisconnected_idle ha]; exact fun h => ha (.inl h)

theorem pumps_onRequest (hi : Inv ch) (h : Pumps ch) (data : ByteBuffer) (net : Network) :
    Pumps (ch.onRequest data net).1 := by
  by_cases hs : ch.state = .requesting
  · rw [onRequest_requesting hs]
    intro hr
    refine absurd hr (inv_processSocks5 net ?_ ?_).2
    · exact hs
    · simpa [Inv, hs] using hi
  · rw [onRequest_ignored hs]; exact h

theorem pumps_onData (h : Pumps ch) (data : ByteBuffer) (wsa : Option ErrorCode) :
    Pumps (ch.onData data wsa).1 := by
  obtain ⟨-, hs, -, ht⟩ := @onData_fields ch data wsa
  intro hr
  rw [hs] at hr
  obtain ⟨t, ht₀, hp⟩ := h hr
  rw [ht, if_pos hr, ht₀]
  exact ⟨_, rfl, hp.send data wsa⟩

theorem pumps_onConnectCompletion (h : Pumps ch) (ec : ErrorCode) (post : Option ErrorCode) :
    Pumps (ch.onConnectCompletion ec post).1 := by
  rcases @onConnectCompletion_cases ch ec post with h' | ⟨t, ht, -, h'⟩
  · rw [h']; exact h
  rw [h']
  rcases @onTargetConnected_cases { ch with target := some (t.connectComplete ec) } ec post with
    ⟨-, h''⟩ | ⟨-, -, h''⟩ | ⟨-, -, ht', -⟩ | ⟨t', -, rfl, ht', hp, h''⟩ | ⟨t', e, -, -, -, -, h''⟩
  · rw [h'']
    intro hs
    obtain ⟨t₀, ht₀, hp⟩ := h hs
    rw [ht] at ht₀; cases ht₀
    exact ⟨_, rfl, hp.connectComplete ec⟩
  · rw [h'']; simp [Pumps]
  · cases ht'
  · rw [h'']; cases ht'
    exact fun _ => ⟨_, rfl, TcpConnection.pumping_postRecv (by simp) rfl hp⟩
  · rw [h'']; simp [Pumps]

theorem pumps_onRecvCompletion (h : Pumps ch) (bytes : ByteBuffer) (ec : ErrorCode)
    (post : Option ErrorCode) : Pumps (ch.onRecvCompletion bytes ec post).1 := by
  rcases ht : ch.target with _ | t
  · rw [onRecvCompletion_not_owed (by simp [ht])]; exact h
  by_cases hp : t.recvPending = true
  swap
  · rw [onRecvCompletion_not_owed (by simp [ht, hp])]; exact h
  rcases hr : (t.recvComplete bytes ec).2 with b | e
  · rw [onRecvCompletion_data ht hp hr, onDataUpcall, onTargetData_fst]
    rcases ha : ((t.recvComplete bytes ec).1.afterData post).2 with _ | e
    · rw [afterTargetData_posted rfl ha]
      intro hs
      obtain ⟨t₀, ht₀, hpump⟩ := h hs
      rw [ht] at ht₀; cases ht₀
      refine ⟨_, rfl, TcpConnection.pumping_afterData ?_ ?_ ha⟩
      · exact TcpConnection.recvComplete_fields.2.1.trans hpump.1
      · exact (TcpConnection.recvComplete_reading_of_data hr).trans hpump.2.1
    · rw [afterTargetData_lost rfl ha]
      exact fun hs => absurd hs (onTargetDisconnected_not_relaying e)
  · rw [onRecvCompletion_disconnect ht hp hr]
    exact fun hs => absurd hs (onTargetDisconnected_not_relaying e)

theorem pumps_onSendCompletion (h : Pumps ch) (ec : ErrorCode) (wsa : Option ErrorCode) :
    Pumps (ch.onSendCompletion ec wsa) := by
  rcases @onSendCompletion_cases ch ec wsa with h' | ⟨t, ht, h'⟩ <;> rw [h']
  · exact h
  · intro hs
    obtain ⟨t₀, ht₀, hp⟩ := h hs
    rw [ht] at ht₀; cases ht₀
    exact ⟨_, rfl, hp.sendComplete ec wsa⟩

theorem pumps_handle (hi : Inv ch) (h : Pumps ch) (net : Network) :
    ∀ x, Pumps (ch.handle net x).1
  | .inl (.request data) => pumps_onRequest hi h data net
  | .inl (.data data wsa) => pumps_onData h data wsa
  | .inl (.windowUpdate _) => h
  | .inl (.connectComplete ec post) => pumps_onConnectCompletion h ec post
  | .inl (.recvComplete bytes ec post) => pumps_onRecvCompletion h bytes ec post
  | .inl (.sendComplete ec wsa) => pumps_onSendCompletion h ec wsa
  | .inr e => fun hs => by rw [handle, finish_state] at hs; cases hs

theorem Reachable.pumps (h : Reachable ch) : Pumps ch := by
  induction h with
  | opened => intro hs; cases hs
  | handle net x hr ih => exact pumps_handle hr.inv ih net x

end pumps

/-! ## Where the target is dropped -/

section drop

variable {ch : Channel}

theorem onTargetDisconnected_target (e : ErrorCode) :
    (ch.onTargetDisconnected e).1.target = ch.target.map TcpConnection.close := by
  unfold onTargetDisconnected; split_ifs <;> rfl

theorem afterTargetData_target (post : Option ErrorCode) (ht : ch.target.isSome = true) :
    (ch.afterTargetData post).1.target.isSome = true := by
  rcases @afterTargetData_cases ch post with h | ⟨t, -, h⟩ | ⟨t, e, -, h⟩ <;>
    simp [h, onTargetDisconnected_target, ht]

/-- A completion of the target keeps it, or closes the channel. -/
theorem target_step (ht : ch.target.isSome = true) (hs : ch.state ≠ .requesting) (net : Network)
    (e : ChannelEvent) :
    (ch.step net e).1.target.isSome = true ∨ (ch.step net e).1.state = .closed := by
  cases e with
  | request data => simp [step, onRequest_ignored hs, ht]
  | data data wsa =>
    rw [step, onData_fields.2.2.2]
    split_ifs <;> simp [ht]
  | windowUpdate => simp [step, onWindowUpdate, ht]
  | connectComplete ec post =>
    rcases @onConnectCompletion_cases ch ec post with h' | ⟨t, -, -, h'⟩ <;>
      simp only [step, h']
    · exact .inl ht
    rcases @onTargetConnected_cases { ch with target := some (t.connectComplete ec) } ec post with
      ⟨-, h''⟩ | ⟨-, -, h''⟩ | ⟨-, -, ht', -⟩ | ⟨t', -, -, -, -, h''⟩ | ⟨t', e, -, -, -, -, h''⟩
    all_goals first | cases ht' | simp [h'']
  | recvComplete bytes ec post =>
    rcases @onRecvCompletion_cases ch ec post bytes with h' | ⟨t, -, -, ⟨e, h'⟩ | ⟨b, h'⟩⟩ <;>
      simp only [step, h']
    · exact .inl ht
    · simp [onTargetDisconnected_target]
    · rw [onDataUpcall, onTargetData_fst]
      exact .inl (afterTargetData_target post rfl)
  | sendComplete ec wsa =>
    rcases @onSendCompletion_cases ch ec wsa with h' | ⟨t, -, h'⟩ <;> simp [step, h', ht]

/-- A handler drops the target only by closing the channel: `m_target.reset()` is called by
    `OnClose`, `ForceClose` and a failed connect. -/
theorem target_dropped (hi : Inv ch) (net : Network) (x : ChannelEvent ⊕ ChannelEnd)
    (ht : ch.target.isSome = true) (hn : (ch.handle net x).1.target = none) :
    (ch.handle net x).1.state = .closed := by
  rcases x with e | e
  · have hs : ch.state ≠ .requesting := fun hs => by simp [Inv, hs] at hi; simp [hi] at ht
    rcases target_step ht hs net e with h | h
    · rw [show (ch.step net e).1.target = none from hn] at h; cases h
    · exact h
  · exact finish_state e

end drop

end Channel

/-! ## A channel on the completion port -/

namespace TcpConnection

/-- The connection's contexts with an operation owed: `m_connect_ctx` (0), `m_recv_ctx` (1)
    and `m_send_ctx` (2). -/
def owedCtxs (t : TcpConnection) : List Nat :=
  (if t.connectPending then [0] else []) ++ (if t.recvPending then [1] else []) ++
    (if t.sendPending then [2] else [])

@[simp] theorem mem_owedCtxs {t : TcpConnection} {c : Nat} :
    c ∈ t.owedCtxs ↔ c = 0 ∧ t.connectPending = true ∨ c = 1 ∧ t.recvPending = true ∨
      c = 2 ∧ t.sendPending = true := by
  unfold owedCtxs; split_ifs <;> simp [*]

end TcpConnection

/-- The port events that follow when a handler moves `m_target` from `before` to `after`: an
    operation pending on each context `after` owes that `before` did not or whose completion
    the handler ran (`done`), and the free of the three contexts when the target is dropped. -/
def targetEvents (before after : Option TcpConnection) (done : Option Nat) : List LifeEvent :=
  match before, after with
  | some _, none => [.free [0, 1, 2]]
  | _, some t =>
    (t.owedCtxs.filter fun c =>
      some c = done ∨ c ∉ (before.map TcpConnection.owedCtxs).getD []).map .issue
  | none, none => []

namespace LifePort

theorem run_targetEvents (x : LifePort) (b a : Option TcpConnection) (d : Option Nat) :
    (x.run (targetEvents b a d)).engine = x.engine ∧
    (∀ c, x.Owes c → (x.run (targetEvents b a d)).Owes c) ∧
    (∀ t, a = some t → ∀ c ∈ t.owedCtxs,
      (some c = d ∨ c ∉ (b.map TcpConnection.owedCtxs).getD []) →
        c ∈ (x.run (targetEvents b a d)).owed) ∧
    ((x.run (targetEvents b a d)).freed = x.freed ∨ b.isSome = true ∧ a = none) := by
  rcases a with _ | t
  · rcases b with _ | b
    · exact ⟨rfl, fun _ => id, fun _ h => Option.noConfusion h, .inl rfl⟩
    · exact ⟨rfl, fun _ => id, fun _ h => Option.noConfusion h, .inr ⟨rfl, rfl⟩⟩
  have he : targetEvents b (some t) d = (t.owedCtxs.filter fun c =>
      some c = d ∨ c ∉ (b.map TcpConnection.owedCtxs).getD []).map .issue := by
    rcases b with _ | b <;> rfl
  rw [he, run_issues]
  refine ⟨rfl, fun c h => h.imp_left (List.mem_append_right _), ?_, .inl rfl⟩
  rintro t' ⟨⟩ c hc hn
  exact List.mem_append_left _ (List.mem_reverse.2 (List.mem_filter.2 ⟨hc, by simpa using hn⟩))

end LifePort

/-- A channel with the completion port its target's operations complete into. -/
structure ChannelPort where
  ch : Channel
  port : LifePort

/-- What can happen next. -/
inductive ChannelPortEvent
  /-- The session dispatches a frame for the channel, or ends it. -/
  | frame (f : FrameEvent)
  /-- The system completes the operation it owes on context `ctx`. -/
  | complete (ctx : Nat) (bytes : Nat) (ok : Bool) (err : Nat)
  /-- Thread `i` returns from `GetQueuedCompletionStatus` and runs the callback of a completion
      of the target: `data` is what the receive wrote into `m_recv_ctx.inline_buf`, `post` and
      `wsa` answer the `WSARecv` and `WSASend` the callback may make. -/
  | take (i : Nat) (data : ByteBuffer) (post wsa : Option ErrorCode)
  /-- Thread `i` returns from its callback. -/
  | callbackReturn (i : Nat)
  /-- `Shutdown` posts its keys. -/
  | shutdownCall
  /-- `Shutdown` closes the port. -/
  | shutdownWaitEnds

namespace ChannelPort

/-- The callback of completion `p` on the target's context `c`, as the channel event it is. -/
def callbackEvent (p : Packet) (data : ByteBuffer) (post wsa : Option ErrorCode) :
    Nat → Option ChannelEvent
  | 0 => some (.connectComplete (completionError p.ok p.err) post)
  | 1 => some (.recvComplete (data.take p.bytes) (completionError p.ok p.err) post)
  | 2 => some (.sendComplete (completionError p.ok p.err) wsa)
  | _ => none

theorem callbackEvent_isSome (p : Packet) (data : ByteBuffer) (post wsa : Option ErrorCode)
    {t : TcpConnection} {c : Nat} (hc : c ∈ t.owedCtxs) : (callbackEvent p data post wsa c).isSome := by
  rcases TcpConnection.mem_owedCtxs.1 hc with ⟨rfl, -⟩ | ⟨rfl, -⟩ | ⟨rfl, -⟩ <;> rfl

/-- The callback a take runs: the context and the channel event, when the packet thread `i`
    takes is a completion of a context that is not freed. -/
def takenCallback (x : ChannelPort) (i : Nat) (data : ByteBuffer) (post wsa : Option ErrorCode) :
    Option (Nat × ChannelEvent) :=
  ((x.port.engine.step (.dequeue i)).taken.drop x.port.engine.taken.length).head?.bind fun p =>
    p.ctxId.bind fun c =>
      if c ∈ x.port.freed then none else (callbackEvent p data post wsa c).map (c, ·)

/-- The channel after a handler, with the port events its change of the target makes. -/
def afterHandler (x : ChannelPort) (ch : Channel) (done : Option Nat) : ChannelPort :=
  ⟨ch, x.port.run (targetEvents x.ch.target ch.target done)⟩

variable (net : Network)

/-- Thread `i` takes a packet; a completion of a context not freed runs its callback. -/
def take (x : ChannelPort) (i : Nat) (data : ByteBuffer) (post wsa : Option ErrorCode) :
    ChannelPort :=
  match x.takenCallback i data post wsa with
  | some (c, e) =>
    afterHandler ⟨x.ch, x.port.step (.port (.dequeue i))⟩ (x.ch.step net e).1 (some c)
  | none => ⟨x.ch, x.port.step (.port (.dequeue i))⟩

/-- One event. -/
def step (x : ChannelPort) : ChannelPortEvent → ChannelPort
  | .frame f => x.afterHandler (x.ch.handle net f.toInput).1 none
  | .complete ctx bytes ok err => ⟨x.ch, x.port.step (.complete ⟨ctx, true⟩ bytes ok err)⟩
  | .take i data post wsa => x.take net i data post wsa
  | .callbackReturn i => ⟨x.ch, x.port.step (.port (.callbackReturn i))⟩
  | .shutdownCall => ⟨x.ch, x.port.step (.port .shutdownCall)⟩
  | .shutdownWaitEnds => ⟨x.ch, x.port.step (.port .shutdownWaitEnds)⟩

/-- The events of a run, in order. -/
def run (x : ChannelPort) (es : List ChannelPortEvent) : ChannelPort := es.foldl (step net) x

/-- A channel opened for `CHANNEL_OPEN`, and the port as `Init` leaves it. -/
def opened (id : UInt16) (window_size : UInt32) (threadCount : Int) (os : InitAnswers) :
    ChannelPort :=
  ⟨(Channel.new id window_size).onOpen.1, LifePort.init threadCount os⟩

@[simp] theorem run_nil (x : ChannelPort) : x.run net [] = x := rfl

@[simp] theorem run_cons (x : ChannelPort) (e : ChannelPortEvent) (es : List ChannelPortEvent) :
    x.run net (e :: es) = (x.step net e).run net es := rfl

theorem run_append (x : ChannelPort) (es es' : List ChannelPortEvent) :
    x.run net (es ++ es') = (x.run net es).run net es' := List.foldl_append ..

/-- Every event moves the port by port events. -/
theorem step_port (x : ChannelPort) (e : ChannelPortEvent) :
    ∃ les, (x.step net e).port = x.port.run les := by
  cases e with
  | frame f => exact ⟨_, rfl⟩
  | complete => exact ⟨[.complete ..], rfl⟩
  | take i data post wsa =>
    rcases h : x.takenCallback i data post wsa with _ | ⟨c, e⟩
    · exact ⟨[.port (.dequeue i)], by simp [step, take, h]⟩
    · exact ⟨.port (.dequeue i) :: targetEvents x.ch.target (x.ch.step net e).1.target (some c),
        by simp [step, take, h, afterHandler]⟩
  | callbackReturn i => exact ⟨[.port (.callbackReturn i)], rfl⟩
  | shutdownCall => exact ⟨[.port .shutdownCall], rfl⟩
  | shutdownWaitEnds => exact ⟨[.port .shutdownWaitEnds], rfl⟩

theorem run_port (x : ChannelPort) (es : List ChannelPortEvent) :
    ∃ les, (x.run net es).port = x.port.run les := by
  induction es generalizing x with
  | nil => exact ⟨[], rfl⟩
  | cons e es ih =>
    obtain ⟨l₁, h₁⟩ := step_port net x e
    obtain ⟨l₂, h₂⟩ := ih (x.step net e)
    exact ⟨l₁ ++ l₂, by rw [run_cons, h₂, h₁, LifePort.run_append]⟩

/-! ## The invariant -/

/-- What holds in every state a run from `opened` reaches. -/
structure Inv (x : ChannelPort) : Prop where
  reach : x.ch.Reachable
  engine : x.port.engine.Inv
  /-- Every operation the target owes is owed by the system, or its completion waits on the
      port, or the port is closed. -/
  owed : ∀ t, x.ch.target = some t → ∀ c ∈ t.owedCtxs, x.port.Owes c
  /-- Contexts are freed only once the channel is closed. -/
  freed : x.port.freed ≠ [] → x.ch.state = .closed

theorem inv_opened (id : UInt16) (window_size : UInt32) (threadCount : Int) (os : InitAnswers) :
    Inv (opened id window_size threadCount os) :=
  ⟨.opened id window_size, IoEngine.inv_init threadCount os, fun _ h => Option.noConfusion h,
    fun h => absurd rfl h⟩

/-- A live target's contexts are not freed. -/
theorem Inv.freed_nil {x : ChannelPort} (h : Inv x) {t : TcpConnection}
    (ht : x.ch.target = some t) : x.port.freed = [] := by
  by_contra hf
  have hc := h.freed hf
  have hi := h.reach.inv
  simp [Channel.Inv, hc, ht] at hi

/-- A handler keeps the invariant, given every operation of the target owed but the one whose
    completion it runs. -/
theorem inv_afterHandler (y : ChannelPort) (done : Option Nat) (hr : y.ch.Reachable)
    (he : y.port.engine.Inv)
    (ho : ∀ t, y.ch.target = some t → ∀ c ∈ t.owedCtxs, some c ≠ done → y.port.Owes c)
    (hf : y.port.freed ≠ [] → y.ch.state = .closed) (x : ChannelEvent ⊕ ChannelEnd) :
    Inv (y.afterHandler (y.ch.handle net x).1 done) := by
  obtain ⟨heng, howes, hnew, hfr⟩ :=
    LifePort.run_targetEvents y.port y.ch.target (y.ch.handle net x).1.target done
  refine ⟨.handle net x hr, heng ▸ he, ?_, ?_⟩
  · intro t ht c hc
    by_cases hn : some c = done ∨ c ∉ (y.ch.target.map TcpConnection.owedCtxs).getD []
    · exact .inl (hnew t ht c hc hn)
    · simp only [not_or, not_not] at hn
      rcases hy : y.ch.target with _ | t₀
      · simp [hy] at hn
      · rw [hy] at hn
        exact howes c (ho t₀ hy c hn.2 hn.1)
  · intro hne
    rcases hfr with hfr | ⟨hs, hn⟩
    · rw [afterHandler, hfr] at hne
      exact (Channel.settled_handle hr.inv net x (by simp [hf hne])).2 (hf hne)
    · exact Channel.target_dropped hr.inv net x hs hn

theorem Inv.take {x : ChannelPort} (h : Inv x) (i : Nat) (data : ByteBuffer)
    (post wsa : Option ErrorCode) : Inv (x.take net i data post wsa) := by
  have he := LifePort.inv_step h.engine (.port (.dequeue i))
  rcases hcb : x.takenCallback i data post wsa with _ | ⟨c, e⟩ <;>
    simp only [ChannelPort.take, hcb]
  · refine ⟨h.reach, he, fun t ht c' hc' => LifePort.owes_dequeue (h.owed t ht c' hc') i ?_, h.freed⟩
    intro p hp hpc
    have hnone := hcb
    simp only [takenCallback, LifePort.head_of_mem_dequeued hp, Option.some_bind, hpc,
      h.freed_nil ht, List.not_mem_nil, if_false, Option.map_eq_none'] at hnone
    have hsome := callbackEvent_isSome p data post wsa hc'
    rw [hnone] at hsome; cases hsome
  · refine inv_afterHandler net ⟨x.ch, x.port.step (.port (.dequeue i))⟩ (some c) h.reach he ?_ h.freed (.inl e)
    intro t ht c' hc' hne
    refine LifePort.owes_dequeue (h.owed t ht c' hc') i fun p hp hpc => ?_
    have hsome := hcb
    simp only [takenCallback, LifePort.head_of_mem_dequeued hp, Option.some_bind, hpc] at hsome
    split_ifs at hsome
    obtain ⟨e', -, he'⟩ := Option.map_eq_some'.1 hsome
    cases he'
    exact hne rfl

/-- A port event other than a dequeue runs no callback. -/
theorem Inv.port {x : ChannelPort} (h : Inv x) (a : PortEvent) (ha : ∀ i, a ≠ .dequeue i) :
    Inv ⟨x.ch, x.port.step (.port a)⟩ :=
  ⟨h.reach, h.engine.step a, fun t ht c hc => LifePort.owes_port (h.owed t ht c hc) ha, h.freed⟩

theorem Inv.step {x : ChannelPort} (h : Inv x) : ∀ e, Inv (x.step net e)
  | .frame f => inv_afterHandler net x none h.reach h.engine
      (fun t ht c hc _ => h.owed t ht c hc) h.freed f.toInput
  | .complete ctx bytes ok err =>
    ⟨h.reach, LifePort.inv_step h.engine _,
      fun t ht c hc => LifePort.owes_complete (h.owed t ht c hc) _ bytes ok err,
      fun hf => h.freed (by rw [← LifePort.step_complete_freed x.port ⟨ctx, true⟩ bytes ok err]; exact hf)⟩
  | .take i data post wsa => h.take net i data post wsa
  | .callbackReturn i => h.port (.callbackReturn i) nofun
  | .shutdownCall => h.port .shutdownCall nofun
  | .shutdownWaitEnds => h.port .shutdownWaitEnds nofun

theorem Inv.run {x : ChannelPort} (h : Inv x) (es : List ChannelPortEvent) : Inv (x.run net es) := by
  induction es generalizing x with
  | nil => exact h
  | cons e es ih => exact ih (h.step net e)

/-- Ending a relaying channel frees its target's contexts with the receive owed. -/
theorem end_relaying {x : ChannelPort} (h : Inv x) (hr : x.ch.state = .relaying) {f : FrameEvent}
    (hf : f.toInput.isRight = true) :
    LifePort.Since (x.step net (.frame f)).port 1 (x.step net (.frame f)).port := by
  obtain ⟨t, ht, hp⟩ := h.reach.pumps hr
  obtain ⟨en, hen⟩ : ∃ en, f.toInput = .inr en := by
    rcases hi : f.toInput with _ | en
    · simp [hi] at hf
    · exact ⟨en, rfl⟩
  have hd : (x.ch.handle net f.toInput).1.target = none := by
    rw [hen]
    cases en with
    | close => rfl
    | forceClose => simp [Channel.handle, Channel.finish, Channel.forceClose, hr]
  have hport : (x.step net (.frame f)).port = x.port.step (.free [0, 1, 2]) := by
    show x.port.run (targetEvents x.ch.target (x.ch.handle net f.toInput).1.target none) = _
    rw [hd, ht]; rfl
  rw [hport]
  exact @LifePort.since_self (x.port.step (.free [0, 1, 2])) h.engine 1 (by simp [LifePort.step])
    (h.owed t ht 1 (by simp [hp.2.2]))

end ChannelPort

/-- A channel that is relaying when the session closes it (`OnClose` for `CHANNEL_CLOSE`) or
    force-closes it (`ForceClose`) frees its target's receive context with the receive owed: once
    the system has completed the receive, the port is still open and the threads have drained
    it, a thread has taken the completion through the freed context. -/
theorem freed_context_taken (net : Network) (id : UInt16) (window_size : UInt32)
    (threadCount : Int) (os : InitAnswers) (pre es : List ChannelPortEvent) (f : FrameEvent)
    (hr : ((ChannelPort.opened id window_size threadCount os).run net pre).ch.state = .relaying)
    (hf : f.toInput.isRight = true)
    (hdone : 1 ∉ ((ChannelPort.opened id window_size threadCount os).run net
      (pre ++ .frame f :: es)).port.owed)
    (hopen : ((ChannelPort.opened id window_size threadCount os).run net
      (pre ++ .frame f :: es)).port.engine.portOpen = true)
    (hdrain : ((ChannelPort.opened id window_size threadCount os).run net
      (pre ++ .frame f :: es)).port.engine.queue = []) :
    ∃ p ∈ ((ChannelPort.opened id window_size threadCount os).run net
      (pre ++ .frame f :: es)).port.misused, p.ctxId = some 1 := by
  rw [ChannelPort.run_append, ChannelPort.run_cons] at hdone hopen hdrain ⊢
  have hi := (ChannelPort.inv_opened id window_size threadCount os).run net pre
  obtain ⟨les, hles⟩ := ChannelPort.run_port net
    (((ChannelPort.opened id window_size threadCount os).run net pre).step net (.frame f)) es
  rw [hles] at hdone hopen hdrain ⊢
  exact ((ChannelPort.end_relaying net hi hr hf).run les).misused_of_drained hdone hopen hdrain

/-- The schedule that brings channel 1 to `Relaying` with one thread: `CHANNEL_REQUEST` for
    127.0.0.1:80, `ConnectEx` completes, the thread runs its callback, which posts the first
    `WSARecv`, and returns. -/
def connectThenRelay : List ChannelPortEvent :=
  [.frame (.request [5, 1, 0, 5, 1, 0, 1, 127, 0, 0, 1, 0, 80]), .complete 0 0 true 0,
    .take 0 [] none none, .callbackReturn 0]

/-- `CHANNEL_CLOSE` reaches the relaying channel; the cancelled receive completes with
    `ERROR_OPERATION_ABORTED` and the thread takes it through the freed `m_recv_ctx`. -/
theorem freed_context_taken_relaying_close :
    ((ChannelPort.opened 1 262144 1 ⟨true, 1, true, true, fun _ => true⟩).run
        (fun _ _ => .success) connectThenRelay).ch.state = .relaying ∧
      (FrameEvent.close 0).toInput.isRight = true ∧
      1 ∉ ((ChannelPort.opened 1 262144 1 ⟨true, 1, true, true, fun _ => true⟩).run
        (fun _ _ => .success)
        (connectThenRelay ++ .frame (.close 0) :: [.complete 1 0 false 995, .take 0 [] none none])).port.owed ∧
      ((ChannelPort.opened 1 262144 1 ⟨true, 1, true, true, fun _ => true⟩).run
        (fun _ _ => .success)
        (connectThenRelay ++ .frame (.close 0) ::
          [.complete 1 0 false 995, .take 0 [] none none])).port.engine.portOpen = true ∧
      ((ChannelPort.opened 1 262144 1 ⟨true, 1, true, true, fun _ => true⟩).run
        (fun _ _ => .success)
        (connectThenRelay ++ .frame (.close 0) ::
          [.complete 1 0 false 995, .take 0 [] none none])).port.engine.queue = [] ∧
      ∃ p ∈ ((ChannelPort.opened 1 262144 1 ⟨true, 1, true, true, fun _ => true⟩).run
        (fun _ _ => .success)
        (connectThenRelay ++ .frame (.close 0) ::
          [.complete 1 0 false 995, .take 0 [] none none])).port.misused, p.ctxId = some 1 :=
  ⟨by decide, rfl, by decide, by decide, by decide,
    freed_context_taken _ _ _ _ _ _ _ _ (by decide) rfl (by decide) (by decide) (by decide)⟩

end ReverseSocks
