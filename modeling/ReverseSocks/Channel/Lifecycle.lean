import ReverseSocks.Channel.Basic

/-! # The channel lifecycle

    What holds of a channel in each state, after `OnOpen` and any events in
    any order: it is never `Opening` again; it owns a target exactly in
    `Connecting`, `Relaying` and `Closing`; in `Relaying` the target is
    connected and its socket open; the method request is done before
    `Connecting`. `Inv` says this state by state; each handler keeps it, and
    `lifecycle` assembles the run.
-/

namespace ReverseSocks

namespace Channel

/-- The lifecycle invariant, by state. In `Connecting` no read has been posted yet. -/
def Inv (ch : Channel) : Prop :=
  match ch.state with
  | .opening => False
  | .requesting => ch.target = none
  | .connecting => ch.methodDone = true ∧
      ∃ t, ch.target = some t ∧ t.socket = true ∧ t.reading = false ∧ t.recvPending = false
  | .relaying => ch.methodDone = true ∧
      ∃ t, ch.target = some t ∧ t.socket = true ∧ t.connected = true
  | .closing => ch.methodDone = true ∧ ch.target.isSome = true
  | .closed => ch.target = none

section handlers

variable {ch : Channel}

/-- The invariant reads the state, `m_method_done` and the target only. -/
theorem Inv.of_eq (h : Inv ch) {ch' : Channel} (hs : ch'.state = ch.state)
    (hm : ch'.methodDone = ch.methodDone) (ht : ch'.target = ch.target) : Inv ch' := by
  unfold Inv at h ⊢; rw [hs, hm, ht]; exact h

/-- Replacing the target by one with the same socket, no less connected, and, in
    `Connecting`, the same read state, keeps the invariant. -/
theorem Inv.of_target (h : Inv ch) {ch' : Channel} (hs : ch'.state = ch.state)
    (hm : ch'.methodDone = ch.methodDone) {t t' : TcpConnection} (ht : ch.target = some t)
    (ht' : ch'.target = some t') (hsock : t'.socket = t.socket)
    (hc : t.connected = true → t'.connected = true)
    (hr : ch.state = .connecting → t'.reading = t.reading ∧ t'.recvPending = t.recvPending) :
    Inv ch' := by
  unfold Inv at h ⊢
  rw [hs, hm, ht']
  rcases hst : ch.state <;> simp only [hst] at h hr ⊢
  case requesting | closed => simp [ht] at h
  case connecting =>
    obtain ⟨hm, t0, ht0, h1, h2, h3⟩ := h
    cases ht.symm.trans ht0
    exact ⟨hm, t', rfl, hsock.trans h1, (hr trivial).1.trans h2, (hr trivial).2.trans h3⟩
  case relaying =>
    obtain ⟨hm, t0, ht0, h1, h2⟩ := h
    cases ht.symm.trans ht0
    exact ⟨hm, t', rfl, hsock.trans h1, hc h2⟩
  case closing => exact ⟨h.1, rfl⟩

/-- In `Connecting`, `Relaying` and `Closing` the method request is done and there is a target. -/
theorem Inv.active (h : Inv ch)
    (hs : ch.state = .connecting ∨ ch.state = .relaying ∨ ch.state = .closing) :
    ch.methodDone = true ∧ ch.target.isSome = true := by
  unfold Inv at h
  rcases hs with hs | hs | hs <;> simp only [hs] at h
  · obtain ⟨hm, t, ht, -⟩ := h; simp [hm, ht]
  · obtain ⟨hm, t, ht, -⟩ := h; simp [hm, ht]
  · exact h

theorem inv_onTargetDisconnected (h : Inv ch) (e : ErrorCode) :
    Inv (ch.onTargetDisconnected e).1 := by
  by_cases ha : ch.state = .relaying ∨ ch.state = .connecting
  · rw [onTargetDisconnected_active ha]
    have := h.active (by tauto)
    simp [Inv, this.1, this.2]
  · rw [onTargetDisconnected_idle ha]
    unfold Inv at h ⊢
    rcases hst : ch.state <;> simp_all

theorem inv_onTargetConnected (h : Inv ch) {ec : ErrorCode} (post : Option ErrorCode)
    (hc : ch.state = .connecting → ec = .success → ∃ t, ch.target = some t ∧ t.connected = true) :
    Inv (ch.onTargetConnected ec post).1 := by
  rcases @onTargetConnected_cases ch ec post with ⟨-, h'⟩ | ⟨-, -, h'⟩ | ⟨hs, rfl, ht, -⟩ |
    ⟨t, hs, rfl, ht, -, h'⟩ | ⟨t, e, hs, rfl, ht, -, h'⟩
  · rw [h']; exact h
  · rw [h']; simp [Inv]
  · obtain ⟨t, ht', -⟩ := hc hs rfl; simp [ht] at ht'
  all_goals
    obtain ⟨hm, t', ht', hsock, -⟩ := by simpa [Inv, hs] using h
    obtain ⟨t'', ht'', hconn⟩ := hc hs rfl
    rw [ht] at ht' ht''; cases ht'; cases ht''
    rw [h']; simp [Inv, hm, hsock, hconn]

/-- The CONNECT half of the handshake, from `Requesting` with no target, keeps the invariant
    and does not enter `Relaying`. -/
theorem inv_processConnect (net : Network) (hs : ch.state = .requesting) (ht : ch.target = none)
    (hm : ch.methodDone = true) :
    Inv (ch.processConnect net).1 ∧ (ch.processConnect net).1.state ≠ .relaying := by
  rcases @processConnect_cases ch net with
    h | ⟨p, -, -, ⟨-, h⟩ | ⟨-, h⟩ | ⟨-, -, h⟩ | ⟨-, -, h⟩⟩ <;>
    rw [h] <;> simp [Inv, hs, ht, hm, TcpConnection.connectAsync, TcpConnection.init]

theorem inv_processSocks5 (net : Network) (hs : ch.state = .requesting) (ht : ch.target = none) :
    Inv (ch.processSocks5 net).1 ∧ (ch.processSocks5 net).1.state ≠ .relaying := by
  rcases @processSocks5_cases ch net with ⟨hm, h⟩ | ⟨-, h⟩ | ⟨-, h⟩ | ⟨n, -, h⟩ <;> rw [h]
  · exact inv_processConnect net hs ht hm
  · simp [Inv, hs, ht]
  · simp [Inv, ht]
  · exact inv_processConnect net hs ht rfl

theorem inv_onRequest (h : Inv ch) (data : ByteBuffer) (net : Network) :
    Inv (ch.onRequest data net).1 := by
  by_cases hs : ch.state = .requesting
  · rw [onRequest_requesting hs]
    refine (inv_processSocks5 net ?_ ?_).1
    · exact hs
    · simpa [Inv, hs] using h
  · rw [onRequest_ignored hs]; exact h

theorem inv_onData (h : Inv ch) (data : ByteBuffer) (wsa : Option ErrorCode) :
    Inv (ch.onData data wsa).1 := by
  obtain ⟨-, hs, hm, ht⟩ := @onData_fields ch data wsa
  split_ifs at ht with hr
  · obtain ⟨-, t, ht0, -⟩ := by simpa [Inv, hr] using h
    rw [ht0, Option.map_some'] at ht
    exact h.of_target hs hm ht0 ht TcpConnection.send_fields.1
      (fun c => TcpConnection.send_fields.2.1.trans c) (by simp [hr])
  · exact h.of_eq hs hm ht

theorem inv_onConnectCompletion (h : Inv ch) (ec : ErrorCode) (post : Option ErrorCode) :
    Inv (ch.onConnectCompletion ec post).1 := by
  rcases ht : ch.target with _ | t
  · rw [onConnectCompletion_not_owed (by simp [ht])]; exact h
  by_cases hp : t.connectPending = true
  · rw [onConnectCompletion_owed ht hp]
    have h' : Inv { ch with target := some (t.connectComplete ec) } :=
      h.of_target rfl rfl ht rfl (by simp) (by simp +contextual [TcpConnection.connectComplete])
        (fun _ => ⟨rfl, by simp⟩)
    refine inv_onTargetConnected h' post ?_
    rintro - rfl
    exact ⟨_, rfl, by simp⟩
  · rw [onConnectCompletion_not_owed (by simp [ht, hp])]; exact h

/-- The end of a data completion, outside `Connecting` (where no read is owed). -/
theorem inv_afterTargetData (h : Inv ch) (hs : ch.state ≠ .connecting) (post : Option ErrorCode) :
    Inv (ch.afterTargetData post).1 := by
  rcases ht : ch.target with _ | t
  · rw [afterTargetData_none ht]; exact h
  have h' : Inv { ch with target := some (t.afterData post).1 } :=
    h.of_target rfl rfl ht rfl (by simp) (by simp) (fun h' => absurd h' hs)
  rcases hp : (t.afterData post).2 with _ | e
  · rw [afterTargetData_posted ht hp]; exact h'
  · rw [afterTargetData_lost ht hp]; exact inv_onTargetDisconnected h' e

theorem inv_onDataUpcall (h : Inv ch) (hs : ch.state ≠ .connecting) (b : ByteBuffer)
    (post : Option ErrorCode) : Inv (ch.onDataUpcall b post).1 := by
  have hd := @onTargetData_fst ch b
  exact inv_afterTargetData (h.of_eq (by rw [hd]) (by rw [hd]) (by rw [hd]))
    (by rw [hd]; exact hs) post

theorem inv_onRecvCompletion (h : Inv ch) (bytes : ByteBuffer) (ec : ErrorCode)
    (post : Option ErrorCode) : Inv (ch.onRecvCompletion bytes ec post).1 := by
  rcases ht : ch.target with _ | t
  · rw [onRecvCompletion_not_owed (by simp [ht])]; exact h
  by_cases hp : t.recvPending = true
  · -- No read is owed in `Connecting`.
    have hs : ch.state ≠ .connecting := fun hs => by
      obtain ⟨-, t', ht', -, -, hr⟩ := by simpa [Inv, hs] using h
      simp_all
    have h' : Inv { ch with target := some (t.recvComplete bytes ec).1 } :=
      h.of_target rfl rfl ht rfl TcpConnection.recvComplete_fields.1
        (fun c => TcpConnection.recvComplete_fields.2.1.trans c) (fun h' => absurd h' hs)
    rcases hr : (t.recvComplete bytes ec).2 with b | e
    · rw [onRecvCompletion_data ht hp hr]; exact inv_onDataUpcall h' hs b post
    · rw [onRecvCompletion_disconnect ht hp hr]; exact inv_onTargetDisconnected h' e
  · rw [onRecvCompletion_not_owed (by simp [ht, hp])]; exact h

theorem inv_onSendCompletion (h : Inv ch) (ec : ErrorCode) (wsa : Option ErrorCode) :
    Inv (ch.onSendCompletion ec wsa) := by
  rcases ht : ch.target with _ | t
  · rw [onSendCompletion_not_owed (by simp [ht])]; exact h
  by_cases hp : t.sendPending = true
  · rw [onSendCompletion_owed ht hp]
    have hf := @TcpConnection.sendComplete_fields t ec wsa
    exact h.of_target rfl rfl ht rfl hf.1 (fun c => hf.2.1.trans c)
      (fun _ => ⟨hf.2.2.2.2, hf.2.2.2.1⟩)
  · rw [onSendCompletion_not_owed (by simp [ht, hp])]; exact h

theorem inv_step (h : Inv ch) (net : Network) : ∀ e, Inv (ch.step net e).1
  | .request data => inv_onRequest h data net
  | .data data wsa => inv_onData h data wsa
  | .windowUpdate _ => h
  | .connectComplete ec post => inv_onConnectCompletion h ec post
  | .recvComplete bytes ec post => inv_onRecvCompletion h bytes ec post
  | .sendComplete ec wsa => inv_onSendCompletion h ec wsa

theorem inv_finish (h : Inv ch) : ∀ e, Inv (ch.finish e).1
  | .close _ => rfl
  | .forceClose => by unfold finish forceClose; split_ifs; exacts [h, rfl]

/-- Every ending leaves the channel `Closed`. -/
theorem finish_state : ∀ e, (ch.finish e).1.state = .closed
  | .close _ => rfl
  | .forceClose => by unfold finish forceClose; split_ifs with hc; exacts [hc, rfl]

end handlers

/-! ## How the state moves -/

/-- How every input but a successful connect completion in `Connecting` moves the state:
    never into `Relaying`, never out of `Closed`. -/
def Settled (ch ch' : Channel) : Prop :=
  (ch'.state = .relaying → ch.state = .relaying) ∧ (ch.state = .closed → ch'.state = .closed)

section settled

variable {ch ch' ch'' : Channel}

theorem Settled.of_state (h : ch'.state = ch.state) : Settled ch ch' :=
  ⟨fun r => h.symm.trans r, fun c => h.trans c⟩

theorem Settled.trans (h₁ : Settled ch ch') (h₂ : Settled ch' ch'') : Settled ch ch'' :=
  ⟨fun r => h₁.1 (h₂.1 r), fun c => h₂.2 (h₁.2 c)⟩

theorem Settled.of_not_relaying (hc : ch.state ≠ .closed) (h : ch'.state ≠ .relaying) :
    Settled ch ch' :=
  ⟨fun r => absurd r h, fun c => absurd c hc⟩

theorem settled_onTargetDisconnected (e : ErrorCode) :
    Settled ch (ch.onTargetDisconnected e).1 := by
  by_cases ha : ch.state = .relaying ∨ ch.state = .connecting
  · rw [onTargetDisconnected_active ha]
    exact .of_not_relaying (by rcases ha with h | h <;> simp [h]) (by simp)
  · rw [onTargetDisconnected_idle ha]; exact .of_state rfl

theorem settled_onTargetConnected {ec : ErrorCode} (post : Option ErrorCode)
    (h : ¬ (ch.state = .connecting ∧ ec = .success)) :
    Settled ch (ch.onTargetConnected ec post).1 := by
  by_cases hs : ch.state = .connecting
  · rw [onTargetConnected_failure hs (fun he => h ⟨hs, he⟩)]
    exact .of_not_relaying (by simp [hs]) (by simp)
  · rw [onTargetConnected_idle hs]; exact .of_state rfl

theorem settled_onRequest (h : Inv ch) (data : ByteBuffer) (net : Network) :
    Settled ch (ch.onRequest data net).1 := by
  by_cases hs : ch.state = .requesting
  · rw [onRequest_requesting hs]
    refine .of_not_relaying (by simp [hs]) (inv_processSocks5 net ?_ ?_).2
    · exact hs
    · simpa [Inv, hs] using h
  · rw [onRequest_ignored hs]; exact .of_state rfl

theorem settled_afterTargetData (post : Option ErrorCode) :
    Settled ch (ch.afterTargetData post).1 := by
  rcases ht : ch.target with _ | t
  · rw [afterTargetData_none ht]; exact .of_state rfl
  rcases hp : (t.afterData post).2 with _ | e
  · rw [afterTargetData_posted ht hp]; exact .of_state rfl
  · rw [afterTargetData_lost ht hp]
    exact (Settled.of_state rfl).trans (settled_onTargetDisconnected e)

theorem settled_onRecvCompletion (bytes : ByteBuffer) (ec : ErrorCode) (post : Option ErrorCode) :
    Settled ch (ch.onRecvCompletion bytes ec post).1 := by
  rcases ht : ch.target with _ | t
  · rw [onRecvCompletion_not_owed (by simp [ht])]; exact .of_state rfl
  by_cases hp : t.recvPending = true
  · rcases hr : (t.recvComplete bytes ec).2 with b | e
    · rw [onRecvCompletion_data ht hp hr, onDataUpcall]
      exact (Settled.of_state (by rw [onTargetData_fst])).trans (settled_afterTargetData post)
    · rw [onRecvCompletion_disconnect ht hp hr]
      exact (Settled.of_state rfl).trans (settled_onTargetDisconnected e)
  · rw [onRecvCompletion_not_owed (by simp [ht, hp])]; exact .of_state rfl

theorem settled_onConnectCompletion {ec : ErrorCode} (post : Option ErrorCode)
    (h : ¬ (ch.state = .connecting ∧ ec = .success)) :
    Settled ch (ch.onConnectCompletion ec post).1 := by
  rcases ht : ch.target with _ | t
  · rw [onConnectCompletion_not_owed (by simp [ht])]; exact .of_state rfl
  by_cases hp : t.connectPending = true
  · rw [onConnectCompletion_owed ht hp]
    exact (Settled.of_state rfl).trans (settled_onTargetConnected post h)
  · rw [onConnectCompletion_not_owed (by simp [ht, hp])]; exact .of_state rfl

theorem settled_onSendCompletion (ec : ErrorCode) (wsa : Option ErrorCode) :
    Settled ch (ch.onSendCompletion ec wsa) := by
  unfold onSendCompletion; split
  · split <;> exact .of_state rfl
  · exact .of_state rfl

/-- Every input but a successful connect completion in `Connecting` is settled. -/
theorem settled_handle (h : Inv ch) (net : Network) (x : ChannelEvent ⊕ ChannelEnd)
    (hx : ¬ (ch.state = .connecting ∧ ∃ post, x = .inl (.connectComplete .success post))) :
    Settled ch (ch.handle net x).1 := by
  rcases x with e | e
  · cases e with
    | request data => exact settled_onRequest h data net
    | data data wsa => exact .of_state onData_fields.2.1
    | windowUpdate _ => exact .of_state rfl
    | connectComplete ec post =>
      exact settled_onConnectCompletion post fun ⟨hs, he⟩ => hx ⟨hs, post, by rw [he]⟩
    | recvComplete bytes ec post => exact settled_onRecvCompletion bytes ec post
    | sendComplete ec wsa => exact settled_onSendCompletion ec wsa
  · exact ⟨fun r => by simp [handle, finish_state] at r, fun _ => finish_state e⟩

end settled

/-! ## Reachable channels -/

/-- The channels a session can hold: created and opened for `CHANNEL_OPEN`, then given any
    inputs in any order, each handler with any answers of the operating system. -/
inductive Reachable : Channel → Prop
  | opened (id : UInt16) (window_size : UInt32) : Reachable (Channel.new id window_size).onOpen.1
  | handle {ch : Channel} (net : Network) (x : ChannelEvent ⊕ ChannelEnd) :
      Reachable ch → Reachable (ch.handle net x).1

section reachable

variable {ch : Channel}

theorem inv_handle (h : Inv ch) (net : Network) : ∀ x, Inv (ch.handle net x).1
  | .inl e => inv_step h net e
  | .inr e => inv_finish h e

theorem Reachable.inv (h : Reachable ch) : Inv ch := by
  induction h with
  | opened => rfl
  | handle net x _ ih => exact inv_handle ih net x

/-- What the invariant says, state by state, in the terms of the class's fields. -/
theorem Inv.shape (h : Inv ch) :
    ch.state ≠ .opening ∧
    (ch.target.isSome = true ↔ ch.state = .connecting ∨ ch.state = .relaying ∨ ch.state = .closing) ∧
    (ch.state = .relaying → ∃ t, ch.target = some t ∧ t.connected = true ∧ t.socket = true) ∧
    (ch.state = .connecting ∨ ch.state = .relaying ∨ ch.state = .closing → ch.methodDone = true) := by
  unfold Inv at h
  rcases hst : ch.state <;> simp only [hst] at h
  all_goals first
    | (obtain ⟨hm, t, ht, hs, hc⟩ := h; simp [hm, ht, hs, hc, *])
    | simp [h]

/-- The channel lifecycle: the state is never `Opening`; there is a target exactly in
    `Connecting`, `Relaying` and `Closing`, connected in `Relaying`; the method request is done
    in those states; `Relaying` is entered only by a successful connect completion, and
    `Closed` is never left. -/
theorem lifecycle (h : Reachable ch) :
    ch.state ≠ .opening ∧
    (ch.target.isSome = true ↔ ch.state = .connecting ∨ ch.state = .relaying ∨ ch.state = .closing) ∧
    (ch.state = .relaying → ∃ t, ch.target = some t ∧ t.connected = true ∧ t.socket = true) ∧
    (ch.state = .connecting ∨ ch.state = .relaying ∨ ch.state = .closing → ch.methodDone = true) ∧
    ∀ (net : Network) (x : ChannelEvent ⊕ ChannelEnd),
      ((ch.handle net x).1.state = .relaying → ch.state ≠ .relaying →
        ch.state = .connecting ∧ ∃ post, x = .inl (.connectComplete .success post)) ∧
      (ch.state = .closed → (ch.handle net x).1.state = .closed) := by
  have hi := h.inv
  refine ⟨hi.shape.1, hi.shape.2.1, hi.shape.2.2.1, hi.shape.2.2.2, fun net x => ⟨?_, ?_⟩⟩
  · intro hr hnr
    by_contra hx
    exact hnr ((settled_handle hi net x hx).1 hr)
  · intro hc
    exact (settled_handle hi net x (by simp [hc])).2 hc

theorem lifecycle_opened :
    let ch := (Channel.new 1 262144).onOpen.1
    ch.state ≠ .opening ∧
    (ch.target.isSome = true ↔ ch.state = .connecting ∨ ch.state = .relaying ∨ ch.state = .closing) ∧
    (ch.state = .relaying → ∃ t, ch.target = some t ∧ t.connected = true ∧ t.socket = true) ∧
    (ch.state = .connecting ∨ ch.state = .relaying ∨ ch.state = .closing → ch.methodDone = true) ∧
    ∀ (net : Network) (x : ChannelEvent ⊕ ChannelEnd),
      ((ch.handle net x).1.state = .relaying → ch.state ≠ .relaying →
        ch.state = .connecting ∧ ∃ post, x = .inl (.connectComplete .success post)) ∧
      (ch.state = .closed → (ch.handle net x).1.state = .closed) :=
  lifecycle (.opened 1 262144)

end reachable

end Channel

end ReverseSocks
