import ReverseSocks.Channel.FlowControl

/-! # What a channel sends to its session

    The send calls a channel makes over its whole life follow one grammar:
    `CHANNEL_OPEN_ACK`, then one of three SOCKS5 reply sequences carried on
    `CHANNEL_REQUEST_ACK` frames (a refused method, a failed connect, or a
    granted connect followed by relay traffic and `CHANNEL_CLOSE(FIN)`), cut
    short at any point, and at most one `CHANNEL_CLOSE_ACK`, which ends it.
    So no `DATA` or `WINDOW_UPDATE` goes out before the success reply, and
    a channel sends at most one `CHANNEL_CLOSE`.

    `Hist` says, state by state, what a live channel has sent so far; each
    handler keeps it (with the lifecycle invariant, which rules out a read
    completion in `Connecting`), and `life_calls` adds the ending.
-/

namespace ReverseSocks

namespace Channel

/-- The session send calls among a channel's calls; the connects go to the operating system. -/
def muxCalls (cs : List Call) : List MuxCall :=
  cs.filterMap fun
    | .mux c => some c
    | .connect _ _ => none

@[simp] theorem muxCalls_nil : muxCalls [] = [] := rfl

@[simp] theorem muxCalls_append (cs ds : List Call) :
    muxCalls (cs ++ ds) = muxCalls cs ++ muxCalls ds :=
  List.filterMap_append ..

@[simp] theorem muxCalls_cons_mux (c : MuxCall) (cs : List Call) :
    muxCalls (.mux c :: cs) = c :: muxCalls cs := rfl

@[simp] theorem muxCalls_cons_connect (host : String) (port : UInt16) (cs : List Call) :
    muxCalls (.connect host port :: cs) = muxCalls cs := rfl

/-- A relay-phase call for channel `id`: `DATA` or `WINDOW_UPDATE`. -/
def IsRelay (id : UInt16) : MuxCall → Prop
  | .data i _ => i = id
  | .windowUpdate i _ => i = id
  | _ => False

/-- The SOCKS5 reply sequences after `CHANNEL_OPEN_ACK`, with the payloads as bytes: a refused
    method `05 FF`; an accepted method `05 00` and a failed connect `05 r 00 01 0…0` with
    `r ≠ 0`, each closed with `RST`; or an accepted method, the success reply, relay traffic,
    and `CHANNEL_CLOSE(FIN)`. -/
inductive Reply (id : UInt16) : List MuxCall → Prop
  | refused : Reply id [.channelRequestAck id [5, 0xFF], .channelClose id FRAME_FLAG_RST]
  | failed (r : UInt8) (hr : r ≠ 0) :
      Reply id [.channelRequestAck id [5, 0], .channelRequestAck id [5, r, 0, 1, 0, 0, 0, 0, 0, 0],
        .channelClose id FRAME_FLAG_RST]
  | relayed (xs : List MuxCall) (hxs : ∀ x ∈ xs, IsRelay id x) :
      Reply id ([.channelRequestAck id [5, 0], .channelRequestAck id [5, 0, 0, 1, 0, 0, 0, 0, 0, 0]] ++
        xs ++ [.channelClose id FRAME_FLAG_FIN])

/-- The send-call sequences of the grammar: a prefix of `OPEN_ACK · Y`, or `OPEN_ACK · y ·
    CLOSE_ACK` for a prefix `y` of `Y`. -/
def AllowedTrace (id : UInt16) (cs : List MuxCall) : Prop :=
  ∃ Y, Reply id Y ∧
    (cs <+: .channelOpenAck id :: Y ∨ ∃ y, y <+: Y ∧ cs = .channelOpenAck id :: y ++ [.channelCloseAck id])

/-- `OPEN_ACK`, the accepted method and the success reply. -/
def granted (id : UInt16) : List MuxCall :=
  [.channelOpenAck id, .channelRequestAck id [5, 0], .channelRequestAck id [5, 0, 0, 1, 0, 0, 0, 0, 0, 0]]

/-- What a live channel has sent so far, by state. -/
def Hist (id : UInt16) (ch : Channel) (cs : List MuxCall) : Prop :=
  ch.id = id ∧
  match ch.state with
  | .opening => False
  | .requesting =>
    cs = .channelOpenAck id :: if ch.methodDone then [.channelRequestAck id [5, 0]] else []
  | .connecting => cs = [.channelOpenAck id, .channelRequestAck id [5, 0]]
  | .relaying => ∃ xs, (∀ x ∈ xs, IsRelay id x) ∧ cs = granted id ++ xs
  | .closing => ∃ xs, (∀ x ∈ xs, IsRelay id x) ∧ cs = granted id ++ xs ++ [.channelClose id FRAME_FLAG_FIN]
  | .closed => ∃ Y, Reply id Y ∧ cs = .channelOpenAck id :: Y

section hist

variable {id : UInt16} {ch : Channel} {cs : List MuxCall}

/-- `Hist` reads the id, the state and `m_method_done` only. -/
theorem Hist.of_eq (h : Hist id ch cs) {ch' : Channel} (hi : ch'.id = ch.id)
    (hs : ch'.state = ch.state) (hm : ch'.methodDone = ch.methodDone) : Hist id ch' cs := by
  unfold Hist at h ⊢; rw [hi, hs, hm]; exact h

/-- Relay calls may follow in `Relaying`. -/
theorem Hist.relay (h : Hist id ch cs) (hs : ch.state = .relaying) {xs : List MuxCall}
    (hx : ∀ x ∈ xs, IsRelay id x) : Hist id ch (cs ++ xs) := by
  unfold Hist at h ⊢
  simp only [hs] at h ⊢
  obtain ⟨hid, ys, hys, rfl⟩ := h
  refine ⟨hid, ys ++ xs, fun x hx' => ?_, by simp⟩
  rcases List.mem_append.mp hx' with h' | h'
  exacts [hys x h', hx x h']

/-- A failed connect after the accepted method. -/
theorem hist_failed (hid : ch.id = id)
    (hc : cs = [.channelOpenAck id, .channelRequestAck id [5, 0]])
    {r : UInt8} (hr : r ≠ 0) {ch' : Channel} (hi : ch'.id = id) (hs : ch'.state = .closed) :
    Hist id ch' (cs ++ muxCalls [.mux (.channelRequestAck ch.id (Socks5.connectReply r)),
      ch.sendCloseToMux FRAME_FLAG_RST]) := by
  refine ⟨hi, ?_⟩
  rw [hs]
  exact ⟨_, .failed r hr, by simp [hc, hid, sendCloseToMux, Socks5.connectReply_eq]⟩

theorem hist_onTargetDisconnected (h : Hist id ch cs) (hs : ch.state ≠ .connecting)
    (e : ErrorCode) :
    Hist id (ch.onTargetDisconnected e).1 (cs ++ muxCalls (ch.onTargetDisconnected e).2) := by
  by_cases ha : ch.state = .relaying ∨ ch.state = .connecting
  · have hr : ch.state = .relaying := by tauto
    rw [onTargetDisconnected_active ha]
    obtain ⟨hid, xs, hxs, rfl⟩ := by simpa [Hist, hr] using h
    exact ⟨hid, xs, hxs, by simp [sendCloseToMux, hid]⟩
  · rw [onTargetDisconnected_idle ha]
    simpa using h.of_eq rfl rfl rfl

theorem hist_onTargetConnected (h : Hist id ch cs) (ec : ErrorCode) (post : Option ErrorCode) :
    Hist id (ch.onTargetConnected ec post).1 (cs ++ muxCalls (ch.onTargetConnected ec post).2) := by
  have h₀ := h
  obtain ⟨hid, hc⟩ := h
  rcases @onTargetConnected_cases ch ec post with ⟨-, h'⟩ | ⟨hs, hec, h'⟩ | ⟨hs, -, -, h'⟩ |
    ⟨t, hs, -, -, -, h'⟩ | ⟨t, e, hs, -, -, -, h'⟩ <;> rw [h']
  · simpa using h₀
  all_goals simp only [hs] at hc
  · exact hist_failed hid hc (mt Socks5.errorCodeToSocks5Reply_eq_zero.mp hec) hid rfl
  all_goals
    refine ⟨hid, [], by simp, ?_⟩
    simp [hc, granted, hid, sendCloseToMux, Socks5.connectReply_eq, Socks5.REP_SUCCESS]

/-- The CONNECT half, from `Requesting` after the accepted method. -/
theorem hist_processConnect (h : Hist id ch cs) (hs : ch.state = .requesting)
    (hm : ch.methodDone = true) (net : Network) :
    Hist id (ch.processConnect net).1 (cs ++ muxCalls (ch.processConnect net).2) := by
  obtain ⟨hid, hc⟩ := h
  simp only [hs, hm, if_true] at hc
  rcases @processConnect_cases ch net with
    h' | ⟨p, -, -, ⟨-, h'⟩ | ⟨-, h'⟩ | ⟨-, -, h'⟩ | ⟨-, hnet, h'⟩⟩ <;>
    rw [h']
  · exact ⟨hid, by simp [hs, hm, hc]⟩
  · exact ⟨hid, by simp [hs, hm, hc]⟩
  · exact hist_failed hid hc (by decide) hid rfl
  · exact ⟨hid, by simp [hc]⟩
  · simp only [muxCalls_cons_connect]
    exact hist_failed hid hc (mt Socks5.errorCodeToSocks5Reply_eq_zero.mp hnet) hid rfl

theorem hist_onRequest (h : Hist id ch cs) (data : ByteBuffer) (net : Network) :
    Hist id (ch.onRequest data net).1 (cs ++ muxCalls (ch.onRequest data net).2) := by
  by_cases hs : ch.state = .requesting
  swap
  · rw [onRequest_ignored hs]; simpa using h
  rw [onRequest_requesting hs]
  have h' : Hist id { ch with socks5Buf := ch.socks5Buf ++ data } cs := h.of_eq rfl rfl rfl
  obtain ⟨hid, hc⟩ := h
  rcases @processSocks5_cases { ch with socks5Buf := ch.socks5Buf ++ data } net with
    ⟨hm, h''⟩ | ⟨-, h''⟩ | ⟨hm, h''⟩ | ⟨n, hm, h''⟩ <;> rw [h'']
  · exact hist_processConnect h' hs hm net
  · simpa using h'
  · replace hm : ch.methodDone = false := hm
    simp only [hs, hm] at hc
    exact ⟨hid, ⟨_, .refused, by simp [hc, hid, sendCloseToMux, Socks5.buildMethodResponse,
      Socks5.VERSION, Socks5.AUTH_NO_ACCEPTABLE]⟩⟩
  · replace hm : ch.methodDone = false := hm
    simp only [hs, hm] at hc
    have hacc : Hist id { ch with socks5Buf := (ch.socks5Buf ++ data).drop n, methodDone := true }
        (cs ++ [.channelRequestAck id [5, 0]]) := ⟨hid, by simp [hs, hc]⟩
    simpa [hid, Socks5.buildMethodResponse, Socks5.VERSION, Socks5.AUTH_NONE] using
      hist_processConnect hacc hs rfl net

theorem hist_onData (h : Hist id ch cs) (data : ByteBuffer) (wsa : Option ErrorCode) :
    Hist id (ch.onData data wsa).1 (cs ++ muxCalls (ch.onData data wsa).2) := by
  obtain ⟨hi, hs, hm, -⟩ := @onData_fields ch data wsa
  rcases @onData_calls ch data wsa with hc | ⟨hr, n, hc⟩ <;> rw [hc]
  · simpa using h.of_eq hi hs hm
  · exact (h.of_eq hi hs hm).relay (hs.trans hr) (by simp [IsRelay, h.1])

theorem hist_onTargetData (h : Hist id ch cs) (b : ByteBuffer) :
    Hist id (ch.onTargetData b).1 (cs ++ muxCalls (ch.onTargetData b).2) := by
  by_cases hs : ch.state = .relaying
  · rw [onTargetData_relaying hs]
    refine (h.of_eq rfl rfl rfl).relay hs fun x hx => ?_
    obtain ⟨c, hc, hx⟩ := List.mem_filterMap.mp hx
    obtain ⟨d, rfl, -⟩ := (sendToMuxLoop_data _ _ _).1 c hc
    cases hx
    exact h.1
  · simpa [onTargetData, hs] using h

theorem hist_afterTargetData (h : Hist id ch cs) (hs : ch.state ≠ .connecting)
    (post : Option ErrorCode) :
    Hist id (ch.afterTargetData post).1 (cs ++ muxCalls (ch.afterTargetData post).2) := by
  rcases @afterTargetData_cases ch post with h' | ⟨t, -, h'⟩ | ⟨t, e, -, h'⟩ <;> rw [h']
  · simpa using h
  · simpa using h.of_eq rfl rfl rfl
  · have h' : Hist id { ch with target := some (t.afterData post).1 } cs := h.of_eq rfl rfl rfl
    exact hist_onTargetDisconnected h' hs e

theorem hist_onRecvCompletion (hi : Inv ch) (h : Hist id ch cs) (bytes : ByteBuffer)
    (ec : ErrorCode) (post : Option ErrorCode) :
    Hist id (ch.onRecvCompletion bytes ec post).1
      (cs ++ muxCalls (ch.onRecvCompletion bytes ec post).2) := by
  rcases @onRecvCompletion_cases ch ec post bytes with
    h' | ⟨t, ht, hp, ⟨e, h'⟩ | ⟨b, h'⟩⟩ <;> rw [h']
  · simpa using h
  all_goals
    -- No read is owed in `Connecting`.
    have hs : ch.state ≠ .connecting := fun hs => by
      obtain ⟨-, t', ht', -, -, hr⟩ := by simpa [Inv, hs] using hi
      simp_all
  all_goals
    have h' : Hist id { ch with target := some (t.recvComplete bytes ec).1 } cs :=
      h.of_eq rfl rfl rfl
  · exact hist_onTargetDisconnected h' hs e
  · have hd := @onTargetData_fst { ch with target := some (t.recvComplete bytes ec).1 } b
    simpa [onDataUpcall] using
      hist_afterTargetData (hist_onTargetData h' b) (by rw [hd]; exact hs) post

theorem hist_onConnectCompletion (h : Hist id ch cs) (ec : ErrorCode) (post : Option ErrorCode) :
    Hist id (ch.onConnectCompletion ec post).1
      (cs ++ muxCalls (ch.onConnectCompletion ec post).2) := by
  rcases @onConnectCompletion_cases ch ec post with h' | ⟨t, -, -, h'⟩ <;> rw [h']
  · simpa using h
  · have h' : Hist id { ch with target := some (t.connectComplete ec) } cs := h.of_eq rfl rfl rfl
    exact hist_onTargetConnected h' ec post

theorem hist_step (hi : Inv ch) (h : Hist id ch cs) (net : Network) :
    ∀ e, Hist id (ch.step net e).1 (cs ++ muxCalls (ch.step net e).2)
  | .request data => hist_onRequest h data net
  | .data data wsa => hist_onData h data wsa
  | .windowUpdate _ => by simpa [step] using h.of_eq rfl rfl rfl
  | .connectComplete ec post => hist_onConnectCompletion h ec post
  | .recvComplete bytes ec post => hist_onRecvCompletion hi h bytes ec post
  | .sendComplete ec wsa => by
    rcases @onSendCompletion_cases ch ec wsa with h' | ⟨t, -, h'⟩ <;>
      simp only [step, h', muxCalls_nil, List.append_nil]
    · exact h
    · exact h.of_eq rfl rfl rfl

/-- The run lemma over live events, with the lifecycle invariant. -/
theorem run_hist (hi : Inv ch) (h : Hist id ch cs) (net : Network) (evs : List ChannelEvent) :
    Inv (run net ch (evs.map .inl)).1 ∧
      Hist id (run net ch (evs.map .inl)).1 (cs ++ muxCalls (run net ch (evs.map .inl)).2) := by
  induction evs generalizing ch cs with
  | nil => simpa [run] using ⟨hi, h⟩
  | cons e evs ih =>
    obtain ⟨hi', h'⟩ := ih (inv_step hi net e) (hist_step hi h net e)
    simpa [run, handle] using ⟨hi', (List.append_assoc _ _ _).symm ▸ h'⟩

/-- What a live channel has sent is `OPEN_ACK` and a prefix of one of the reply sequences. -/
theorem Hist.prefix (h : Hist id ch cs) :
    ∃ Y y, Reply id Y ∧ y <+: Y ∧ cs = .channelOpenAck id :: y := by
  obtain ⟨-, h⟩ := h
  have hok : [MuxCall.channelRequestAck id [5, 0]] <+: _ :=
    List.prefix_append _
      [.channelRequestAck id [5, 0, 0, 1, 0, 0, 0, 0, 0, 0], .channelClose id FRAME_FLAG_FIN]
  rcases hs : ch.state <;> simp only [hs] at h
  case requesting =>
    cases hm : ch.methodDone <;> simp only [hm] at h
    · exact ⟨_, [], .refused, List.nil_prefix, h⟩
    · exact ⟨_, _, .relayed [] (by simp), hok, h⟩
  case connecting => exact ⟨_, _, .relayed [] (by simp), hok, h⟩
  case relaying =>
    obtain ⟨xs, hxs, rfl⟩ := h
    exact ⟨_, _, .relayed xs hxs, List.prefix_append _ _, rfl⟩
  case closing =>
    obtain ⟨xs, hxs, rfl⟩ := h
    exact ⟨_, _, .relayed xs hxs, List.prefix_refl _, rfl⟩
  case closed =>
    obtain ⟨Y, hY, rfl⟩ := h
    exact ⟨Y, Y, hY, List.prefix_refl _, rfl⟩

/-- A live channel never sends `CHANNEL_CLOSE_ACK`: only `OnClose`, which ends it, does. -/
theorem Hist.closeAck_not_mem {k : UInt16} {ch : Channel} {cs : List MuxCall}
    (h : Hist k ch cs) (k' : UInt16) : MuxCall.channelCloseAck k' ∉ cs := by
  obtain ⟨Y, y, hY, hy, rfl⟩ := h.prefix
  intro hm
  simp only [List.mem_cons, reduceCtorEq, false_or] at hm
  have := hy.subset hm
  cases hY with
  | refused => simp at this
  | failed r _ => simp at this
  | relayed xs hxs =>
    simp only [List.mem_append, List.mem_cons, reduceCtorEq, List.mem_singleton, or_false,
      false_or, List.not_mem_nil] at this
    exact hxs _ this

/-- After the live events, the ending: `OnClose` adds the one `CHANNEL_CLOSE_ACK`, and
    `ForceClose` sends nothing. -/
theorem Hist.allowed_finish (h : Hist id ch cs) :
    ∀ last : Option ChannelEnd,
      AllowedTrace id (cs ++ muxCalls (run net ch (last.toList.map .inr)).2)
  | none => by
    obtain ⟨Y, y, hY, hy, rfl⟩ := h.prefix
    exact ⟨Y, hY, .inl (by simpa [run] using hy)⟩
  | some (.close _) => by
    obtain ⟨Y, y, hY, hy, rfl⟩ := h.prefix
    exact ⟨Y, hY, .inr ⟨y, hy, by simp [run, handle, finish, onClose, h.1]⟩⟩
  | some .forceClose => by
    obtain ⟨Y, y, hY, hy, rfl⟩ := h.prefix
    exact ⟨Y, hY, .inl (by simpa [run, handle, finish] using hy)⟩

end hist

/-- The send calls of a channel's whole life in its session follow the reply grammar, whatever
    the events and their order, the connect's outcome and the ending: a prefix of
    `OPEN_ACK · Y`, or `OPEN_ACK · y · CLOSE_ACK` with `y` a prefix of `Y`. -/
theorem life_calls (net : Network) (id : UInt16) (W : UInt32) (evs : List ChannelEvent)
    (last : Option ChannelEnd) : AllowedTrace id (muxCalls (life net id W evs last).2) := by
  have h : Hist id (Channel.new id W).onOpen.1 [.channelOpenAck id] := ⟨rfl, rfl⟩
  have hi : Inv (Channel.new id W).onOpen.1 := rfl
  have hr := (run_hist hi h net evs).2
  simpa [life, onOpen, Channel.new, run_append] using hr.allowed_finish last

end Channel

end ReverseSocks
