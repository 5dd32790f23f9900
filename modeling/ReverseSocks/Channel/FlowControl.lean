import Mathlib.Algebra.BigOperators.Group.List
import ReverseSocks.Channel.Lifecycle

/-! # Flow control

    Both directions of a channel's window accounting in `channel.cpp`. Towards the peer,
    `SendToMux` cuts each read into `DATA` frames clamped to the send window while it is
    positive: every byte is sent, in order, and a used-up window holds nothing back. From the
    peer, `OnData` counts what it forwards and returns it with `WINDOW_UPDATE` once half the
    initial window is consumed: the increments and the count add up to the bytes forwarded.
-/

namespace ReverseSocks

/-- The payloads of the `DATA` calls among some calls. -/
def dataPayloads (cs : List Call) : List ByteBuffer :=
  cs.filterMap fun
    | .mux (.data _ d) => some d
    | _ => none

@[simp] theorem dataPayloads_nil : dataPayloads [] = [] := rfl

@[simp] theorem dataPayloads_append (cs ds : List Call) :
    dataPayloads (cs ++ ds) = dataPayloads cs ++ dataPayloads ds :=
  List.filterMap_append ..

@[simp] theorem dataPayloads_cons_data (i : UInt16) (d : ByteBuffer) (cs : List Call) :
    dataPayloads (.mux (.data i d) :: cs) = d :: dataPayloads cs := rfl

namespace Channel

/-! ## Sending: `SendToMux` -/

theorem chunkSize_le_max (window : UInt32) (len : Nat) :
    chunkSize window len ≤ FRAME_MAX_PAYLOAD := by
  unfold chunkSize; split <;> omega

theorem chunkSize_le_len (window : UInt32) (len : Nat) : chunkSize window len ≤ len := by
  unfold chunkSize; split <;> omega

/-- `SendToMux`'s loop sends `DATA` frames for the channel only, each with a non-empty payload
    of at most `FRAME_MAX_PAYLOAD` bytes, and the payloads are the bytes it was given, in
    order. -/
theorem sendToMuxLoop_data (id : UInt16) (window : UInt32) (data : ByteBuffer) :
    (∀ c ∈ (sendToMuxLoop id window data).2,
      ∃ d, c = .mux (.data id d) ∧ d ≠ [] ∧ d.length ≤ FRAME_MAX_PAYLOAD) ∧
    (dataPayloads (sendToMuxLoop id window data).2).flatten = data := by
  induction window, data using sendToMuxLoop.induct id with
  | case1 window => simp [sendToMuxLoop]
  | case2 window b bs chunk charged ih =>
    simp only [chunk, charged, dite_eq_ite] at ih
    have hpos := chunkSize_pos window (List.length_pos.mpr (List.cons_ne_nil b bs))
    have hmax := chunkSize_le_max window (b :: bs).length
    have hlen := chunkSize_le_len window (b :: bs).length
    rw [sendToMuxLoop]
    simp only [List.forall_mem_cons, dataPayloads_cons_data, List.flatten_cons]
    refine ⟨⟨⟨_, rfl, ?_, ?_⟩, ih.1⟩, by rw [ih.2, List.take_append_drop]⟩
    · simp only [ne_eq, List.take_eq_nil_iff, List.cons_ne_nil, or_false]; omega
    · rw [List.length_take]; omega

/-! ## A relaying channel's outbound traffic -/

/-- What reaches a relaying channel on the send path: a read from the target, which
    `OnTargetData` forwards, or the peer's `WINDOW_UPDATE`. -/
inductive RelayInput
  | read (bytes : ByteBuffer)
  | credit (increment : UInt32)
  deriving DecidableEq, Repr

/-- The reads among the inputs. -/
def reads (ins : List RelayInput) : List ByteBuffer :=
  ins.filterMap fun
    | .read b => some b
    | .credit _ => none

/-- The inputs in order, through `OnTargetData` and `OnWindowUpdate`. -/
def relay (ch : Channel) : List RelayInput → Channel × List Call
  | [] => (ch, [])
  | .read b :: ins => ((relay (ch.onTargetData b).1 ins).1,
      (ch.onTargetData b).2 ++ (relay (ch.onTargetData b).1 ins).2)
  | .credit i :: ins => relay (ch.onWindowUpdate i) ins

/-- Relaying, a read is `SendToMux`. -/
theorem onTargetData_relaying {ch : Channel} (hs : ch.state = .relaying) (b : ByteBuffer) :
    ch.onTargetData b =
      ({ ch with sendWindow := (sendToMuxLoop ch.id ch.sendWindow b).1 },
        (sendToMuxLoop ch.id ch.sendWindow b).2) := by
  simp [onTargetData, sendToMux, hs]

/-- The run lemma behind the send-path laws: a relaying channel stays relaying, sends `DATA`
    for itself only, in non-empty frames of at most `FRAME_MAX_PAYLOAD` bytes, and the
    payloads are the reads, in order. -/
theorem relay_spec (ch : Channel) (hs : ch.state = .relaying) (ins : List RelayInput) :
    (relay ch ins).1.state = .relaying ∧ (relay ch ins).1.id = ch.id ∧
    (∀ c ∈ (relay ch ins).2, ∃ d, c = .mux (.data ch.id d) ∧ d ≠ [] ∧ d.length ≤ FRAME_MAX_PAYLOAD) ∧
    (dataPayloads (relay ch ins).2).flatten = (reads ins).flatten := by
  induction ins generalizing ch with
  | nil => exact ⟨hs, rfl, fun _ h => absurd h (List.not_mem_nil _), rfl⟩
  | cons x ins ih =>
    cases x with
    | read b =>
      have e := onTargetData_relaying hs b
      obtain ⟨hs', hid, hc, hp⟩ := ih (ch.onTargetData b).1 (by rw [e]; exact hs)
      have hloop := sendToMuxLoop_data ch.id ch.sendWindow b
      simp only [relay, e] at hs' hid hc hp ⊢
      refine ⟨hs', hid, ?_, ?_⟩
      · simp only [List.mem_append]
        rintro c (hc' | hc')
        · exact hloop.1 c hc'
        · exact hc c hc'
      · simp [reads, hloop.2, hp]
    | credit i => exact ih (ch.onWindowUpdate i) hs

/-- Every read a relaying channel forwards reaches the peer as `DATA` for the channel, in
    non-empty frames of at most `FRAME_MAX_PAYLOAD` bytes, whose payloads are the reads in
    order; window updates in between change none of this, and the channel stays relaying. -/
theorem relay_data (ch : Channel) (hs : ch.state = .relaying) (ins : List RelayInput) :
    (relay ch ins).1.state = .relaying ∧
    (∀ c ∈ (relay ch ins).2, ∃ d, c = .mux (.data ch.id d) ∧ d ≠ [] ∧ d.length ≤ FRAME_MAX_PAYLOAD) ∧
    (dataPayloads (relay ch ins).2).flatten = (reads ins).flatten :=
  have h := relay_spec ch hs ins
  ⟨h.1, h.2.2⟩

theorem relay_data_opened :
    let ch : Channel := { (Channel.new 1 4) with state := .relaying }
    let ins := [RelayInput.read [1, 2, 3], .credit 2, .read [4, 5, 6, 7, 8]]
    ch.state = .relaying ∧ (relay ch ins).1.state = .relaying ∧
    (∀ c ∈ (relay ch ins).2, ∃ d, c = .mux (.data ch.id d) ∧ d ≠ [] ∧ d.length ≤ FRAME_MAX_PAYLOAD) ∧
    (dataPayloads (relay ch ins).2).flatten = (reads ins).flatten :=
  ⟨rfl, relay_data _ rfl _⟩

end Channel

/-- The increments of the `WINDOW_UPDATE` calls among some calls. -/
def windowIncrements (cs : List Call) : List Nat :=
  cs.filterMap fun
    | .mux (.windowUpdate _ n) => some n.toNat
    | _ => none

@[simp] theorem windowIncrements_append (cs ds : List Call) :
    windowIncrements (cs ++ ds) = windowIncrements cs ++ windowIncrements ds :=
  List.filterMap_append ..

theorem windowIncrements_of_data {cs : List Call} (h : ∀ c ∈ cs, ∃ i d, c = .mux (.data i d)) :
    windowIncrements cs = [] := by
  refine List.filterMap_eq_nil_iff.mpr fun c hc => ?_
  obtain ⟨i, d, rfl⟩ := h c hc
  rfl

namespace Channel

/-- The `DATA` payload bytes an input hands to a channel in `Relaying`. -/
def relayedIn (ch : Channel) : ChannelEvent ⊕ ChannelEnd → Nat
  | .inl (.data d _) => if ch.state = .relaying then d.length else 0
  | _ => 0

/-- The `DATA` payload bytes a run hands to the channel while it is `Relaying`. -/
def relayedBytes (net : Network) (ch : Channel) : List (ChannelEvent ⊕ ChannelEnd) → Nat
  | [] => 0
  | x :: xs => relayedIn ch x + relayedBytes net (ch.handle net x).1 xs

/-- The receive-window count stays under half the initial window, or at 0 when that half is 0. -/
def RecvBound (ch : Channel) : Prop :=
  ch.recvConsumed.toNat < max 1 (ch.recvWindowInitial.toNat / 2)

/-- A handler that leaves the receive window alone: the count and the initial window as they
    were, and no `WINDOW_UPDATE` sent. -/
def RecvQuiet (ch : Channel) (r : Channel × List Call) : Prop :=
  r.1.recvConsumed = ch.recvConsumed ∧ r.1.recvWindowInitial = ch.recvWindowInitial ∧
    windowIncrements r.2 = []

section recv

variable {ch : Channel}

/-- `OnData` on a payload from `Feed`: the count and the increments it sends add up to the count
    before and the payload, if the channel is relaying; the bound is kept; and an increment lies
    between half the initial window and that plus one frame. -/
theorem onData_recv (hb : RecvBound ch) {data : ByteBuffer} (hd : data.length ≤ FRAME_MAX_PAYLOAD)
    (wsa : Option ErrorCode) :
    (ch.onData data wsa).1.recvWindowInitial = ch.recvWindowInitial ∧
    RecvBound (ch.onData data wsa).1 ∧
    (windowIncrements (ch.onData data wsa).2).sum + (ch.onData data wsa).1.recvConsumed.toNat =
      ch.recvConsumed.toNat + (if ch.state = .relaying then data.length else 0) ∧
    ∀ n ∈ windowIncrements (ch.onData data wsa).2,
      ch.recvWindowInitial.toNat / 2 ≤ n ∧ n ≤ ch.recvWindowInitial.toNat / 2 + FRAME_MAX_PAYLOAD := by
  unfold RecvBound at hb ⊢
  unfold FRAME_MAX_PAYLOAD at hd ⊢
  by_cases hs : ch.state = .relaying; swap
  · simp only [onData, ne_eq, hs, not_false_eq_true, if_true, if_false]
    exact ⟨trivial, hb, Nat.zero_add _, fun _ h => absurd h (List.not_mem_nil _)⟩
  have hW : ch.recvWindowInitial.toNat < 4294967296 := ch.recvWindowInitial.toNat_lt_size
  have hsum : (ch.recvConsumed + UInt32.ofNat data.length).toNat =
      ch.recvConsumed.toNat + data.length := by
    rw [uint32_toNat_add, uint32_toNat_ofNat]; omega
  have hle : ch.recvWindowInitial / 2 ≤ ch.recvConsumed + UInt32.ofNat data.length ↔
      ch.recvWindowInitial.toNat / 2 ≤ ch.recvConsumed.toNat + data.length := by
    rw [uint32_le_iff, UInt32.toNat_div, hsum]; rfl
  have h0 : (0 : UInt32).toNat = 0 := rfl
  simp only [onData, hs, ne_eq, not_true_eq_false, if_true, if_false]
  split_ifs with hup <;> rw [hle] at hup <;>
    simp only [windowIncrements, List.filterMap_cons, List.filterMap_nil, List.sum_cons,
      List.sum_nil, List.mem_singleton, List.not_mem_nil, forall_eq, hsum, h0]
  · exact ⟨trivial, by omega, rfl, hup, by omega⟩
  · exact ⟨trivial, by omega, Nat.zero_add _, fun _ h => h.elim⟩

theorem RecvQuiet.refl : RecvQuiet ch (ch, []) := ⟨rfl, rfl, rfl⟩

theorem RecvQuiet.trans {r r' : Channel × List Call} (h : RecvQuiet ch r) (h' : RecvQuiet r.1 r') :
    RecvQuiet ch (r'.1, r.2 ++ r'.2) :=
  ⟨h'.1.trans h.1, h'.2.1.trans h.2.1, by simp [h.2.2, h'.2.2]⟩

theorem recvQuiet_onTargetDisconnected (e : ErrorCode) :
    RecvQuiet ch (ch.onTargetDisconnected e) := by
  unfold onTargetDisconnected; split <;> simp [RecvQuiet, windowIncrements, sendCloseToMux]

theorem recvQuiet_onTargetConnected (ec : ErrorCode) (post : Option ErrorCode) :
    RecvQuiet ch (ch.onTargetConnected ec post) := by
  rcases @onTargetConnected_cases ch ec post with ⟨-, h⟩ | ⟨-, -, h⟩ | ⟨-, -, -, h⟩ |
    ⟨t, -, -, -, -, h⟩ | ⟨t, e, -, -, -, -, h⟩ <;>
    rw [h] <;> simp [RecvQuiet, windowIncrements, sendCloseToMux]

theorem recvQuiet_processConnect (net : Network) : RecvQuiet ch (ch.processConnect net) := by
  rcases @processConnect_cases ch net with
    h | ⟨p, -, -, ⟨-, h⟩ | ⟨-, h⟩ | ⟨-, -, h⟩ | ⟨-, -, h⟩⟩ <;>
    rw [h] <;> simp [RecvQuiet, windowIncrements, sendCloseToMux]

theorem recvQuiet_onRequest (data : ByteBuffer) (net : Network) :
    RecvQuiet ch (ch.onRequest data net) := by
  by_cases hs : ch.state = .requesting
  swap
  · rw [onRequest_ignored hs]; exact .refl
  rw [onRequest_requesting hs]
  rcases @processSocks5_cases { ch with socks5Buf := ch.socks5Buf ++ data } net with
    ⟨-, h⟩ | ⟨-, h⟩ | ⟨-, h⟩ | ⟨n, -, h⟩ <;> rw [h]
  · exact recvQuiet_processConnect net
  · exact .refl
  · simp [RecvQuiet, windowIncrements, sendCloseToMux]
  · have h' := @recvQuiet_processConnect
      { ch with socks5Buf := (ch.socks5Buf ++ data).drop n, methodDone := true } net
    exact ⟨h'.1, h'.2.1, by simpa [windowIncrements] using h'.2.2⟩

theorem recvQuiet_onTargetData (b : ByteBuffer) : RecvQuiet ch (ch.onTargetData b) := by
  by_cases hs : ch.state = .relaying
  · rw [onTargetData_relaying hs]
    refine ⟨rfl, rfl, windowIncrements_of_data fun c hc => ?_⟩
    obtain ⟨d, rfl, -⟩ := (sendToMuxLoop_data _ _ _).1 c hc
    exact ⟨_, _, rfl⟩
  · simp [onTargetData, hs, RecvQuiet, windowIncrements]

theorem recvQuiet_afterTargetData (post : Option ErrorCode) :
    RecvQuiet ch (ch.afterTargetData post) := by
  rcases @afterTargetData_cases ch post with h | ⟨t, -, h⟩ | ⟨t, e, -, h⟩ <;> rw [h]
  · exact .refl
  · exact .refl
  · exact recvQuiet_onTargetDisconnected e

theorem recvQuiet_onRecvCompletion (bytes : ByteBuffer) (ec : ErrorCode) (post : Option ErrorCode) :
    RecvQuiet ch (ch.onRecvCompletion bytes ec post) := by
  rcases @onRecvCompletion_cases ch ec post bytes with h | ⟨t, -, -, ⟨e, h⟩ | ⟨b, h⟩⟩ <;> rw [h]
  · exact .refl
  · exact recvQuiet_onTargetDisconnected e
  · exact (recvQuiet_onTargetData b).trans (recvQuiet_afterTargetData post)

theorem recvQuiet_onConnectCompletion (ec : ErrorCode) (post : Option ErrorCode) :
    RecvQuiet ch (ch.onConnectCompletion ec post) := by
  rcases @onConnectCompletion_cases ch ec post with h | ⟨t, -, -, h⟩ <;> rw [h]
  · exact .refl
  · exact recvQuiet_onTargetConnected ec post

/-- Every input but `DATA` leaves the receive window alone. -/
theorem recvQuiet_handle (net : Network) (x : ChannelEvent ⊕ ChannelEnd)
    (hx : ∀ d wsa, x ≠ .inl (.data d wsa)) : RecvQuiet ch (ch.handle net x) := by
  rcases x with e | e
  · cases e with
    | request data => exact recvQuiet_onRequest data net
    | data d wsa => exact absurd rfl (hx d wsa)
    | windowUpdate _ => exact .refl
    | connectComplete ec post => exact recvQuiet_onConnectCompletion ec post
    | recvComplete bytes ec post => exact recvQuiet_onRecvCompletion bytes ec post
    | sendComplete ec wsa =>
      rcases @onSendCompletion_cases ch ec wsa with h | ⟨t, -, h⟩ <;>
        simp only [handle, step, h] <;> exact .refl
  · cases e with
    | close _ => exact ⟨rfl, rfl, rfl⟩
    | forceClose =>
      rcases @forceClose_cases ch with h | h <;> simp only [handle, finish, h] <;>
        exact ⟨rfl, rfl, rfl⟩

/-- One input of any kind, with a `DATA` payload from `Feed`. -/
theorem handle_recv (hb : RecvBound ch) (net : Network) (x : ChannelEvent ⊕ ChannelEnd)
    (hx : ∀ d wsa, x = .inl (.data d wsa) → d.length ≤ FRAME_MAX_PAYLOAD) :
    (ch.handle net x).1.recvWindowInitial = ch.recvWindowInitial ∧
    RecvBound (ch.handle net x).1 ∧
    (windowIncrements (ch.handle net x).2).sum + (ch.handle net x).1.recvConsumed.toNat =
      ch.recvConsumed.toNat + relayedIn ch x ∧
    ∀ n ∈ windowIncrements (ch.handle net x).2,
      ch.recvWindowInitial.toNat / 2 ≤ n ∧ n ≤ ch.recvWindowInitial.toNat / 2 + FRAME_MAX_PAYLOAD := by
  by_cases hd : ∃ d wsa, x = .inl (.data d wsa)
  · obtain ⟨d, wsa, rfl⟩ := hd
    exact onData_recv hb (hx d wsa rfl) wsa
  · push_neg at hd
    obtain ⟨hc, hw, hi⟩ := @recvQuiet_handle ch net x hd
    have hrel : relayedIn ch x = 0 := by
      rcases x with (_ | _) | _ <;> first | rfl | exact absurd rfl (hd _ _)
    unfold RecvBound at hb ⊢
    simp [hc, hw, hi, hrel, hb]

/-- The run lemma: along any inputs the initial window is unchanged, the bound is kept, the
    increments sent and the final count add up to the count at the start and the bytes relayed,
    and every increment lies in the band. -/
theorem run_recv (hb : RecvBound ch) (net : Network) (xs : List (ChannelEvent ⊕ ChannelEnd))
    (hx : ∀ d wsa, .inl (.data d wsa) ∈ xs → d.length ≤ FRAME_MAX_PAYLOAD) :
    (run net ch xs).1.recvWindowInitial = ch.recvWindowInitial ∧ RecvBound (run net ch xs).1 ∧
    (windowIncrements (run net ch xs).2).sum + (run net ch xs).1.recvConsumed.toNat =
      ch.recvConsumed.toNat + relayedBytes net ch xs ∧
    ∀ n ∈ windowIncrements (run net ch xs).2,
      ch.recvWindowInitial.toNat / 2 ≤ n ∧ n ≤ ch.recvWindowInitial.toNat / 2 + FRAME_MAX_PAYLOAD := by
  induction xs generalizing ch with
  | nil => simp [run, relayedBytes, hb, windowIncrements]
  | cons x xs ih =>
    obtain ⟨hw, hb', hs, hn⟩ :=
      handle_recv hb net x fun d wsa h => hx d wsa (h ▸ List.mem_cons_self _ _)
    obtain ⟨hw', hb'', hs', hn'⟩ := ih hb' fun d wsa h => hx d wsa (List.mem_cons_of_mem _ h)
    rw [hw] at hw' hn'
    refine ⟨hw', hb'', ?_, ?_⟩
    · simp only [run, relayedBytes, windowIncrements_append, List.sum_append]; omega
    · simp only [run, windowIncrements_append, List.mem_append]
      rintro n (hn1 | hn2)
      exacts [hn n hn1, hn' n hn2]

end recv

end Channel

end ReverseSocks
