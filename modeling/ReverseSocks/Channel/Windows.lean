import ReverseSocks.Channel.FlowControl

/-! # The window counters

    `Channel::OnWindowUpdate` adds the peer's increment to `m_send_window`, and the
    replenishment in `Channel::OnData` adds the consumed count to `m_recv_window`. Both are
    `uint32_t` additions with no check, so both are taken modulo `2^32`: the peer chooses the
    increment, and the receive window grows by every byte the peer sends.

    The step lemmas say exactly when each addition lowers its counter. The run lemma follows a
    relaying channel through payloads of at least half its initial window: each one is
    replenished whole, so after enough traffic the receive window passes `2^32 - 1` and wraps.
-/

namespace ReverseSocks

/-- A `uint32_t` sum is below its first summand exactly when the true sum reaches `2^32`. -/
theorem uint32_add_lt_iff (a b : UInt32) : a + b < a ↔ 2 ^ 32 ≤ a.toNat + b.toNat := by
  have ha := a.toNat_lt_size
  have hb := b.toNat_lt_size
  rw [uint32_lt_iff, uint32_toNat_add]
  unfold UInt32.size at ha hb
  omega

namespace Channel

/-! ## One addition -/

/-- `OnWindowUpdate` lowers the send window exactly when the sum reaches `2^32`. -/
theorem onWindowUpdate_lt_iff (ch : Channel) (i : UInt32) :
    (ch.onWindowUpdate i).sendWindow < ch.sendWindow ↔ 2 ^ 32 ≤ ch.sendWindow.toNat + i.toNat :=
  uint32_add_lt_iff ..

/-- `OnData` lowers the receive window exactly when it replenishes, by the `WINDOW_UPDATE`
    increment it sends, and the sum reaches `2^32`. -/
theorem onData_recvWindow_lt_iff (ch : Channel) (d : ByteBuffer) (wsa : Option ErrorCode) :
    (ch.onData d wsa).1.recvWindow < ch.recvWindow ↔
      ∃ n, (ch.onData d wsa).2 = [.mux (.windowUpdate ch.id n)] ∧
        2 ^ 32 ≤ ch.recvWindow.toNat + n.toNat := by
  unfold onData
  split
  · simp
  · dsimp only
    split
    · simp [uint32_add_lt_iff]
    · simp

/-! ## Any amount of traffic -/

/-- A relaying channel with no count, given a payload of at least half its initial window,
    replenishes by the whole payload and is left relaying with no count. -/
theorem onData_replenish {ch : Channel} (hs : ch.state = .relaying) (hc : ch.recvConsumed = 0)
    {d : ByteBuffer} (hd : ch.recvWindowInitial.toNat / 2 ≤ d.length ∧ d.length ≤ FRAME_MAX_PAYLOAD)
    (wsa : Option ErrorCode) :
    (ch.onData d wsa).1.state = .relaying ∧ (ch.onData d wsa).1.recvConsumed = 0 ∧
    (ch.onData d wsa).1.recvWindowInitial = ch.recvWindowInitial ∧
    (ch.onData d wsa).1.recvWindow.toNat = (ch.recvWindow.toNat + d.length) % 2 ^ 32 := by
  have hsum : (ch.recvConsumed + UInt32.ofNat d.length).toNat = d.length := by
    unfold FRAME_MAX_PAYLOAD at hd
    rw [hc, uint32_toNat_add, uint32_toNat_ofNat]
    simp only [UInt32.toNat_zero]
    omega
  have hle : ch.recvWindowInitial / 2 ≤ ch.recvConsumed + UInt32.ofNat d.length := by
    rw [uint32_le_iff, UInt32.toNat_div, hsum]; exact hd.1
  simp only [onData, hs, ne_eq, not_true_eq_false, if_false, hle, if_true]
  refine ⟨trivial, trivial, trivial, ?_⟩
  rw [uint32_toNat_add, hsum]; rfl

/-- The run lemma: such a channel fed such payloads replenishes by each of them, so its receive
    window ends as the start plus all of them, modulo `2^32`. -/
theorem run_replenish {ch : Channel} (hs : ch.state = .relaying) (hc : ch.recvConsumed = 0)
    (net : Network) (wsa : Option ErrorCode) (ds : List ByteBuffer)
    (hd : ∀ d ∈ ds, ch.recvWindowInitial.toNat / 2 ≤ d.length ∧ d.length ≤ FRAME_MAX_PAYLOAD) :
    (run net ch (ds.map fun d => .inl (.data d wsa))).1.recvWindow.toNat =
      (ch.recvWindow.toNat + (ds.map List.length).sum) % 2 ^ 32 := by
  induction ds generalizing ch with
  | nil =>
    have := ch.recvWindow.toNat_lt_size
    exact (Nat.mod_eq_of_lt this).symm
  | cons d ds ih =>
    obtain ⟨hs', hc', hw, hr⟩ := onData_replenish hs hc (hd d (List.mem_cons_self _ _)) wsa
    have := ih hs' hc' fun d' h' => hw ▸ hd d' (List.mem_cons_of_mem _ h')
    simp only [List.map_cons, run, handle, step, List.sum_cons] at this ⊢
    rw [this, hr, Nat.mod_add_mod, Nat.add_assoc]

/-- Neither window addition is guarded against `2^32`: `WINDOW_UPDATE` and `OnData` lower their
    window exactly when the sum reaches `2^32`, and a relaying channel fed payloads of at least
    half its initial window ends with the start plus all of them, modulo `2^32`. -/
theorem window_counters_wrap :
    (∀ (ch : Channel) (i : UInt32), (ch.onWindowUpdate i).sendWindow < ch.sendWindow ↔
      2 ^ 32 ≤ ch.sendWindow.toNat + i.toNat) ∧
    (∀ (ch : Channel) (d : ByteBuffer) (wsa : Option ErrorCode),
      (ch.onData d wsa).1.recvWindow < ch.recvWindow ↔
        ∃ n, (ch.onData d wsa).2 = [.mux (.windowUpdate ch.id n)] ∧
          2 ^ 32 ≤ ch.recvWindow.toNat + n.toNat) ∧
    (∀ (net : Network) (ch : Channel) (wsa : Option ErrorCode) (ds : List ByteBuffer),
      ch.state = .relaying → ch.recvConsumed = 0 →
      (∀ d ∈ ds, ch.recvWindowInitial.toNat / 2 ≤ d.length ∧ d.length ≤ FRAME_MAX_PAYLOAD) →
      (run net ch (ds.map fun d => .inl (.data d wsa))).1.recvWindow.toNat =
        (ch.recvWindow.toNat + (ds.map List.length).sum) % 2 ^ 32) :=
  ⟨onWindowUpdate_lt_iff, onData_recvWindow_lt_iff,
    fun net _ wsa ds hs hc hd => run_replenish hs hc net wsa ds hd⟩

/-- A channel opened with window 65536 and taken to `Relaying` by a SOCKS5 handshake: a
    `WINDOW_UPDATE` of `0xFFFFFFFF` lowers its send window, and 131070 `DATA` frames of 32768
    bytes, each replenishing the receive window, take it from `2^32 - 32768` after the
    131069th to 0 after the last. -/
theorem window_counters_wrap_loopback :
    let ch := (run (fun _ _ => .success) (Channel.new 1 65536).onOpen.1
      [.inl (.request [5, 1, 0, 5, 1, 0, 1, 127, 0, 0, 1, 0, 80]),
        .inl (.connectComplete .success none)]).1
    ch.state = .relaying ∧ ch.recvConsumed = 0 ∧
    (∀ d ∈ List.replicate 131070 (List.replicate 32768 (0 : UInt8)),
      ch.recvWindowInitial.toNat / 2 ≤ d.length ∧ d.length ≤ FRAME_MAX_PAYLOAD) ∧
    (ch.onWindowUpdate 0xFFFFFFFF).sendWindow < ch.sendWindow ∧
    (run (fun _ _ => .success) ch ((List.replicate 131069 (List.replicate 32768 0)).map
      fun d => .inl (.data d none))).1.recvWindow.toNat = 2 ^ 32 - 32768 ∧
    (run (fun _ _ => .success) ch ((List.replicate 131070 (List.replicate 32768 0)).map
      fun d => .inl (.data d none))).1.recvWindow.toNat = 0 := by
  intro ch
  have hs : ch.state = .relaying := by decide
  have hc : ch.recvConsumed = 0 := by decide
  have hd : ∀ d ∈ List.replicate 131070 (List.replicate 32768 (0 : UInt8)),
      ch.recvWindowInitial.toNat / 2 ≤ d.length ∧ d.length ≤ FRAME_MAX_PAYLOAD := by
    intro d h
    rw [List.eq_of_mem_replicate h, List.length_replicate]
    decide
  refine ⟨hs, hc, hd, (window_counters_wrap.1 ch _).mpr (by decide), ?_, ?_⟩
  · rw [window_counters_wrap.2.2 _ ch none _ hs hc fun d h => hd d (List.mem_replicate.2
      ⟨by omega, (List.mem_replicate.1 h).2⟩)]
    simp only [List.map_replicate, List.sum_replicate, List.length_replicate, smul_eq_mul]
    decide
  · rw [window_counters_wrap.2.2 _ ch none _ hs hc hd]
    simp only [List.map_replicate, List.sum_replicate, List.length_replicate, smul_eq_mul]
    decide

end Channel

end ReverseSocks

