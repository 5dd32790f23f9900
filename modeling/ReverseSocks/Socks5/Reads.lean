import ReverseSocks.Socks5.Grammar
import ReverseSocks.Socks5.Session

/-! # How the SOCKS5 session consumes the channel's reads

    The client's bytes reach `Socks5Session` as the results of successive `Read` calls, cut
    wherever the transport cut them. The handshake stops reading within `257 + 262` reads
    (`start_decides_within`); and where the reads are cut changes what the session does, since
    bytes that came in the same read as a message wait for a read that never looks at them
    (`serve_depends_on_read_boundaries`).
-/

namespace ReverseSocks

namespace Socks5Session

open Socks5

variable {net : Network} {s : Socks5Session} {x : ByteBuffer} {rs : List ByteBuffer}

/-! ## What one read does -/

/-- What `HandleMethodNegotiation` can do: wait for more with nothing changed, close, or move to
    `ReadingRequest` and read on. -/
theorem handleMethodNegotiation_cases (s : Socks5Session) :
    ((parseMethodRequest s.inbound).1 = 0 ∧ s.handleMethodNegotiation = (s, [], true)) ∨
      (s.handleMethodNegotiation.2.2 = false ∧ s.handleMethodNegotiation.1.state = .closed) ∨
      (s.handleMethodNegotiation.2.2 = true ∧
        s.handleMethodNegotiation.1.state = .readingRequest) := by
  unfold handleMethodNegotiation
  dsimp only
  split_ifs with h0 h1
  · exact .inl ⟨h0, rfl⟩
  · exact .inr (.inl ⟨rfl, close_state s⟩)
  · exact .inr (.inr ⟨rfl, rfl⟩)

/-- What `HandleConnectRequest` can do: wait for more with nothing changed, or stop reading in
    `Connecting` or `Closed`. -/
theorem handleConnectRequest_cases (s : Socks5Session) (net : Network) :
    ((parseConnectRequest s.inbound default).1 = 0 ∧ s.handleConnectRequest net = (s, [], true)) ∨
      ((s.handleConnectRequest net).2.2 = false ∧
        ((s.handleConnectRequest net).1.state = .connecting ∨
          (s.handleConnectRequest net).1.state = .closed)) := by
  unfold handleConnectRequest startTcpConnect
  dsimp only
  split_ifs with h0 h1 h2 h3
  · exact .inl ⟨h0, rfl⟩
  all_goals exact .inr ⟨rfl, by simp [close_state]⟩

theorem readFromChannel_nil (hs : s.state ≠ .closed) : readFromChannel net s [] = (s, [], []) := by
  simp [readFromChannel, hs]

/-- One read of data: `OnChannelData`, then `ReadFromChannel` again if its handler asks. -/
theorem readFromChannel_data (hs : s.state ≠ .closed) (hx : x ≠ []) :
    readFromChannel net s (x :: rs) =
      if (s.onChannelData net x).2.2 then
        ((readFromChannel net (s.onChannelData net x).1 rs).1,
          (s.onChannelData net x).2.1 ++ (readFromChannel net (s.onChannelData net x).1 rs).2.1,
          (readFromChannel net (s.onChannelData net x).1 rs).2.2)
      else ((s.onChannelData net x).1, (s.onChannelData net x).2.1, rs) := by
  conv_lhs => unfold readFromChannel
  simp only [hs, hx, if_false]

/-- A handler that asks for another read leaves the session in one of the reading states. -/
theorem onChannelData_reading (hs : s.state = .readingMethods ∨ s.state = .readingRequest)
    (hc : (s.onChannelData net x).2.2 = true) :
    (s.onChannelData net x).1.state = .readingMethods ∨
      (s.onChannelData net x).1.state = .readingRequest := by
  rcases hs with hs | hs
  · have hd : s.onChannelData net x = handleMethodNegotiation { s with inbound := s.inbound ++ x } := by
      simp [onChannelData, hs]
    rw [hd] at hc ⊢
    rcases handleMethodNegotiation_cases { s with inbound := s.inbound ++ x } with
      ⟨-, he⟩ | ⟨hc', -⟩ | ⟨-, hst⟩
    · rw [he]; exact .inl hs
    · rw [hc'] at hc; contradiction
    · exact .inr hst
  · have hd : s.onChannelData net x = handleConnectRequest { s with inbound := s.inbound ++ x } net := by
      simp [onChannelData, hs]
    rw [hd] at hc ⊢
    rcases handleConnectRequest_cases { s with inbound := s.inbound ++ x } net with
      ⟨-, he⟩ | ⟨hc', -⟩
    · rw [he]; exact .inr hs
    · rw [hc'] at hc; contradiction

theorem readFromChannel_eof (hs : s.state ≠ .closed) :
    readFromChannel net s ([] :: rs) = (s.close.1, s.close.2, rs) := by
  simp [readFromChannel, hs]

/-- A read that completes a method request offering no authentication: the reply, then
    `ReadFromChannel` in `ReadingRequest` with what follows the request still buffered. -/
theorem readFromChannel_methods_ok {k : Int} (hs : s.state = .readingMethods) (hx : x ≠ [])
    (h : parseMethodRequest (s.inbound ++ x) = (k, true)) (hk : 0 < k) :
    readFromChannel net s (x :: rs) =
      ((readFromChannel net ⟨.readingRequest, (s.inbound ++ x).drop k.toNat⟩ rs).1,
        .write (buildMethodResponse AUTH_NONE) ::
          (readFromChannel net ⟨.readingRequest, (s.inbound ++ x).drop k.toNat⟩ rs).2.1,
        (readFromChannel net ⟨.readingRequest, (s.inbound ++ x).drop k.toNat⟩ rs).2.2) := by
  conv_lhs => unfold readFromChannel
  simp [hs, hx, onChannelData, handleMethodNegotiation, h, hk.ne', not_lt.mpr hk.le]

/-- A read after which a whole CONNECT request to a reachable host starts the buffer: the connect
    starts, and the session stops reading with what follows the request still buffered. -/
theorem readFromChannel_request_ok {p : ByteBuffer} {atyp : UInt8} {host : String}
    {port : UInt16} (hs : s.state = .readingRequest) (hx : x ≠ [])
    (hp : p <+: s.inbound ++ x) (hm : ConnectMessage p atyp host port)
    (hnet : net host port = .success) :
    readFromChannel net s (x :: rs) =
      (⟨.connecting, (s.inbound ++ x).drop p.length⟩, [.connect host port], rs) := by
  have e := parseConnectRequest_of_prefix_message hp hm default
  obtain ⟨hl, ha, hh, hpt⟩ := hm.parse default
  obtain ⟨_, _, _, hp0, hat⟩ := hm.head
  have hpos : (0 : Int) < p.length := by rw [hp0]; simp only [List.length_cons]; omega
  have hat' : ¬ (atyp ≠ ATYP_IPV4 ∧ atyp ≠ ATYP_IPV6 ∧ atyp ≠ ATYP_DOMAIN) := by
    rcases hat with h | h | h <;> simp [h]
  conv_lhs => unfold readFromChannel
  simp [hs, hx, onChannelData, handleConnectRequest, e, hl, ha, hh, hpt, hat', startTcpConnect,
    hnet, hpos.ne', not_lt.mpr hpos.le]

/-! ## Bytes after a message wait for the next read -/

theorem parseMethodRequest_pos {m : ByteBuffer} (hm : parseMethodRequest m = ((m.length : Int), true)) :
    m ≠ [] ∧ (0 : Int) < m.length := by
  match m, hm with
  | [], h | [_], h => simp [parseMethodRequest] at h
  | _ :: _ :: _, _ => simp; omega

/-- The same client bytes, a method request, a CONNECT request and data, cut into reads three
    ways: one read per message sends exactly the data; one read for all connects nowhere; the
    data in the request's read connects and never sends it. -/
theorem serve_depends_on_read_boundaries (net : Network) {m r d : ByteBuffer} {atyp : UInt8}
    {host : String} {port : UInt16} (hm : parseMethodRequest m = ((m.length : Int), true))
    (hr : ConnectMessage r atyp host port) (hnet : net host port = .success) (hd : d ≠ []) :
    (serve net .success [m, r, d, []]).2 = [.write (buildMethodResponse AUTH_NONE),
      .connect host port, .write (connectReply REP_SUCCESS), .send d, .close] ∧
    (serve net .success [m ++ r ++ d, []]).2 = [.write (buildMethodResponse AUTH_NONE), .close] ∧
    (serve net .success [m, r ++ d, []]).2 = [.write (buildMethodResponse AUTH_NONE),
      .connect host port, .write (connectReply REP_SUCCESS), .close] := by
  obtain ⟨hm0, hk⟩ := parseMethodRequest_pos hm
  obtain ⟨_, _, _, hr0, -⟩ := hr.head
  have hmeth : ∀ e, parseMethodRequest (init.inbound ++ (m ++ e)) = ((m.length : Int), true) := fun e =>
    (parseMethodRequest_append (by rw [hm]; exact hk.ne') e).trans hm
  refine ⟨?_, ?_, ?_⟩
  · have h1 := @readFromChannel_methods_ok net init m [r, d, []] _ rfl hm0
      (by simp [init, hm]) hk
    have h2 := @readFromChannel_request_ok net ⟨.readingRequest, []⟩ r [d, []] _ _ _ _ rfl
      (by rw [hr0]; simp) (List.prefix_refl r) hr hnet
    simp only [init, List.nil_append, Int.toNat_natCast, List.drop_length] at h1 h2
    simp [serve, start, init, h1, h2, onTcpConnected, startRelay, hd, close]
  · have h1 := @readFromChannel_methods_ok net init (m ++ r ++ d) [[]] _ rfl (by simp [hm0])
      (by simpa using hmeth (r ++ d)) hk
    simp only [init, List.nil_append, Int.toNat_natCast, List.append_assoc, List.drop_left] at h1
    simp [serve, start, init, h1, readFromChannel_eof, close]
  · have h1 := @readFromChannel_methods_ok net init m [r ++ d, []] _ rfl hm0
      (by simpa using hmeth []) hk
    have h2 := @readFromChannel_request_ok net ⟨.readingRequest, []⟩ (r ++ d) [[]] _ _ _ _ rfl
      (by rw [hr0]; simp) (List.prefix_append r d) hr hnet
    simp only [init, List.nil_append, Int.toNat_natCast, List.drop_length, List.drop_left] at h1 h2
    simp [serve, start, init, h1, h2, onTcpConnected, startRelay, close]

theorem serve_depends_on_read_boundaries_loopback :
    parseMethodRequest [5, 1, 0] = ((([5, 1, 0] : ByteBuffer).length : Int), true) ∧
    ConnectMessage ([VERSION, 1, 0, ATYP_IPV4] ++ [127, 0, 0, 1] ++ [0, 80]) ATYP_IPV4
      (ipv4String [127, 0, 0, 1]) (UInt16.ofNat (256 * (0 : UInt8).toNat + (80 : UInt8).toNat)) ∧
    ([7] : ByteBuffer) ≠ [] ∧
    (serve (fun _ _ => .success) .success [[5, 1, 0],
        [VERSION, 1, 0, ATYP_IPV4] ++ [127, 0, 0, 1] ++ [0, 80], [7], []]).2 =
      [.write (buildMethodResponse AUTH_NONE),
        .connect (ipv4String [127, 0, 0, 1]) (UInt16.ofNat (256 * (0 : UInt8).toNat + (80 : UInt8).toNat)),
        .write (connectReply REP_SUCCESS), .send [7], .close] ∧
    (serve (fun _ _ => .success) .success
        [[5, 1, 0] ++ ([VERSION, 1, 0, ATYP_IPV4] ++ [127, 0, 0, 1] ++ [0, 80]) ++ [7], []]).2 =
      [.write (buildMethodResponse AUTH_NONE), .close] ∧
    (serve (fun _ _ => .success) .success
        [[5, 1, 0], [VERSION, 1, 0, ATYP_IPV4] ++ [127, 0, 0, 1] ++ [0, 80] ++ [7], []]).2 =
      [.write (buildMethodResponse AUTH_NONE),
        .connect (ipv4String [127, 0, 0, 1]) (UInt16.ofNat (256 * (0 : UInt8).toNat + (80 : UInt8).toNat)),
        .write (connectReply REP_SUCCESS), .close] :=
  ⟨by decide, .ipv4 1 0 0 80 _ rfl, by decide,
    serve_depends_on_read_boundaries (fun _ _ => .success) (by decide) (.ipv4 1 0 0 80 _ rfl) rfl
      (by decide)⟩

/-! ## How many reads the handshake takes -/

/-- In `ReadingRequest`, the session stops reading after at most `max 1 (262 - |buffer|)`
    reads, or reads everything there is without deciding. -/
theorem readFromChannel_request_bound (hs : s.state = .readingRequest) (reads : List ByteBuffer) :
    ∃ k ≤ max 1 (262 - s.inbound.length),
      (readFromChannel net s reads).2.2 = reads.drop k ∧
      ((readFromChannel net s reads).1.state = .connecting ∨
        (readFromChannel net s reads).1.state = .closed ∨
        ((readFromChannel net s reads).2.2 = [] ∧ reads.length < max 1 (262 - s.inbound.length))) := by
  have hs' : s.state ≠ .closed := by simp [hs]
  induction reads generalizing s with
  | nil => exact ⟨0, by omega, by rw [readFromChannel_nil hs']; rfl,
      .inr (.inr ⟨by rw [readFromChannel_nil hs'], by simp⟩)⟩
  | cons x rs ih =>
    by_cases hx : x = []
    · subst hx
      exact ⟨1, by omega, by rw [readFromChannel_eof hs']; rfl,
        .inr (.inl (by rw [readFromChannel_eof hs']; exact close_state _))⟩
    rw [readFromChannel_data hs' hx]
    have hx0 : 0 < x.length := List.length_pos.mpr hx
    have hd : s.onChannelData net x = handleConnectRequest { s with inbound := s.inbound ++ x } net := by
      simp [onChannelData, hs]
    rcases handleConnectRequest_cases { s with inbound := s.inbound ++ x } net with ⟨h0, he⟩ | ⟨hc, hst⟩
    · -- still incomplete: the buffer grew and stays below a whole message
      have hlt := parseConnectRequest_zero_length h0
      simp only [List.length_append] at hlt
      obtain ⟨k, hk, hrest, hdec⟩ := @ih { s with inbound := s.inbound ++ x } hs (by simp [hs])
      simp only [List.length_append] at hk hdec
      refine ⟨k + 1, by omega, ?_, ?_⟩ <;> simp only [hd, he, if_true]
      · exact hrest
      · exact hdec.imp_right (.imp_right fun ⟨h1, h2⟩ => ⟨h1, by simp only [List.length_cons]; omega⟩)
    · -- decided: connecting or closed, with one read used
      refine ⟨1, by omega, ?_, ?_⟩ <;> simp only [hd, hc, if_false]
      · rfl
      · exact hst.imp_right .inl

/-- In `ReadingMethods` with an incomplete method request buffered, the session stops reading
    after at most `(257 - |buffer|) + 262` reads, or reads everything there is without
    deciding. -/
theorem readFromChannel_methods_bound (hs : s.state = .readingMethods)
    (hL : (parseMethodRequest s.inbound).1 = 0) (reads : List ByteBuffer) :
    ∃ k ≤ (257 - s.inbound.length) + 262,
      (readFromChannel net s reads).2.2 = reads.drop k ∧
      ((readFromChannel net s reads).1.state = .connecting ∨
        (readFromChannel net s reads).1.state = .closed ∨
        ((readFromChannel net s reads).2.2 = [] ∧
          reads.length < (257 - s.inbound.length) + 262)) := by
  have hs' : s.state ≠ .closed := by simp [hs]
  have hL' := parseMethodRequest_zero_length hL
  induction reads generalizing s with
  | nil => exact ⟨0, by omega, by rw [readFromChannel_nil hs']; rfl,
      .inr (.inr ⟨by rw [readFromChannel_nil hs'], by simp⟩)⟩
  | cons x rs ih =>
    by_cases hx : x = []
    · subst hx
      exact ⟨1, by omega, by rw [readFromChannel_eof hs']; rfl,
        .inr (.inl (by rw [readFromChannel_eof hs']; exact close_state _))⟩
    rw [readFromChannel_data hs' hx]
    have hx0 : 0 < x.length := List.length_pos.mpr hx
    have hd : s.onChannelData net x = handleMethodNegotiation { s with inbound := s.inbound ++ x } := by
      simp [onChannelData, hs]
    rcases handleMethodNegotiation_cases { s with inbound := s.inbound ++ x } with
      ⟨h0, he⟩ | ⟨hc, hst⟩ | ⟨hc, hst⟩
    · -- still incomplete
      obtain ⟨k, hk, hrest, hdec⟩ :=
        @ih { s with inbound := s.inbound ++ x } hs h0 (by simp [hs])
          (parseMethodRequest_zero_length h0)
      simp only [List.length_append] at hk hdec
      refine ⟨k + 1, by omega, ?_, ?_⟩ <;> simp only [hd, he, if_true]
      · exact hrest
      · exact hdec.imp_right (.imp_right fun ⟨h1, h2⟩ => ⟨h1, by simp only [List.length_cons]; omega⟩)
    · -- refused: closed after one read
      refine ⟨1, by omega, ?_, ?_⟩ <;> simp only [hd, hc, if_false]
      · rfl
      · exact .inr (.inl hst)
    · -- accepted: the request phase starts on what is left in the buffer
      obtain ⟨k, hk, hrest, hdec⟩ := @readFromChannel_request_bound net _ hst rs
      have : max 1 (262 - (handleMethodNegotiation { s with inbound := s.inbound ++ x }).1.inbound.length) ≤ 262 := by omega
      refine ⟨k + 1, by omega, ?_, ?_⟩ <;> simp only [hd, hc, if_true]
      · exact hrest
      · exact hdec.imp_right (.imp_right fun ⟨h1, h2⟩ => ⟨h1, by simp only [List.length_cons]; omega⟩)

/-- Once the handshake has decided, later reads are left unread. -/
theorem readFromChannel_append (hs : s.state = .readingMethods ∨ s.state = .readingRequest)
    (reads more : List ByteBuffer)
    (hdec : (readFromChannel net s reads).1.state = .connecting ∨
      (readFromChannel net s reads).1.state = .closed) :
    readFromChannel net s (reads ++ more) =
      ((readFromChannel net s reads).1, (readFromChannel net s reads).2.1,
        (readFromChannel net s reads).2.2 ++ more) := by
  have hs' : s.state ≠ .closed := by rcases hs with h | h <;> simp [h]
  induction reads generalizing s with
  | nil => rw [readFromChannel_nil hs'] at hdec; rcases hs with h | h <;> simp [h] at hdec
  | cons x rs ih =>
    by_cases hx : x = []
    · subst hx; simp only [List.cons_append, readFromChannel_eof hs']
    simp only [List.cons_append, readFromChannel_data hs' hx] at hdec ⊢
    by_cases hc : (s.onChannelData net x).2.2 = true
    · simp only [hc, if_true] at hdec ⊢
      have hr := onChannelData_reading hs hc
      rw [ih hr hdec (by rcases hr with h | h <;> simp [h])]
    · simp only [hc, Bool.false_eq_true, if_false]

/-- The SOCKS5 handshake reads the channel at most `257 + 262` times: within that many reads
    `Start` reaches `Connecting` or `Closed`, or has read every result there is, and later
    reads are left to the relay. -/
theorem start_decides_within (net : Network) (reads : List ByteBuffer) :
    (∃ k ≤ 257 + 262, (start net reads).2.2 = reads.drop k ∧
      ((start net reads).1.state = .connecting ∨
        (start net reads).1.state = .closed ∨
        ((start net reads).2.2 = [] ∧ reads.length < 257 + 262))) ∧
    ∀ more, ((start net reads).1.state = .connecting ∨
        (start net reads).1.state = .closed) →
      start net (reads ++ more) =
        ((start net reads).1, (start net reads).2.1,
          (start net reads).2.2 ++ more) :=
  ⟨@readFromChannel_methods_bound net init rfl rfl reads,
    fun more => @readFromChannel_append net init (.inl rfl) reads more⟩

end Socks5Session

end ReverseSocks
