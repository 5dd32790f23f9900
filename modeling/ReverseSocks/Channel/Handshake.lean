import ReverseSocks.Channel.Basic
import ReverseSocks.Socks5.Session

/-! # The SOCKS5 handshake on a channel

    `OnRequest` buffers the payloads of `CHANNEL_REQUEST` frames and parses
    the buffer each time, so how the SOCKS5 bytes are cut into payloads does
    not matter: the calls, the final state and `m_method_done` are those of
    the whole string in one payload. The parsers decide on a prefix and never
    change their answer when bytes are appended (`Socks5.Handler`), and what
    a half-parsed request leaves in `m_connect_req` is overwritten before the
    request is used.

    Neither handshake driver looks at the command byte: a BIND or UDP
    ASSOCIATE request starts an outbound connect like a CONNECT.
-/

namespace ReverseSocks

namespace Channel

/-- Two channels agree on what the handshake decides: the state and `m_method_done`. -/
def Agree (a b : Channel) : Prop := a.state = b.state ∧ a.methodDone = b.methodDone

theorem Agree.refl (a : Channel) : Agree a a := ⟨rfl, rfl⟩

theorem Agree.trans {a b c : Channel} (h₁ : Agree a b) (h₂ : Agree b c) : Agree a c :=
  ⟨h₁.1.trans h₂.1, h₁.2.trans h₂.2⟩

section split

variable {ch : Channel} {net : Network}

/-- What a half-parsed request left in `m_connect_req` does not matter. -/
theorem processConnect_connectReq (ch : Channel) (o : Socks5.ConnectRequest) (net : Network) :
    ({ ch with connectReq := o }.processConnect net).2 = (ch.processConnect net).2 ∧
    Agree ({ ch with connectReq := o }.processConnect net).1 (ch.processConnect net).1 := by
  by_cases hb : ch.socks5Buf = []
  · rw [processConnect_empty hb, @processConnect_empty { ch with connectReq := o } net hb]
    exact ⟨rfl, .refl _⟩
  obtain ⟨p, hp⟩ : ∃ p, Socks5.parseConnectRequest ch.socks5Buf ch.connectReq = p := ⟨_, rfl⟩
  obtain ⟨q, hq⟩ : ∃ q, Socks5.parseConnectRequest ch.socks5Buf o = q := ⟨_, rfl⟩
  have hfst : q.1 = p.1 := by rw [← hp, ← hq]; exact Socks5.parseConnectRequest_fst ..
  rcases lt_trichotomy p.1 0 with hneg | h0 | hpos
  · rw [processConnect_malformed hb hp hneg,
      @processConnect_malformed { ch with connectReq := o } net q hb hq (hfst ▸ hneg)]
    exact ⟨rfl, .refl _⟩
  · rw [processConnect_wait hb hp h0,
      @processConnect_wait { ch with connectReq := o } net q hb hq (hfst ▸ h0)]
    exact ⟨rfl, .refl _⟩
  · obtain ⟨hh, hpt⟩ : q.2.host = p.2.host ∧ q.2.port = p.2.port := by
      have := Socks5.parseConnectRequest_host_port ch.socks5Buf o ch.connectReq
        (by rw [hq, hfst]; exact hpos)
      rwa [hq, hp] at this
    by_cases hnet : net p.2.host p.2.port = .success
    · rw [processConnect_started hb hp hpos hnet,
        @processConnect_started { ch with connectReq := o } net q hb hq (hfst ▸ hpos)
          (by rw [hh, hpt]; exact hnet)]
      simp [hh, hpt, Agree]
    · rw [processConnect_refused hb hp hpos hnet,
        @processConnect_refused { ch with connectReq := o } net q hb hq (hfst ▸ hpos)
          (by rw [hh, hpt]; exact hnet)]
      simp [hh, hpt, Agree, sendCloseToMux]

/-- The CONNECT half then one more payload, against the CONNECT half on the buffer with the
    payload appended, from `Requesting` once the method is done. -/
theorem processConnect_then_onRequest (hs : ch.state = .requesting) (hm : ch.methodDone = true)
    (b : ByteBuffer) :
    (ch.processConnect net).2 ++ ((ch.processConnect net).1.onRequest b net).2 =
      ({ ch with socks5Buf := ch.socks5Buf ++ b }.processConnect net).2 ∧
    Agree ((ch.processConnect net).1.onRequest b net).1
      ({ ch with socks5Buf := ch.socks5Buf ++ b }.processConnect net).1 := by
  set w : Channel := { ch with socks5Buf := ch.socks5Buf ++ b }
  have hwm : w.methodDone = true := hm
  by_cases hb : ch.socks5Buf = []
  · rw [processConnect_empty hb, onRequest_requesting hs, processSocks5_methodDone hwm]
    exact ⟨rfl, .refl _⟩
  obtain ⟨p, hp⟩ : ∃ p, Socks5.parseConnectRequest ch.socks5Buf ch.connectReq = p := ⟨_, rfl⟩
  have hwb : w.socks5Buf ≠ [] := by simp [w, hb]
  rcases lt_trichotomy p.1 0 with hneg | h0 | hpos
  · -- A malformed request closes the channel, and appended bytes do not change that.
    have hwp : Socks5.parseConnectRequest w.socks5Buf w.connectReq = p :=
      (Socks5.parseConnectRequest_append (by rw [hp]; omega) b).trans hp
    rw [processConnect_malformed hb hp hneg, processConnect_malformed hwb hwp hneg]
    exact ⟨by simp [onRequest, sendCloseToMux], .refl _⟩
  · -- A request still incomplete: the next payload is parsed with the rest.
    have hws : ({ ch with connectReq := p.2 } : Channel).state = .requesting := hs
    have hwm' :
        ({ ch with connectReq := p.2, socks5Buf := ch.socks5Buf ++ b } : Channel).methodDone =
          true := hm
    rw [processConnect_wait hb hp h0]
    simp only [List.nil_append]
    rw [onRequest_requesting hws, processSocks5_methodDone hwm']
    exact processConnect_connectReq w p.2 net
  · -- A complete request moves the channel on, and appended bytes do not change it.
    have hwp : Socks5.parseConnectRequest w.socks5Buf w.connectReq = p :=
      (Socks5.parseConnectRequest_append (by rw [hp]; omega) b).trans hp
    by_cases hnet : net p.2.host p.2.port = .success
    · rw [processConnect_started hb hp hpos hnet, processConnect_started hwb hwp hpos hnet]
      exact ⟨by simp [onRequest], ⟨rfl, rfl⟩⟩
    · rw [processConnect_refused hb hp hpos hnet, processConnect_refused hwb hwp hpos hnet]
      exact ⟨by simp [onRequest, sendCloseToMux], ⟨rfl, rfl⟩⟩

/-- Two payloads in turn against their concatenation in one: the same calls, and channels
    that agree. -/
theorem onRequest_append (ch : Channel) (a b : ByteBuffer) (net : Network) :
    (ch.onRequest a net).2 ++ ((ch.onRequest a net).1.onRequest b net).2 =
      (ch.onRequest (a ++ b) net).2 ∧
    Agree ((ch.onRequest a net).1.onRequest b net).1 (ch.onRequest (a ++ b) net).1 := by
  by_cases hs : ch.state = .requesting
  swap
  · simp only [onRequest_ignored hs]; exact ⟨rfl, .refl _⟩
  set c : Channel := { ch with socks5Buf := ch.socks5Buf ++ a }
  set w : Channel := { c with socks5Buf := c.socks5Buf ++ b }
  have hcs : c.state = .requesting := hs
  have hw : ch.onRequest (a ++ b) net = w.processSocks5 net := by
    rw [onRequest_requesting hs]; simp [w, c]
  rw [onRequest_requesting hs, hw]
  by_cases hm : c.methodDone = true
  · have hwm : w.methodDone = true := hm
    rw [processSocks5_methodDone hm, processSocks5_methodDone hwm]
    exact processConnect_then_onRequest hcs hm b
  replace hm : c.methodDone = false := by simpa using hm
  have hwm : w.methodDone = false := hm
  obtain ⟨q, hq⟩ : ∃ q, Socks5.parseMethodRequest c.socks5Buf = q := ⟨_, rfl⟩
  by_cases h0 : q.1 = 0
  · -- The method request is still incomplete: the next payload is parsed with the rest.
    rw [processSocks5_wait hm hq h0, List.nil_append, onRequest_requesting hcs]
    exact ⟨rfl, .refl _⟩
  have hwq : Socks5.parseMethodRequest w.socks5Buf = q :=
    (Socks5.parseMethodRequest_append (by rw [hq]; exact h0) b).trans hq
  by_cases hr : q.1 < 0 ∨ q.2 = false
  · rw [processSocks5_refused hm hq h0 hr, processSocks5_refused hwm hwq h0 hr]
    exact ⟨by simp [onRequest, sendCloseToMux], .refl _⟩
  simp only [not_or, Bool.not_eq_false] at hr
  have hpos : 0 < q.1 := by omega
  rw [processSocks5_accepted hm hq hpos hr.2, processSocks5_accepted hwm hwq hpos hr.2]
  -- The method request lies within the first payload's buffer, so the rest follows on.
  have hdrop : w.socks5Buf.drop q.1.toNat = c.socks5Buf.drop q.1.toNat ++ b :=
    List.drop_append_of_le_length (hq ▸ Socks5.parseMethodRequest_le_length (hq ▸ hpos))
  have hc' : ({ c with socks5Buf := c.socks5Buf.drop q.1.toNat, methodDone := true } :
      Channel).state = .requesting := hs
  obtain ⟨h1, h2⟩ := @processConnect_then_onRequest _ net hc' rfl b
  simp only [w] at hdrop
  simp only [hdrop, List.cons_append, List.cons.injEq, true_and]
  exact ⟨h1, h2⟩

/-- `OnRequest` on each payload in turn, against their concatenation in one payload. -/
theorem run_requests (net : Network) (ch : Channel) (p : ByteBuffer) (ps : List ByteBuffer) :
    (run net ch ((p :: ps).map fun q => .inl (.request q))).2 =
      (ch.onRequest (p :: ps).flatten net).2 ∧
    Agree (run net ch ((p :: ps).map fun q => .inl (.request q))).1
      (ch.onRequest (p :: ps).flatten net).1 := by
  induction ps generalizing ch p with
  | nil => simp [run, handle, step, Agree]
  | cons q ps ih =>
    obtain ⟨h1, h2⟩ := ih (ch.onRequest p net).1 q
    obtain ⟨h3, h4⟩ := onRequest_append ch p (q :: ps).flatten net
    simp only [List.map_cons, run, handle, step] at h1 h2 ⊢
    rw [List.flatten_cons, ← h3, ← h1]
    exact ⟨rfl, h2.trans h4⟩

end split

/-- How the SOCKS5 bytes are cut into `CHANNEL_REQUEST` payloads does not matter: delivered one
    after another to a freshly opened channel, with nothing in between, they give the same
    calls (the session's send calls, and the host and port of the connect), the same final
    state and the same `m_method_done` as the whole string in one payload. -/
theorem requests_split (net : Network) (id : UInt16) (W : UInt32) (ps : List ByteBuffer) :
    (run net (Channel.new id W).onOpen.1 (ps.map fun p => .inl (.request p))).2 =
      (run net (Channel.new id W).onOpen.1 [.inl (.request ps.flatten)]).2 ∧
    (run net (Channel.new id W).onOpen.1 (ps.map fun p => .inl (.request p))).1.state =
      (run net (Channel.new id W).onOpen.1 [.inl (.request ps.flatten)]).1.state ∧
    (run net (Channel.new id W).onOpen.1 (ps.map fun p => .inl (.request p))).1.methodDone =
      (run net (Channel.new id W).onOpen.1 [.inl (.request ps.flatten)]).1.methodDone := by
  cases ps with
  | nil =>
    simp [run, handle, step, onOpen, Channel.new, onRequest, processSocks5,
      Socks5.parseMethodRequest]
  | cons p ps =>
    obtain ⟨h1, h2⟩ := run_requests net (Channel.new id W).onOpen.1 p ps
    simp only [run, handle, step, List.append_nil]
    exact ⟨h1, h2⟩

/-- A BIND request (command `0x02`) for 127.0.0.1:80 after a method request offering no
    authentication. A channel given both in one `CHANNEL_REQUEST`, and a SOCKS5 session given
    them in two reads, accept the method and start the outbound connect; neither replies to
    the request, with `0x07` or otherwise. -/
theorem bind_request_connects :
    ((Channel.new 1 262144).onOpen.1.onRequest [5, 1, 0, 5, 2, 0, 1, 127, 0, 0, 1, 0, 80]
        (fun _ _ => .success)).2 = [.mux (.channelRequestAck 1 [5, 0]), .connect "127.0.0.1" 80] ∧
    ((Channel.new 1 262144).onOpen.1.onRequest [5, 1, 0, 5, 2, 0, 1, 127, 0, 0, 1, 0, 80]
        (fun _ _ => .success)).1.state = .connecting ∧
    Socks5Session.start (fun _ _ => .success) [[5, 1, 0], [5, 2, 0, 1, 127, 0, 0, 1, 0, 80]] =
      (⟨.connecting, []⟩, [.write [5, 0], .connect "127.0.0.1" 80], []) := by
  decide

end Channel

end ReverseSocks
