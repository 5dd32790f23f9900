import ReverseSocks.Socks5.Handler

/-! # The SOCKS5 session

    `socks5_session.cpp`: the server side of the SOCKS5 handshake over an SSH channel, the
    outbound connect, and the relay from the channel to the target. The channel's `Read`
    results are input, in order, `[]` for an error or the end of the stream;
    `readFromChannel` runs the handlers' mutual recursion one read at a time.

    How long `StartRelay` holds the I/O thread that runs it is in `Io/Relay.lean`.
-/

namespace ReverseSocks

/-- `Socks5Session::State`. -/
inductive Socks5State
  | readingMethods
  | readingRequest
  | connecting
  | relaying
  | closed
  deriving DecidableEq, Repr

/-- What the session does that the outside sees: `m_channel->Write`, the start of
    `m_tcp.ConnectAsync`, `m_tcp.Send` to the target, and `Close` (the TCP connection closed,
    the channel sent EOF and closed). -/
inductive Socks5Action
  | write (bytes : ByteBuffer)
  | connect (host : String) (port : UInt16)
  | send (bytes : ByteBuffer)
  | close
  deriving DecidableEq, Repr

/-- `class Socks5Session`: the state and `m_inbound_buf`. -/
structure Socks5Session where
  state : Socks5State
  inbound : ByteBuffer
  deriving DecidableEq, Repr

namespace Socks5Session

open Socks5

/-- A new session: `ReadingMethods`, nothing buffered. -/
def init : Socks5Session := ⟨.readingMethods, []⟩

/-- `Close`: once only. -/
def close (s : Socks5Session) : Socks5Session × List Socks5Action :=
  if s.state = .closed then (s, []) else ({ s with state := .closed }, [.close])

theorem close_state (s : Socks5Session) : s.close.1.state = .closed := by
  unfold close; split_ifs <;> simp_all

/-- `HandleMethodNegotiation` on the buffered bytes; the flag is whether it calls
    `ReadFromChannel`. -/
def handleMethodNegotiation (s : Socks5Session) : Socks5Session × List Socks5Action × Bool :=
  let parsed := parseMethodRequest s.inbound
  if parsed.1 = 0 then (s, [], true)
  else if parsed.1 < 0 ∨ parsed.2 = false then
    (s.close.1, .write (buildMethodResponse AUTH_NO_ACCEPTABLE) :: s.close.2, false)
  else
    ({ s with inbound := s.inbound.drop parsed.1.toNat, state := .readingRequest },
      [.write (buildMethodResponse AUTH_NONE)], true)

/-- `StartTcpConnect`: `Connecting`, then the connect; a synchronous failure replies with the
    mapped code and closes. -/
def startTcpConnect (s : Socks5Session) (net : Network) (req : ConnectRequest) :
    Socks5Session × List Socks5Action :=
  let s := { s with state := .connecting }
  let ec := net req.host req.port
  if ec ≠ .success then
    (s.close.1, .connect req.host req.port ::
      .write (connectReply (errorCodeToSocks5Reply ec)) :: s.close.2)
  else (s, [.connect req.host req.port])

/-- `HandleConnectRequest` on the buffered bytes, into a fresh `req{}`. -/
def handleConnectRequest (s : Socks5Session) (net : Network) :
    Socks5Session × List Socks5Action × Bool :=
  let parsed := parseConnectRequest s.inbound default
  if parsed.1 = 0 then (s, [], true)
  else if parsed.1 < 0 then
    (s.close.1, .write (connectReply REP_GENERAL_FAILURE) :: s.close.2, false)
  else
    let s := { s with inbound := s.inbound.drop parsed.1.toNat }
    let req := parsed.2
    if req.atyp ≠ ATYP_IPV4 ∧ req.atyp ≠ ATYP_IPV6 ∧ req.atyp ≠ ATYP_DOMAIN then
      (s.close.1, .write (connectReply REP_ADDRESS_TYPE_NOT_SUPPORTED) :: s.close.2, false)
    else ((s.startTcpConnect net req).1, (s.startTcpConnect net req).2, false)

/-- `OnChannelData`: buffer the bytes and run the handler of the state. -/
def onChannelData (s : Socks5Session) (net : Network) (data : ByteBuffer) :
    Socks5Session × List Socks5Action × Bool :=
  let s := { s with inbound := s.inbound ++ data }
  match s.state with
  | .readingMethods => s.handleMethodNegotiation
  | .readingRequest => s.handleConnectRequest net
  | _ => (s, [], false)

/-- `ReadFromChannel` and the handlers it runs, over the results of successive `Read` calls.
    It returns the session, the actions, and the results not read. With no result left, the
    `Read` blocks and nothing more happens. -/
def readFromChannel (net : Network) (s : Socks5Session) (reads : List ByteBuffer) :
    Socks5Session × List Socks5Action × List ByteBuffer :=
  if s.state = .closed then (s, [], reads)
  else
    match reads with
    | [] => (s, [], [])
    | r :: rs =>
      if r = [] then (s.close.1, s.close.2, rs)
      else
        let d := s.onChannelData net r
        if d.2.2 then
          let k := readFromChannel net d.1 rs
          (k.1, d.2.1 ++ k.2.1, k.2.2)
        else (d.1, d.2.1, rs)

/-- `Start`. -/
def start (net : Network) (reads : List ByteBuffer) :
    Socks5Session × List Socks5Action × List ByteBuffer :=
  readFromChannel net init reads

/-- The channel-to-target loop of `StartRelay`: each read goes to `m_tcp.Send`, until an error
    or the end of the stream (`IsEof` and a zero-byte `Read` both end it). The flag says whether
    the loop ended; with no result left the `Read` blocks. -/
def startRelay : List ByteBuffer → List Socks5Action × Bool × List ByteBuffer
  | [] => ([], false, [])
  | r :: rs =>
    if r = [] then ([], true, rs)
    else
      let k := startRelay rs
      (.send r :: k.1, k.2)

/-- `OnTcpConnected`: on failure the mapped reply and `Close`; on success the success reply,
    `Relaying`, and `StartRelay`, which closes the session when its loop ends. -/
def onTcpConnected (s : Socks5Session) (ec : ErrorCode) (reads : List ByteBuffer) :
    Socks5Session × List Socks5Action × List ByteBuffer :=
  if ec ≠ .success then
    (s.close.1, .write (connectReply (errorCodeToSocks5Reply ec)) :: s.close.2, reads)
  else
    let s := { s with state := .relaying }
    let k := startRelay reads
    if k.2.1 then (s.close.1, .write (connectReply REP_SUCCESS) :: k.1 ++ s.close.2, k.2.2)
    else (s, .write (connectReply REP_SUCCESS) :: k.1, k.2.2)

/-- A whole session on one channel: `Start`, then, if the handshake started a connect, its
    completion with `ec` and the relay over the reads that are left. -/
def serve (net : Network) (ec : ErrorCode) (reads : List ByteBuffer) :
    Socks5Session × List Socks5Action :=
  let r := start net reads
  if r.1.state = .connecting then
    let c := r.1.onTcpConnected ec r.2.2
    (c.1, r.2.1 ++ c.2.1)
  else (r.1, r.2.1)

end Socks5Session

end ReverseSocks
