import ReverseSocks.Transport.Ssl

/-! # The TLS handshake and the hand-off to the receive path

    `SslTransport::Connect` from the handshake on: `DoHandshake`, the copy of what it leaves
    unconsumed into `m_decrypt_buf`, and `StartReading`. SChannel's `InitializeSecurityContext`
    is a parameter (`Isc`); the socket is the stream of what arrives at it.

    `hs_buf` doubles when full, so the next `recv` always has room (`handshake_room`). Nothing
    checks that the leftover fits `m_decrypt_buf`: the receive path starts within its allocation
    exactly when it is at most 32 KiB (`connect_handoff`), and then delivers it with the rest of
    the stream as one pass of `ProcessDecryptBuffer` (`post_handshake_stream`).
-/

namespace ReverseSocks

/-! ## The socket and SChannel -/

/-- What arrives at the socket, in order: bytes, or an error `recv` reports (as
    `WsaToErrorCode` maps it). Empty bytes are the peer's orderly close. -/
inductive Arrival
  | bytes (b : ByteBuffer)
  | error (ec : ErrorCode)
  deriving DecidableEq, Repr

/-- The arrivals counted so that every `recv` that returns data lowers the count. -/
def Arrival.weight : List Arrival → Nat
  | [] => 0
  | .bytes b :: as => b.length + 1 + weight as
  | .error _ :: as => 1 + weight as

/-- `RecvRaw` into `room` bytes: its error code, the bytes it read, and what is left to arrive.
    `none` when nothing arrives: `recv` blocks. -/
def recvRaw (room : Nat) : List Arrival → Option (ErrorCode × ByteBuffer × List Arrival)
  | [] => none
  | .error ec :: as => some (ec, [], as)
  | .bytes b :: as =>
    some (.success, b.take room, if room < b.length then .bytes (b.drop room) :: as else as)

/-- A `recv` that returns data consumes some of what arrived. -/
theorem recvRaw_weight {room : Nat} {as as' : List Arrival} {ec : ErrorCode} {bytes : ByteBuffer}
    (h : recvRaw room as = some (ec, bytes, as')) (hb : ¬bytes = []) :
    Arrival.weight as' < Arrival.weight as := by
  match as, h with
  | .error _ :: _, h => simp only [recvRaw, Option.some.injEq, Prod.mk.injEq] at h; exact absurd h.2.1.symm hb
  | .bytes b :: as, h =>
    simp only [recvRaw, Option.some.injEq, Prod.mk.injEq] at h
    obtain ⟨-, rfl, rfl⟩ := h
    have : 0 < room := by
      rcases Nat.eq_zero_or_pos room with h0 | h0
      · simp [h0] at hb
      · exact h0
    split <;> simp only [Arrival.weight, List.length_drop] <;> omega

/-- `RecvRaw` reads at most the room it is given. -/
theorem recvRaw_length {room : Nat} {as as' : List Arrival} {ec : ErrorCode} {bytes : ByteBuffer}
    (h : recvRaw room as = some (ec, bytes, as')) : bytes.length ≤ room := by
  match as, h with
  | .error _ :: _, h => simp only [recvRaw, Option.some.injEq, Prod.mk.injEq] at h; simp [← h.2.1]
  | .bytes b :: as, h =>
    simp only [recvRaw, Option.some.injEq, Prod.mk.injEq] at h
    simp [← h.2.1]

/-- `InitializeSecurityContext`'s status as `DoHandshake` reads it: `SEC_E_OK`,
    `SEC_I_CONTINUE_NEEDED`, `SEC_E_INCOMPLETE_MESSAGE`, or any other. -/
inductive IscStatus
  | ok
  | continueNeeded
  | incompleteMessage
  | failed
  deriving DecidableEq, Repr

/-- One answer of `InitializeSecurityContext`: its status, the token in `out_buf` (empty when
    there is none), and the size of the `SECBUFFER_EXTRA` input buffer (0 when there is none). -/
structure IscAnswer where
  status : IscStatus
  token : ByteBuffer
  extra : Nat
  deriving DecidableEq, Repr

/-- SChannel's `InitializeSecurityContext` on the context `DoHandshake` builds: the first call,
    without input, and each later call on the buffered bytes, whose answer may depend on every
    earlier input. The `SECBUFFER_EXTRA` bytes are bytes of the input: the `memmove` that moves
    them to the front of `hs_buf` reads inside the buffer. -/
structure Isc where
  first : IscAnswer
  next : List ByteBuffer → ByteBuffer → IscAnswer
  extra_le : ∀ hist input, (next hist input).extra ≤ input.length

/-- What `hs_buf` keeps after a call on `input`: the `SECBUFFER_EXTRA` bytes, moved to the front;
    with none, the whole input when the message is incomplete, and nothing otherwise. -/
def IscAnswer.kept (a : IscAnswer) (input : ByteBuffer) : ByteBuffer :=
  if 0 < a.extra then input.drop (input.length - a.extra)
  else if a.status = .incompleteMessage then input else []

/-- The size of `hs_buf` after a call: doubled when what it keeps fills it. -/
def growHsBuf (size kept : Nat) : Nat := if size ≤ kept then size * 2 else size

/-- The tokens an `out_buf` adds to what is written: none when it is empty. -/
def tokenOf (token : ByteBuffer) : List ByteBuffer := if token = [] then [] else [token]

theorem kept_suffix (a : IscAnswer) (input : ByteBuffer) : a.kept input <:+ input := by
  unfold IscAnswer.kept
  split
  · exact List.drop_suffix _ _
  · split
    · exact List.suffix_refl _
    · exact List.nil_suffix

theorem kept_of_extra {a : IscAnswer} {input : ByteBuffer} (h : 0 < a.extra) :
    a.kept input = input.drop (input.length - a.extra) := by
  simp [IscAnswer.kept, h]

/-! ## `DoHandshake` -/

/-- What `DoHandshake` did: the tokens it wrote with `SendRaw`, in order; the room it gave each
    `RecvRaw`; the bytes those calls read; its result; and `hs_buf` when it returned, its size
    and the `hs_used` bytes at its front. -/
structure Handshake where
  tokens : List ByteBuffer
  rooms : List Nat
  received : ByteBuffer
  result : ErrorCode
  hsSize : Nat
  leftover : ByteBuffer
  deriving DecidableEq, Repr

/-- One more trip round the loop in front of a later one. -/
def Handshake.after (token : ByteBuffer) (room : Nat) (bytes : ByteBuffer) (h : Handshake) :
    Handshake :=
  { h with tokens := tokenOf token ++ h.tokens, rooms := room :: h.rooms,
           received := bytes ++ h.received }

/-- The `while` loop of `DoHandshake`, entered with `hs_buf` of `size` bytes holding `used`, after
    the inputs `hist`. `SendRaw` is `sendRaw`; `none` when a `recv` blocks for ever. -/
def handshakeLoop (isc : Isc) (sendRaw : ByteBuffer → ErrorCode) (size : Nat) (used : ByteBuffer)
    (hist : List ByteBuffer) (as : List Arrival) : Option Handshake :=
  match hr : recvRaw (size - used.length) as with
  | none => none
  | some (ec, bytes, rest) =>
    if ec ≠ .success then some ⟨[], [size - used.length], bytes, ec, size, used⟩
    else if hb : bytes = [] then
      some ⟨[], [size - used.length], [], .sslDisconnected, size, used⟩
    else
      let input := used ++ bytes
      let a := isc.next hist input
      if a.token ≠ [] ∧ sendRaw a.token ≠ .success then
        some ⟨[a.token], [size - used.length], bytes, sendRaw a.token, size, input⟩
      else
        let kept := a.kept input
        let size' := growHsBuf size kept.length
        match a.status with
        | .ok => some ⟨tokenOf a.token, [size - used.length], bytes, .success, size', kept⟩
        | .failed =>
          some ⟨tokenOf a.token, [size - used.length], bytes, .sslHandshakeFailed, size', kept⟩
        | _ => (handshakeLoop isc sendRaw size' kept (hist ++ [input]) rest).map
            (Handshake.after a.token (size - used.length) bytes)
termination_by Arrival.weight as
decreasing_by exact recvRaw_weight hr hb

/-- The size `DoHandshake` gives `hs_buf`. -/
def hsBufInitialSize : Nat := 16384

/-- `DoHandshake`: the first `InitializeSecurityContext`, which must continue or succeed; its
    token; and, while SChannel continues, the loop. A first call that succeeds at once does not
    enter the loop and the handshake fails. -/
def doHandshake (isc : Isc) (sendRaw : ByteBuffer → ErrorCode) (as : List Arrival) :
    Option Handshake :=
  let a := isc.first
  if a.status ≠ .continueNeeded ∧ a.status ≠ .ok then some ⟨[], [], [], .sslHandshakeFailed, 0, []⟩
  else if a.token ≠ [] ∧ sendRaw a.token ≠ .success then
    some ⟨[a.token], [], [], sendRaw a.token, 0, []⟩
  else if a.status = .continueNeeded then
    (handshakeLoop isc sendRaw hsBufInitialSize [] [] as).map
      fun h => { h with tokens := tokenOf a.token ++ h.tokens }
  else some ⟨tokenOf a.token, [], [], .sslHandshakeFailed, hsBufInitialSize, []⟩

/-! ## One trip round the loop -/

section loop

variable {isc : Isc} {sendRaw : ByteBuffer → ErrorCode} {size : Nat} {used : ByteBuffer}
  {hist : List ByteBuffer} {as : List Arrival} {r : Handshake}

/-- What one trip round the loop can do: read with the room `hs_buf` has, then either return,
    successfully only when SChannel succeeded on the buffered bytes, with `hs_buf` holding what
    SChannel left, or go round again with what it kept. -/
theorem handshakeLoop_cases (h : handshakeLoop isc sendRaw size used hist as = some r) :
    (r.rooms = [size - used.length] ∧ r.result ≠ .success) ∨
    ∃ bytes rest, recvRaw (size - used.length) as = some (.success, bytes, rest) ∧ bytes ≠ [] ∧
      let input := used ++ bytes
      let a := isc.next hist input
      ((r.rooms = [size - used.length] ∧ r.received = bytes ∧ r.result = .success ∧
          r.leftover = a.kept input ∧ r.hsSize = growHsBuf size (a.kept input).length) ∨
        ∃ r', handshakeLoop isc sendRaw (growHsBuf size (a.kept input).length) (a.kept input)
            (hist ++ [input]) rest = some r' ∧ r = r'.after a.token (size - used.length) bytes) := by
  rw [handshakeLoop] at h
  split at h
  · cases h
  next ec bytes rest hr =>
    by_cases hec : ec = .success
    swap
    · rw [if_pos hec] at h; cases h; exact .inl ⟨rfl, hec⟩
    rw [if_neg (not_not.mpr hec)] at h
    subst hec
    by_cases hb : bytes = []
    · rw [dif_pos hb] at h; cases h; exact .inl ⟨rfl, by simp⟩
    rw [dif_neg hb] at h
    simp only at h
    split at h
    next hs => cases h; exact .inl ⟨rfl, hs.2⟩
    split at h
    · cases h; exact .inr ⟨bytes, rest, hr, hb, .inl ⟨rfl, rfl, rfl, rfl, rfl⟩⟩
    · cases h; exact .inl ⟨rfl, by simp⟩
    · obtain ⟨r', h', rfl⟩ := Option.map_eq_some'.mp h
      exact .inr ⟨bytes, rest, hr, hb, .inr ⟨r', h', rfl⟩⟩

/-- One trip once `RecvRaw` has read data: SChannel on everything buffered, its token, and then
    a return or another trip with what `hs_buf` keeps. -/
theorem handshakeLoop_read {rest : List Arrival} {bytes : ByteBuffer}
    (hr : recvRaw (size - used.length) as = some (.success, bytes, rest)) (hb : bytes ≠ []) :
    handshakeLoop isc sendRaw size used hist as =
      if (isc.next hist (used ++ bytes)).token ≠ [] ∧
          sendRaw (isc.next hist (used ++ bytes)).token ≠ .success then
        some ⟨[(isc.next hist (used ++ bytes)).token], [size - used.length], bytes,
          sendRaw (isc.next hist (used ++ bytes)).token, size, used ++ bytes⟩
      else
        match (isc.next hist (used ++ bytes)).status with
        | .ok => some ⟨tokenOf (isc.next hist (used ++ bytes)).token, [size - used.length], bytes,
            .success, growHsBuf size ((isc.next hist (used ++ bytes)).kept (used ++ bytes)).length,
            (isc.next hist (used ++ bytes)).kept (used ++ bytes)⟩
        | .failed => some ⟨tokenOf (isc.next hist (used ++ bytes)).token, [size - used.length],
            bytes, .sslHandshakeFailed,
            growHsBuf size ((isc.next hist (used ++ bytes)).kept (used ++ bytes)).length,
            (isc.next hist (used ++ bytes)).kept (used ++ bytes)⟩
        | _ => (handshakeLoop isc sendRaw
            (growHsBuf size ((isc.next hist (used ++ bytes)).kept (used ++ bytes)).length)
            ((isc.next hist (used ++ bytes)).kept (used ++ bytes)) (hist ++ [used ++ bytes]) rest).map
            (Handshake.after (isc.next hist (used ++ bytes)).token (size - used.length) bytes) := by
  rw [handshakeLoop]
  split
  · simp_all
  next ec bytes' rest' hr' =>
    rw [hr] at hr'
    obtain ⟨rfl, rfl, rfl⟩ : ErrorCode.success = ec ∧ bytes = bytes' ∧ rest = rest' := by
      simpa using hr'
    rw [if_neg (by simp), dif_neg hb]

/-- A trip that goes round again, with the state it goes round with named. -/
theorem handshakeLoop_again {rest : List Arrival} {bytes : ByteBuffer} {a : IscAnswer}
    {size' : Nat} {kept : ByteBuffer} {hist' : List ByteBuffer}
    (hr : recvRaw (size - used.length) as = some (.success, bytes, rest)) (hb : bytes ≠ [])
    (ha : isc.next hist (used ++ bytes) = a) (ht : a.token = [] ∨ sendRaw a.token = .success)
    (hs : a.status = .continueNeeded ∨ a.status = .incompleteMessage)
    (hk : a.kept (used ++ bytes) = kept) (hg : growHsBuf size kept.length = size')
    (hh : hist ++ [used ++ bytes] = hist') :
    handshakeLoop isc sendRaw size used hist as =
      (handshakeLoop isc sendRaw size' kept hist' rest).map
        (Handshake.after a.token (size - used.length) bytes) := by
  subst hk hg hh
  rw [handshakeLoop_read hr hb, ha, if_neg (by tauto)]
  rcases hs with hs | hs <;> simp only [hs]

/-- A trip that completes the handshake. -/
theorem handshakeLoop_done {rest : List Arrival} {bytes : ByteBuffer} {a : IscAnswer}
    (hr : recvRaw (size - used.length) as = some (.success, bytes, rest)) (hb : bytes ≠ [])
    (ha : isc.next hist (used ++ bytes) = a) (ht : a.token = [] ∨ sendRaw a.token = .success)
    (hs : a.status = .ok) :
    handshakeLoop isc sendRaw size used hist as =
      some ⟨tokenOf a.token, [size - used.length], bytes, .success,
        growHsBuf size (a.kept (used ++ bytes)).length, a.kept (used ++ bytes)⟩ := by
  rw [handshakeLoop_read hr hb, ha, if_neg (by tauto)]
  simp only [hs]

/-- `hs_buf` at the head of the loop: 16384 bytes doubled some number of times, with room left
    after what it holds. -/
def HsRoom (size : Nat) (used : ByteBuffer) : Prop :=
  used.length < size ∧ ∃ k, size = hsBufInitialSize * 2 ^ k

/-- The step lemma: what a call keeps of an input that filled at most the buffer leaves room in
    the buffer as it grows. -/
theorem hsRoom_grow {size : Nat} {kept : ByteBuffer} (hk : kept.length ≤ size)
    (hs : ∃ k, size = hsBufInitialSize * 2 ^ k) : HsRoom (growHsBuf size kept.length) kept := by
  obtain ⟨k, rfl⟩ := hs
  have hpos : 0 < hsBufInitialSize * 2 ^ k := Nat.mul_pos (by decide) (Nat.two_pow_pos k)
  unfold HsRoom growHsBuf
  split
  · exact ⟨by omega, k + 1, by rw [pow_succ, Nat.mul_assoc]⟩
  · exact ⟨by omega, k, rfl⟩

/-- The bytes a read adds to a buffer with room fill at most the buffer. -/
theorem input_length_le (hroom : used.length < size) {rest : List Arrival} {bytes : ByteBuffer}
    (hr : recvRaw (size - used.length) as = some (.success, bytes, rest)) :
    (used ++ bytes).length ≤ size := by
  have := recvRaw_length hr
  simp only [List.length_append]
  omega

theorem suffix_append_right {l₁ l₂ : ByteBuffer} (h : l₁ <:+ l₂) (l : ByteBuffer) :
    l₁ ++ l <:+ l₂ ++ l := by
  obtain ⟨t, rfl⟩ := h
  exact ⟨t, by simp⟩

end loop

/-- The run lemma: from a head with room, every `RecvRaw` gets room, and a handshake that
    succeeds leaves room in `hs_buf` after what it keeps, which is the last bytes received. -/
theorem handshakeLoop_room {isc : Isc} {sendRaw : ByteBuffer → ErrorCode} {size : Nat}
    {used : ByteBuffer} {hist : List ByteBuffer} {as : List Arrival} {r : Handshake} {pre : ByteBuffer} (hroom : HsRoom size used) (hpre : used <:+ pre)
    (h : handshakeLoop isc sendRaw size used hist as = some r) :
    (∀ c ∈ r.rooms, 0 < c) ∧
      (r.result = .success → HsRoom r.hsSize r.leftover ∧ r.leftover <:+ pre ++ r.received) := by
  have hfirst : 0 < size - used.length := by have := hroom.1; omega
  rcases handshakeLoop_cases h with ⟨hrooms, hres⟩ | ⟨bytes, rest, hr, hb, hend | ⟨r', h', rfl⟩⟩
  · exact ⟨by simpa [hrooms] using hfirst, fun hs => absurd hs hres⟩
  · obtain ⟨hrooms, hrec, -, hleft, hsize⟩ := hend
    have hkept := (kept_suffix (isc.next hist (used ++ bytes)) (used ++ bytes))
    refine ⟨by simpa [hrooms] using hfirst, fun _ => ⟨?_, ?_⟩⟩
    · rw [hleft, hsize]
      exact hsRoom_grow (hkept.length_le.trans (input_length_le hroom.1 hr)) hroom.2
    · rw [hleft, hrec]
      exact hkept.trans (suffix_append_right hpre bytes)
  · have hkept := (kept_suffix (isc.next hist (used ++ bytes)) (used ++ bytes))
    obtain ⟨ih₁, ih₂⟩ := handshakeLoop_room
      (hsRoom_grow (hkept.length_le.trans (input_length_le hroom.1 hr)) hroom.2)
      (hkept.trans (suffix_append_right hpre bytes)) h'
    refine ⟨?_, fun hs => ?_⟩
    · simpa [Handshake.after, hfirst] using ih₁
    · simpa [Handshake.after] using ih₂ hs
termination_by Arrival.weight as
decreasing_by exact recvRaw_weight hr hb


/-- What `DoHandshake` can do: fail before its loop, reading nothing, or run the loop from an
    empty `hs_buf` of 16384 bytes after writing the first token. -/
theorem doHandshake_cases {isc : Isc} {sendRaw : ByteBuffer → ErrorCode} {as : List Arrival}
    {r : Handshake} (h : doHandshake isc sendRaw as = some r) :
    (r.rooms = [] ∧ r.result ≠ .success) ∨
      ∃ r', handshakeLoop isc sendRaw hsBufInitialSize [] [] as = some r' ∧
        r = { r' with tokens := tokenOf isc.first.token ++ r'.tokens } := by
  simp only [doHandshake] at h
  split at h
  · cases h; exact .inl ⟨rfl, by simp⟩
  split at h
  next hs => cases h; exact .inl ⟨rfl, hs.2⟩
  split at h
  · obtain ⟨r', h', rfl⟩ := Option.map_eq_some'.mp h; exact .inr ⟨r', h', rfl⟩
  · cases h; exact .inl ⟨rfl, by simp⟩

/-! ## Two SChannels for the examples -/

/-- A short handshake: SChannel asks for more until it holds 8 bytes, then completes with a
    token, consuming 3 bytes and leaving the rest as extra. -/
def shortIsc : Isc where
  first := ⟨.continueNeeded, [0x16], 0⟩
  next _ input :=
    if input.length < 8 then ⟨.incompleteMessage, [], 0⟩ else ⟨.ok, [0x14], input.length - 3⟩
  extra_le hist input := by dsimp only; split <;> simp

/-- A server whose flight is 40000 bytes, followed by 50000 bytes of its final message and the
    records after it. SChannel asks for more until it holds the whole flight, answers it, and
    completes on the next input, consuming 10000 bytes and leaving 40000 as extra. -/
def bigFlightIsc : Isc where
  first := ⟨.continueNeeded, [0x16], 0⟩
  next hist input :=
    if input.length < 40000 then ⟨.incompleteMessage, [], 0⟩
    else if hist.length < 3 then ⟨.continueNeeded, [0x14], 0⟩
    else ⟨.ok, [], input.length - 10000⟩
  extra_le hist input := by dsimp only; split <;> [simp; split <;> simp]

/-- The server's 40000-byte flight in the example below. It is irreducible: the example reasons
    about its length, never about its bytes. -/
@[irreducible] def serverFlight : ByteBuffer := List.replicate 40000 1

/-- The 50000 bytes the server sends after its flight. -/
@[irreducible] def serverTail : ByteBuffer := List.replicate 50000 2

theorem length_serverFlight : serverFlight.length = 40000 := by
  unfold serverFlight; exact List.length_replicate _ _

theorem length_serverTail : serverTail.length = 50000 := by
  unfold serverTail; exact List.length_replicate _ _

theorem serverFlight_ne_nil : serverFlight ≠ [] :=
  List.ne_nil_of_length_pos (by rw [length_serverFlight]; decide)

theorem serverTail_ne_nil : serverTail ≠ [] :=
  List.ne_nil_of_length_pos (by rw [length_serverTail]; decide)

/-- Whatever SChannel answers and however the bytes arrive, every `RecvRaw` of `DoHandshake`
    has room, so a `recv` of 0 is the peer's close; a successful handshake leaves fewer bytes
    than its doubled buffer, the last bytes it received. -/
theorem handshake_room (isc : Isc) (sendRaw : ByteBuffer → ErrorCode) (as : List Arrival)
    (r : Handshake) (h : doHandshake isc sendRaw as = some r) :
    (∀ c ∈ r.rooms, 0 < c) ∧
      (r.result = .success → r.leftover.length < r.hsSize ∧
        (∃ k, r.hsSize = hsBufInitialSize * 2 ^ k) ∧ r.leftover <:+ r.received) := by
  rcases doHandshake_cases h with ⟨hrooms, hres⟩ | ⟨r', h', rfl⟩
  · exact ⟨by simp [hrooms], fun hs => absurd hs hres⟩
  · obtain ⟨h₁, h₂⟩ := handshakeLoop_room ⟨by decide, 0, rfl⟩
      (List.nil_suffix : ([] : ByteBuffer) <:+ []) h'
    refine ⟨h₁, fun hs => ?_⟩
    obtain ⟨⟨hlt, hk⟩, hsuf⟩ := h₂ hs
    exact ⟨hlt, hk, by simpa using hsuf⟩

/-- A short handshake read as `5 6 | 7 2 4 5 3 1`: two reads, both with room, and the last five
    bytes left over. -/
theorem handshake_room_short :
    doHandshake shortIsc (fun _ => .success) [.bytes [5, 6], .bytes [7, 2, 4, 5, 3, 1]] =
      some ⟨[[0x16], [0x14]], [16384, 16382], [5, 6, 7, 2, 4, 5, 3, 1], .success, 16384,
        [2, 4, 5, 3, 1]⟩ ∧
    (∀ c ∈ [16384, 16382], 0 < c) ∧
      (ErrorCode.success = .success → [2, 4, 5, 3, 1].length < 16384 ∧
        (∃ k, 16384 = hsBufInitialSize * 2 ^ k) ∧
        ([2, 4, 5, 3, 1] : ByteBuffer) <:+ [5, 6, 7, 2, 4, 5, 3, 1]) := by
  have h : doHandshake shortIsc (fun _ => .success) [.bytes [5, 6], .bytes [7, 2, 4, 5, 3, 1]] =
      some ⟨[[0x16], [0x14]], [16384, 16382], [5, 6, 7, 2, 4, 5, 3, 1], .success, 16384,
        [2, 4, 5, 3, 1]⟩ := by
    simp [doHandshake, shortIsc, handshakeLoop, recvRaw, hsBufInitialSize, IscAnswer.kept,
      growHsBuf, tokenOf, Handshake.after]
  exact ⟨h, handshake_room _ _ _ _ h⟩

/-! ## `Connect` and `StartReading` -/

namespace SslTransport

/-- A transport after `Close`: not connected and nothing buffered; `m_decrypt_buf` keeps its
    size. -/
def closed : SslTransport := ⟨false, [], INITIAL_DECRYPT_BUF_SIZE, false⟩

/-- `Connect` on a new transport, whose `m_decrypt_buf` has `INITIAL_DECRYPT_BUF_SIZE` bytes and
    none used, from the handshake on: `DoHandshake`, which on success copies the bytes it kept
    into `m_decrypt_buf`; `QueryContextAttributes` (`query`); and `m_connected`. A failure closes
    the transport. -/
def connect (isc : Isc) (sendRaw : ByteBuffer → ErrorCode) (query : Bool) (as : List Arrival) :
    Option (ErrorCode × SslTransport) :=
  (doHandshake isc sendRaw as).map fun h =>
    if h.result ≠ .success then (h.result, closed)
    else if query = false then (.sslHandshakeFailed, closed)
    else (.success, ⟨true, h.leftover, INITIAL_DECRYPT_BUF_SIZE, false⟩)

/-- `StartReading`: the bytes the handshake left, through `ProcessDecryptBuffer` (which does
    nothing on an empty buffer, as the check before it in the source says), then `PostRecv`. -/
def startReading (dm : Decryptor) (t : SslTransport) (post : Option ErrorCode) :
    SslTransport × List TlsUpcall :=
  let r := processDecryptBuffer dm t.decryptBuf
  let t := { t with decryptBuf := r.rest, connected := t.connected && r.error.isNone }
  ((t.postRecv post).1, r.upcalls ++ (t.postRecv post).2)

/-- `StartReading` keeps the buffer within its allocation: it only drops what it decrypts. -/
theorem BufInv.startReading {dm : Decryptor} {t : SslTransport} (h : t.BufInv)
    (post : Option ErrorCode) : (t.startReading dm post).1.BufInv := by
  simp only [SslTransport.startReading, BufInv, postRecv_decryptBuf, postRecv_bufSize]
  exact ⟨(processDecryptBuffer_rest_length dm _).trans h.1, h.2⟩

/-- A `Connect` that succeeds ran a handshake that succeeded, and holds what it kept. -/
theorem connect_success {isc : Isc} {sendRaw : ByteBuffer → ErrorCode} {query : Bool}
    {as : List Arrival} {t : SslTransport} (h : connect isc sendRaw query as = some (.success, t)) :
    ∃ hs, doHandshake isc sendRaw as = some hs ∧ hs.result = .success ∧
      t = ⟨true, hs.leftover, INITIAL_DECRYPT_BUF_SIZE, false⟩ := by
  obtain ⟨hs, hh, he⟩ := Option.map_eq_some'.mp h
  by_cases hr : hs.result = .success
  · cases query
    · simp [hr] at he
    · simp only [hr, ne_eq, not_true_eq_false, if_false, Bool.true_eq_false, Prod.mk.injEq] at he
      exact ⟨hs, hh, hr, he.2.symm⟩
  · simp [hr] at he

end SslTransport

/-- The hand-off after a `Connect` that succeeds: `m_decrypt_buf` holds what the handshake
    left, and the copy stays within it exactly when those bytes are at most
    `INITIAL_DECRYPT_BUF_SIZE`; then every run of receives keeps the buffer within bounds. -/
theorem connect_handoff (dm : Decryptor) (isc : Isc) (sendRaw : ByteBuffer → ErrorCode)
    (query : Bool) (as : List Arrival) (t : SslTransport)
    (h : SslTransport.connect isc sendRaw query as = some (.success, t)) :
    t.connected = true ∧ t.bufSize = INITIAL_DECRYPT_BUF_SIZE ∧
      (∃ hs, doHandshake isc sendRaw as = some hs ∧ hs.result = .success ∧
        t.decryptBuf = hs.leftover) ∧
      (t.decryptBuf.length ≤ t.bufSize ↔ t.decryptBuf.length ≤ INITIAL_DECRYPT_BUF_SIZE) ∧
      (t.decryptBuf.length ≤ INITIAL_DECRYPT_BUF_SIZE →
        ∀ post xs, ((t.startReading dm post).1.recvRun dm xs).1.decryptBuf.length ≤
            ((t.startReading dm post).1.recvRun dm xs).1.bufSize ∧
          ((t.startReading dm post).1.recvRun dm xs).1.bufSize ≤ MAX_DECRYPT_BUF_SIZE) := by
  obtain ⟨hs, hh, hok, rfl⟩ := SslTransport.connect_success h
  refine ⟨rfl, rfl, ⟨hs, hh, hok, rfl⟩, Iff.rfl, fun hfit post xs => ?_⟩
  have hinv : SslTransport.BufInv ⟨true, hs.leftover, INITIAL_DECRYPT_BUF_SIZE, false⟩ :=
    ⟨hfit, show INITIAL_DECRYPT_BUF_SIZE ≤ MAX_DECRYPT_BUF_SIZE by decide⟩
  exact (hinv.startReading post).recvRun xs

/-- The copy overruns `m_decrypt_buf`. The server's 40000-byte flight grows `hs_buf` to 32 KiB
    and then to 64 KiB while SChannel waits for all of it; the last read takes the 50000 bytes that
    follow, SChannel consumes 10000 of them and leaves 40000, and `Connect` copies those into the
    32768 bytes of `m_decrypt_buf`. -/
theorem connect_handoff_overrun :
    ∃ t : SslTransport, SslTransport.connect bigFlightIsc (fun _ => .success) true
        [.bytes serverFlight, .bytes serverTail] = some (.success, t) ∧
      t.bufSize = INITIAL_DECRYPT_BUF_SIZE ∧ ¬t.decryptBuf.length ≤ t.bufSize := by
  obtain ⟨t, h, hlen⟩ : ∃ t : SslTransport, SslTransport.connect bigFlightIsc (fun _ => .success)
      true [.bytes serverFlight, .bytes serverTail] = some (.success, t) ∧
      INITIAL_DECRYPT_BUF_SIZE < t.decryptBuf.length := by
    have hF := length_serverFlight
    have hT := length_serverTail
    have hfirst : bigFlightIsc.first = ⟨.continueNeeded, [0x16], 0⟩ := rfl
    simp only [SslTransport.connect, doHandshake, hfirst, hsBufInitialSize, ne_eq, reduceCtorEq,
      not_false_eq_true, and_true, not_true_eq_false, and_false, if_false, if_true]
    rw [@handshakeLoop_again bigFlightIsc (fun _ => .success) 16384 [] []
      [.bytes serverFlight, .bytes serverTail] [.bytes (serverFlight.drop 16384), .bytes serverTail]
      (serverFlight.take 16384) ⟨.incompleteMessage, [], 0⟩ 32768 (serverFlight.take 16384)
      [serverFlight.take 16384]
      (by simp [recvRaw, hF]) (by simp [serverFlight_ne_nil])
      (by rw [List.nil_append]; simp [bigFlightIsc, hF]) (.inl rfl) (.inr rfl)
      (by rw [List.nil_append]; simp [IscAnswer.kept]) (by simp [growHsBuf, hF])
      (by rw [List.nil_append, List.nil_append]),
      @handshakeLoop_again bigFlightIsc (fun _ => .success) 32768 (serverFlight.take 16384)
      [serverFlight.take 16384] [.bytes (serverFlight.drop 16384), .bytes serverTail]
      [.bytes (serverFlight.drop 32768), .bytes serverTail] ((serverFlight.drop 16384).take 16384)
      ⟨.incompleteMessage, [], 0⟩ 65536 (serverFlight.take 32768)
      [serverFlight.take 16384, serverFlight.take 32768]
      (by simp [recvRaw, hF]) (by simp [serverFlight_ne_nil, hF]) (by simp [bigFlightIsc, hF])
      (.inl rfl) (.inr rfl) (by simp [IscAnswer.kept, ← List.take_add]) (by simp [growHsBuf, hF])
      (by simp [← List.take_add]),
      @handshakeLoop_again bigFlightIsc (fun _ => .success) 65536 (serverFlight.take 32768)
      [serverFlight.take 16384, serverFlight.take 32768]
      [.bytes (serverFlight.drop 32768), .bytes serverTail] [.bytes serverTail]
      ((serverFlight.drop 32768).take 32768) ⟨.continueNeeded, [0x14], 0⟩ 65536 []
      [serverFlight.take 16384, serverFlight.take 32768, serverFlight]
      (by simp [recvRaw, hF]) (by simp [serverFlight_ne_nil, hF]) (by simp [bigFlightIsc, hF])
      (.inr rfl) (.inl rfl) (by simp [IscAnswer.kept]) (by simp [growHsBuf])
      (by simp [← List.take_add, hF]),
      @handshakeLoop_done bigFlightIsc (fun _ => .success) 65536 []
      [serverFlight.take 16384, serverFlight.take 32768, serverFlight] [.bytes serverTail] []
      serverTail ⟨.ok, [], 40000⟩
      (by rw [List.length_nil, Nat.sub_zero, recvRaw, List.take_of_length_le (by rw [hT]; decide),
        if_neg (by rw [hT]; decide)])
      serverTail_ne_nil
      (by rw [List.nil_append]; simp only [bigFlightIsc]; rw [hT, if_neg (by decide), if_neg (by simp)])
      (.inl rfl) rfl]
    refine ⟨_, rfl, ?_⟩
    dsimp only [Handshake.after]
    rw [List.nil_append, kept_of_extra (by decide), List.length_drop, hT]
    decide
  obtain ⟨-, hsize, -, hiff, -⟩ :=
    connect_handoff lengthPrefixed bigFlightIsc _ true _ t h
  exact ⟨t, h, hsize, fun hle => absurd (hiff.mp hle) (by omega)⟩

/-- No byte is lost at the hand-off when what the handshake left fits the decrypt buffer
    (`connect_handoff` shows the overrun otherwise): `StartReading` and receives of any chunks
    make the `on_data` and `on_disconnect` calls of one pass of `ProcessDecryptBuffer` over the
    leftover followed by the chunks, and the buffer stays within its allocation. -/
theorem post_handshake_stream (dm : Decryptor) (hs : dm.Stable) (L R : Nat)
    (hinc : ∀ b, dm.decrypt b = .incomplete → b.length < L)
    (hLR : L + R + 4096 ≤ MAX_DECRYPT_BUF_SIZE) (isc : Isc) (sendRaw : ByteBuffer → ErrorCode)
    (query : Bool) (as : List Arrival) (t : SslTransport)
    (h : SslTransport.connect isc sendRaw query as = some (.success, t))
    (hleft : t.decryptBuf.length ≤ INITIAL_DECRYPT_BUF_SIZE)
    (chunks : List ByteBuffer) (hch : ∀ c ∈ chunks, c ≠ [] ∧ c.length ≤ R) :
    (t.startReading dm none).2 ++
        ((t.startReading dm none).1.recvRun dm (chunks.map fun c => (c, .success, none))).2 =
      (processDecryptBuffer dm (t.decryptBuf ++ chunks.flatten)).upcalls ∧
    ((t.startReading dm none).1.recvRun dm (chunks.map fun c => (c, .success, none))).1.BufInv := by
  obtain ⟨hsh, -, -, rfl⟩ := SslTransport.connect_success h
  refine ⟨?_, (SslTransport.BufInv.startReading ⟨hleft,
    show INITIAL_DECRYPT_BUF_SIZE ≤ MAX_DECRYPT_BUF_SIZE by decide⟩ none).recvRun _⟩
  rw [processDecryptBuffer_append hs]
  rcases he : (processDecryptBuffer dm hsh.leftover).error with _ | e
  · obtain ⟨h₁, -⟩ := SslTransport.recvRun_chunks hs hinc hLR chunks hch
      (t := ⟨true, (processDecryptBuffer dm hsh.leftover).rest, INITIAL_DECRYPT_BUF_SIZE, true⟩)
      rfl rfl (processDecryptBuffer_rest dm _ he)
    simp only [SslTransport.startReading, he, Option.isNone_none, Bool.and_true,
      SslTransport.postRecv, if_true]
    rw [h₁]
    simp [Decrypted.upcalls, he]
  · simp only [SslTransport.startReading, he, Option.isNone_some, Bool.and_false,
      SslTransport.postRecv, Bool.false_eq_true, if_false]
    rw [SslTransport.recvRun_idle rfl]
    simp [Decrypted.upcalls, he]

/-- The short handshake leaves `2 4 5 3 1`: a record `2 4 5` and the start of `3 1 2 3`, whose
    end arrives as `2 3`. The calls are those of one pass over `2 4 5 3 1 2 3`. -/
theorem post_handshake_stream_short :
    let t : SslTransport := ⟨true, [2, 4, 5, 3, 1], INITIAL_DECRYPT_BUF_SIZE, false⟩
    let chunks : List ByteBuffer := [[2, 3]]
    SslTransport.connect shortIsc (fun _ => .success) true
        [.bytes [5, 6], .bytes [7, 2, 4, 5, 3, 1]] = some (.success, t) ∧
      t.decryptBuf.length ≤ INITIAL_DECRYPT_BUF_SIZE ∧
      (t.startReading lengthPrefixed none).2 ++
          ((t.startReading lengthPrefixed none).1.recvRun lengthPrefixed
            (chunks.map fun c => (c, .success, none))).2 =
        (processDecryptBuffer lengthPrefixed (t.decryptBuf ++ chunks.flatten)).upcalls ∧
      ((t.startReading lengthPrefixed none).1.recvRun lengthPrefixed
        (chunks.map fun c => (c, .success, none))).1.BufInv := by
  intro t chunks
  have h : SslTransport.connect shortIsc (fun _ => .success) true
      [.bytes [5, 6], .bytes [7, 2, 4, 5, 3, 1]] = some (.success, t) := by
    simp [t, SslTransport.connect, doHandshake, shortIsc, handshakeLoop, recvRaw, hsBufInitialSize,
      IscAnswer.kept, growHsBuf, tokenOf, Handshake.after]
  exact ⟨h, by decide, post_handshake_stream lengthPrefixed lengthPrefixed_stable 256 2
    lengthPrefixed_incomplete (by decide) shortIsc _ true _ t h (by decide) chunks (by decide)⟩

end ReverseSocks
