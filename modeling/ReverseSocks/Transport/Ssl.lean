import ReverseSocks.Basic

/-! # The TLS transport

    `SslTransport` in `ssl_transport.cpp` after the handshake: the receive path
    (`OnRecvComplete`, `ProcessDecryptBuffer`, `PostRecv`) and `Send`. SChannel's
    `DecryptMessage` and `EncryptMessage` are parameters; a `Decryptor` leaves fewer extra bytes
    than it was given.

    The decrypt buffer stays within its allocation over every run (`decrypt_buffer_bounded`);
    for a decryptor that reads a record stream, receive boundaries do not matter
    (`tls_records_reassembled`); `Send` encrypts and writes piece by piece (`send_pieces`).
-/

namespace ReverseSocks

/-- `MAX_DECRYPT_BUF_SIZE`. -/
def MAX_DECRYPT_BUF_SIZE : Nat := 256 * 1024

/-- `INITIAL_DECRYPT_BUF_SIZE`. -/
def INITIAL_DECRYPT_BUF_SIZE : Nat := 32 * 1024

/-- `DecryptMessage`'s answer as `ProcessDecryptBuffer` reads it: `SEC_E_INCOMPLETE_MESSAGE`,
    `SEC_I_CONTEXT_EXPIRED`, any other failure, or `SEC_E_OK` with the plaintext of the `DATA`
    buffer and the size of the `EXTRA` buffer. -/
inductive DecryptResult
  | incomplete
  | contextExpired
  | failed
  | ok (plaintext : ByteBuffer) (extra : Nat)
  deriving DecidableEq, Repr

/-- `DecryptMessage` on the security context, as a function of the buffered ciphertext. A
    success consumes something: its extra bytes are fewer than it was given. -/
structure Decryptor where
  decrypt : ByteBuffer → DecryptResult
  extra_lt : ∀ {b p : ByteBuffer} {e : Nat}, decrypt b = .ok p e → e < b.length

/-- What one pass of `ProcessDecryptBuffer` does: the plaintexts it hands to `on_data`, in order,
    the bytes it leaves in `m_decrypt_buf`, and the error of the `on_disconnect` call that
    stopped it, if one did. -/
structure Decrypted where
  plaintexts : List ByteBuffer
  rest : ByteBuffer
  error : Option ErrorCode
  deriving DecidableEq, Repr

/-- `ProcessDecryptBuffer` on the `m_decrypt_buf_used` bytes at the front of the buffer. An empty
    plaintext is not delivered. -/
def processDecryptBuffer (dm : Decryptor) (buf : ByteBuffer) : Decrypted :=
  if buf = [] then ⟨[], [], none⟩
  else
    match h : dm.decrypt buf with
    | .incomplete => ⟨[], buf, none⟩
    | .contextExpired => ⟨[], buf, some .sslDisconnected⟩
    | .failed => ⟨[], buf, some .sslDecryptError⟩
    | .ok p e =>
      let r := processDecryptBuffer dm (buf.drop (buf.length - e))
      { r with plaintexts := (if p = [] then [] else [p]) ++ r.plaintexts }
termination_by buf.length
decreasing_by
  have := dm.extra_lt h
  simp only [List.length_drop]
  omega

/-! ## The loop on a stream -/

/-- A verdict on a buffer other than "incomplete" is kept when more bytes follow, except that
    the extra bytes grow by them: `DecryptMessage` reads a stream of records. -/
def DecryptResult.shift (n : Nat) : DecryptResult → DecryptResult
  | .ok p e => .ok p (e + n)
  | r => r

/-- `DecryptMessage` reads a stream of records. -/
def Decryptor.Stable (dm : Decryptor) : Prop :=
  ∀ b more, b ≠ [] → dm.decrypt b ≠ .incomplete → dm.decrypt (b ++ more) = (dm.decrypt b).shift more.length

section loop

variable {dm : Decryptor} {buf : ByteBuffer}

theorem processDecryptBuffer_nil : processDecryptBuffer dm [] = ⟨[], [], none⟩ := by
  rw [processDecryptBuffer]; simp

theorem processDecryptBuffer_ok (hb : buf ≠ []) {p : ByteBuffer} {e : Nat}
    (h : dm.decrypt buf = .ok p e) :
    processDecryptBuffer dm buf =
      { processDecryptBuffer dm (buf.drop (buf.length - e)) with
        plaintexts := (if p = [] then [] else [p]) ++
          (processDecryptBuffer dm (buf.drop (buf.length - e))).plaintexts } := by
  rw [processDecryptBuffer, if_neg hb]
  split <;> simp_all

theorem processDecryptBuffer_incomplete (hb : buf ≠ []) (h : dm.decrypt buf = .incomplete) :
    processDecryptBuffer dm buf = ⟨[], buf, none⟩ := by
  rw [processDecryptBuffer, if_neg hb]
  split <;> simp_all

theorem processDecryptBuffer_expired (hb : buf ≠ []) (h : dm.decrypt buf = .contextExpired) :
    processDecryptBuffer dm buf = ⟨[], buf, some .sslDisconnected⟩ := by
  rw [processDecryptBuffer, if_neg hb]
  split <;> simp_all

theorem processDecryptBuffer_failed (hb : buf ≠ []) (h : dm.decrypt buf = .failed) :
    processDecryptBuffer dm buf = ⟨[], buf, some .sslDecryptError⟩ := by
  rw [processDecryptBuffer, if_neg hb]
  split <;> simp_all

/-- The loop stops without an error on an empty or incomplete buffer only, and keeps it. -/
theorem processDecryptBuffer_stop (hb : buf = [] ∨ dm.decrypt buf = .incomplete) :
    processDecryptBuffer dm buf = ⟨[], buf, none⟩ := by
  by_cases h : buf = []
  · subst h; exact processDecryptBuffer_nil
  · exact processDecryptBuffer_incomplete h (hb.resolve_left h)

/-- What the loop keeps without an error is empty or incomplete. -/
theorem processDecryptBuffer_rest (dm : Decryptor) (buf : ByteBuffer)
    (h : (processDecryptBuffer dm buf).error = none) :
    (processDecryptBuffer dm buf).rest = [] ∨
      dm.decrypt (processDecryptBuffer dm buf).rest = .incomplete := by
  induction buf using processDecryptBuffer.induct dm with
  | case1 => simp [processDecryptBuffer_nil]
  | case2 buf hb hd => rw [processDecryptBuffer_incomplete hb hd]; exact .inr hd
  | case3 buf hb hd => simp [processDecryptBuffer_expired hb hd] at h
  | case4 buf hb hd => simp [processDecryptBuffer_failed hb hd] at h
  | case5 buf hb p e hd ih =>
    rw [processDecryptBuffer_ok hb hd] at h ⊢
    exact ih h

/-- Running the loop on a buffer followed by more bytes is running it on the buffer, then, if
    it stopped without an error, on what it kept followed by the more bytes. -/
theorem processDecryptBuffer_append (hs : dm.Stable) (buf more : ByteBuffer) :
    processDecryptBuffer dm (buf ++ more) =
      match (processDecryptBuffer dm buf).error with
      | some _ => { processDecryptBuffer dm buf with rest := (processDecryptBuffer dm buf).rest ++ more }
      | none =>
        { processDecryptBuffer dm ((processDecryptBuffer dm buf).rest ++ more) with
          plaintexts := (processDecryptBuffer dm buf).plaintexts ++
            (processDecryptBuffer dm ((processDecryptBuffer dm buf).rest ++ more)).plaintexts } := by
  induction buf using processDecryptBuffer.induct dm with
  | case1 => simp [processDecryptBuffer_nil]
  | case2 buf hb hd => simp [processDecryptBuffer_stop (.inr hd)]
  | case3 buf hb hd =>
    have hm : buf ++ more ≠ [] := by simp [hb]
    have hd' : dm.decrypt (buf ++ more) = .contextExpired := by
      rw [hs buf more hb (by rw [hd]; decide), hd]; rfl
    simp [processDecryptBuffer_expired hm hd', processDecryptBuffer_expired hb hd]
  | case4 buf hb hd =>
    have hm : buf ++ more ≠ [] := by simp [hb]
    have hd' : dm.decrypt (buf ++ more) = .failed := by
      rw [hs buf more hb (by rw [hd]; decide), hd]; rfl
    simp [processDecryptBuffer_failed hm hd', processDecryptBuffer_failed hb hd]
  | case5 buf hb p e hd ih =>
    have hm : buf ++ more ≠ [] := by simp [hb]
    have he := dm.extra_lt hd
    have hd' : dm.decrypt (buf ++ more) = .ok p (e + more.length) := by
      rw [hs buf more hb (by rw [hd]; simp), hd, DecryptResult.shift]
    have hdrop : (buf ++ more).drop ((buf ++ more).length - (e + more.length)) =
        buf.drop (buf.length - e) ++ more := by
      rw [List.length_append, show buf.length + more.length - (e + more.length) = buf.length - e by
        omega, List.drop_append_of_le_length (by omega)]
    rw [processDecryptBuffer_ok hm hd', hdrop, ih, processDecryptBuffer_ok hb hd]
    cases (processDecryptBuffer dm (buf.drop (buf.length - e))).error <;> simp

end loop

/-! ## The receive path -/

/-- What the transport's owner sees: `on_data` or `on_disconnect`. -/
inductive TlsUpcall
  | data (bytes : ByteBuffer)
  | disconnect (ec : ErrorCode)
  deriving DecidableEq, Repr

/-- The calls one pass of `ProcessDecryptBuffer` makes. -/
def Decrypted.upcalls (r : Decrypted) : List TlsUpcall :=
  r.plaintexts.map .data ++ r.error.toList.map .disconnect

/-- `class SslTransport` on its receive path: `m_connected`, the `m_decrypt_buf_used` bytes at
    the front of `m_decrypt_buf`, `m_decrypt_buf.size()`, and whether a receive posted with
    `WSARecv` is owed. -/
structure SslTransport where
  connected : Bool
  decryptBuf : ByteBuffer
  bufSize : Nat
  recvPending : Bool
  deriving DecidableEq, Repr

namespace SslTransport

/-- `PostRecv`: nothing unless connected; `post` is `WSARecv`'s answer, and an immediate failure
    calls `on_disconnect` with its error (leaving `m_connected` set). -/
def postRecv (t : SslTransport) (post : Option ErrorCode) : SslTransport × List TlsUpcall :=
  if t.connected then
    match post with
    | none => ({ t with recvPending := true }, [])
    | some e => (t, [.disconnect e])
  else (t, [])

/-- `OnRecvComplete` with the received bytes and error code, and then `PostRecv` with `post`. -/
def onRecvComplete (dm : Decryptor) (t : SslTransport) (bytes : ByteBuffer) (ec : ErrorCode)
    (post : Option ErrorCode) : SslTransport × List TlsUpcall :=
  let t := { t with recvPending := false }
  if ec ≠ .success ∨ bytes = [] then
    ({ t with connected := false }, [.disconnect (if ec = .success then .sslDisconnected else ec)])
  else if t.bufSize < t.decryptBuf.length + bytes.length ∧
      MAX_DECRYPT_BUF_SIZE < t.decryptBuf.length + bytes.length + 4096 then
    ({ t with connected := false }, [.disconnect .protocolError])
  else
    let r := processDecryptBuffer dm (t.decryptBuf ++ bytes)
    let t := { t with
      decryptBuf := r.rest
      bufSize := if t.bufSize < t.decryptBuf.length + bytes.length
        then t.decryptBuf.length + bytes.length + 4096 else t.bufSize
      connected := t.connected && r.error.isNone }
    ((t.postRecv post).1, r.upcalls ++ (t.postRecv post).2)

/-- A receive completion with its bytes, error code and the answer of the `WSARecv` after it. It
    arrives only while a receive is owed. -/
def recvStep (dm : Decryptor) (t : SslTransport) : ByteBuffer × ErrorCode × Option ErrorCode →
    SslTransport × List TlsUpcall
  | (bytes, ec, post) => if t.recvPending then t.onRecvComplete dm bytes ec post else (t, [])

/-- Receive completions in order; the transport afterwards and every upcall. -/
def recvRun (dm : Decryptor) (t : SslTransport) :
    List (ByteBuffer × ErrorCode × Option ErrorCode) → SslTransport × List TlsUpcall
  | [] => (t, [])
  | x :: xs => (((t.recvStep dm x).1.recvRun dm xs).1,
      (t.recvStep dm x).2 ++ ((t.recvStep dm x).1.recvRun dm xs).2)

end SslTransport

/-! ## The buffer stays within its allocation -/

namespace SslTransport

/-- `m_decrypt_buf_used ≤ m_decrypt_buf.size() ≤ MAX_DECRYPT_BUF_SIZE`. -/
def BufInv (t : SslTransport) : Prop :=
  t.decryptBuf.length ≤ t.bufSize ∧ t.bufSize ≤ MAX_DECRYPT_BUF_SIZE

@[simp] theorem postRecv_decryptBuf (t : SslTransport) (post : Option ErrorCode) :
    (t.postRecv post).1.decryptBuf = t.decryptBuf := by
  unfold postRecv; split <;> [split <;> rfl; rfl]

@[simp] theorem postRecv_bufSize (t : SslTransport) (post : Option ErrorCode) :
    (t.postRecv post).1.bufSize = t.bufSize := by
  unfold postRecv; split <;> [split <;> rfl; rfl]

end SslTransport

theorem processDecryptBuffer_rest_length (dm : Decryptor) (buf : ByteBuffer) :
    (processDecryptBuffer dm buf).rest.length ≤ buf.length := by
  induction buf using processDecryptBuffer.induct dm with
  | case1 => simp [processDecryptBuffer_nil]
  | case2 buf hb hd => simp [processDecryptBuffer_incomplete hb hd]
  | case3 buf hb hd => simp [processDecryptBuffer_expired hb hd]
  | case4 buf hb hd => simp [processDecryptBuffer_failed hb hd]
  | case5 buf hb p e hd ih =>
    rw [processDecryptBuffer_ok hb hd]
    exact ih.trans (by simp)

namespace SslTransport

variable {dm : Decryptor} {t : SslTransport}

/-- The step lemma: the copy of a receive into the buffer fits the size it has after the
    resize, and the resize stays within `MAX_DECRYPT_BUF_SIZE`. -/
theorem BufInv.recvStep (h : t.BufInv) (x : ByteBuffer × ErrorCode × Option ErrorCode) :
    (t.recvStep dm x).1.BufInv := by
  obtain ⟨bytes, ec, post⟩ := x
  by_cases hp : t.recvPending = true
  swap
  · simpa [SslTransport.recvStep, hp] using h
  simp only [SslTransport.recvStep, hp, if_true, onRecvComplete]
  split
  · exact h
  split
  · exact h
  next hover =>
    have hr := processDecryptBuffer_rest_length dm (t.decryptBuf ++ bytes)
    simp only [List.length_append] at hr
    simp only [BufInv, postRecv_decryptBuf, postRecv_bufSize]
    have := h.2
    split <;> omega

/-- The run lemma. -/
theorem BufInv.recvRun (h : t.BufInv) (xs : List (ByteBuffer × ErrorCode × Option ErrorCode)) :
    (t.recvRun dm xs).1.BufInv := by
  induction xs generalizing t with
  | nil => exact h
  | cons x xs ih => exact ih (h.recvStep x)

end SslTransport

/-- The decrypt buffer is bounded: from a buffer within its allocation, over any receive
    completions and whatever `DecryptMessage` answers, the used bytes still fit the buffer and
    the buffer is at most `MAX_DECRYPT_BUF_SIZE`. -/
theorem decrypt_buffer_bounded (dm : Decryptor) (t : SslTransport)
    (h : t.decryptBuf.length ≤ t.bufSize ∧ t.bufSize ≤ MAX_DECRYPT_BUF_SIZE)
    (xs : List (ByteBuffer × ErrorCode × Option ErrorCode)) :
    (t.recvRun dm xs).1.decryptBuf.length ≤ (t.recvRun dm xs).1.bufSize ∧
      (t.recvRun dm xs).1.bufSize ≤ MAX_DECRYPT_BUF_SIZE :=
  SslTransport.BufInv.recvRun h xs

/-! ## Sending -/

/-- `m_stream_sizes.cbMaximumMessage`, which SChannel reports positive. -/
structure StreamSizes where
  cbMaximumMessage : Nat
  max_pos : 0 < cbMaximumMessage

/-- What `Send` asks SChannel and the socket: `EncryptMessage` on a piece of plaintext, with the
    record it builds (`[header][data][trailer]`) or `none` when it fails, and `SendRaw` on a
    record. -/
structure Encryptor where
  encrypt : ByteBuffer → Option ByteBuffer
  sendRaw : ByteBuffer → ErrorCode

/-- The `while (offset < len)` loop of `Send` on the bytes from `offset` on: the records it hands
    to `SendRaw`, in order, and its result. -/
def sendLoop (sizes : StreamSizes) (en : Encryptor) : ByteBuffer → List ByteBuffer × ErrorCode
  | [] => ([], .success)
  | b :: bs =>
    let chunk := min (b :: bs).length sizes.cbMaximumMessage
    match en.encrypt ((b :: bs).take chunk) with
    | none => ([], .sslEncryptError)
    | some record =>
      if en.sendRaw record ≠ .success then ([record], en.sendRaw record)
      else
        let r := sendLoop sizes en ((b :: bs).drop chunk)
        (record :: r.1, r.2)
termination_by data => data.length
decreasing_by
  have := sizes.max_pos
  simp_wf
  simp only [List.length_cons] at *
  omega

/-- `SslTransport::Send`. -/
def SslTransport.send (t : SslTransport) (sizes : StreamSizes) (en : Encryptor) (data : ByteBuffer) :
    List ByteBuffer × ErrorCode :=
  if !t.connected then ([], .sslDisconnected) else sendLoop sizes en data

/-- The pieces `Send` cuts the data into: `cbMaximumMessage` bytes each, the last one shorter. -/
def sendPieces (sizes : StreamSizes) : ByteBuffer → List ByteBuffer
  | [] => []
  | b :: bs =>
    (b :: bs).take (min (b :: bs).length sizes.cbMaximumMessage) ::
      sendPieces sizes ((b :: bs).drop (min (b :: bs).length sizes.cbMaximumMessage))
termination_by data => data.length
decreasing_by
  have := sizes.max_pos
  simp_wf
  simp only [List.length_cons] at *
  omega

section send

variable {sizes : StreamSizes} {en : Encryptor}

/-- The pieces are the data, non-empty, of at most `cbMaximumMessage` bytes. -/
theorem sendPieces_spec (data : ByteBuffer) :
    (sendPieces sizes data).flatten = data ∧
      ∀ p ∈ sendPieces sizes data, p ≠ [] ∧ p.length ≤ sizes.cbMaximumMessage := by
  induction data using sendPieces.induct sizes with
  | case1 => simp [sendPieces]
  | case2 b bs ih =>
    have := sizes.max_pos
    rw [sendPieces]
    refine ⟨by rw [List.flatten_cons, ih.1, List.take_append_drop], ?_⟩
    simp only [List.mem_cons, forall_eq_or_imp]
    refine ⟨⟨by simp; omega, by simp⟩, ih.2⟩

/-- The loop writes the encryptions of the pieces in order, up to the first failure; it succeeds
    exactly when every piece is encrypted and written. -/
theorem sendLoop_spec (data : ByteBuffer) :
    (sendLoop sizes en data).1 <+: (sendPieces sizes data).filterMap en.encrypt ∧
    ((sendLoop sizes en data).2 = .success ↔
      ∀ p ∈ sendPieces sizes data, ∃ r, en.encrypt p = some r ∧ en.sendRaw r = .success) ∧
    ((sendLoop sizes en data).2 = .success →
      (sendLoop sizes en data).1 = (sendPieces sizes data).filterMap en.encrypt) := by
  induction data using sendLoop.induct sizes en with
  | case1 => simp [sendLoop, sendPieces]
  | case2 b bs chunk he =>
    simp only [chunk, List.length_cons] at he
    rw [sendLoop, sendPieces]
    simp [he]
  | case3 b bs chunk record he hr =>
    simp only [chunk, List.length_cons] at he hr
    rw [sendLoop, sendPieces]
    simp [he, hr]
  | case4 b bs chunk record he hr ih =>
    simp only [chunk, List.length_cons, ne_eq, not_not] at he hr ih
    rw [sendLoop, sendPieces]
    simp only [List.length_cons, he, hr, ne_eq, not_true_eq_false, if_false, List.filterMap_cons,
      List.mem_cons, forall_eq_or_imp, Option.some.injEq, exists_eq_left', true_and]
    exact ⟨(List.prefix_cons_inj _).2 ih.1, ih.2.1, fun h => congrArg _ (ih.2.2 h)⟩

end send

/-- `Send` on a connected transport writes the records of non-empty pieces of at most
    `cbMaximumMessage` bytes that make up the data, in order, stopping at the first failure,
    and returns `Success` exactly when all were written; unconnected, it writes nothing. -/
theorem send_pieces (t : SslTransport) (sizes : StreamSizes) (en : Encryptor) (data : ByteBuffer) :
    (t.connected = false → t.send sizes en data = ([], .sslDisconnected)) ∧
    (t.connected = true →
      (sendPieces sizes data).flatten = data ∧
      (∀ p ∈ sendPieces sizes data, p ≠ [] ∧ p.length ≤ sizes.cbMaximumMessage) ∧
      (t.send sizes en data).1 <+: (sendPieces sizes data).filterMap en.encrypt ∧
      ((t.send sizes en data).2 = .success ↔
        ∀ p ∈ sendPieces sizes data, ∃ r, en.encrypt p = some r ∧ en.sendRaw r = .success) ∧
      ((t.send sizes en data).2 = .success →
        (t.send sizes en data).1 = (sendPieces sizes data).filterMap en.encrypt)) := by
  refine ⟨fun hc => by simp [SslTransport.send, hc], fun hc => ?_⟩
  simp only [SslTransport.send, hc, Bool.not_true, if_false]
  exact ⟨(sendPieces_spec data).1, (sendPieces_spec data).2, sendLoop_spec data⟩

/-! ## A record layer for the examples -/

/-- A record layer for the examples below: a length byte, then that many bytes sent in the
    clear. -/
def lengthPrefixed : Decryptor where
  decrypt
    | [] => .incomplete
    | n :: rest =>
      if rest.length < n.toNat then .incomplete else .ok (rest.take n.toNat) (rest.length - n.toNat)
  extra_lt := by
    intro b p e h
    match b with
    | [] => cases h
    | n :: rest =>
      simp only at h
      split at h
      · cases h
      · cases h; simp only [List.length_cons]; omega

theorem lengthPrefixed_stable : lengthPrefixed.Stable := by
  intro b more hb hd
  match b with
  | [] => exact absurd rfl hb
  | n :: rest =>
    simp only [lengthPrefixed] at hd ⊢
    split at hd
    · exact absurd rfl hd
    · next hn =>
      have hn' : ¬ rest.length + more.length < n.toNat := by omega
      simp only [List.cons_append, List.length_append, hn', if_false, hn, DecryptResult.shift,
        List.take_append_of_le_length (Nat.le_of_not_lt hn)]
      congr 1
      omega

theorem lengthPrefixed_incomplete (b : ByteBuffer) (h : lengthPrefixed.decrypt b = .incomplete) :
    b.length < 256 := by
  match b with
  | [] => simp
  | n :: rest =>
    simp only [lengthPrefixed] at h
    split at h
    · have : n.toNat < 256 := n.toNat_lt_size
      simp only [List.length_cons]
      omega
    · cases h

/-- A 4-byte buffer holding 3 bytes: a receive of 2 bytes grows it to 4101 bytes, and
    everything stays within the allocation. -/
theorem decrypt_buffer_bounded_growth :
    let t : SslTransport := ⟨true, [1, 1, 1], 4, true⟩
    let xs : List (ByteBuffer × ErrorCode × Option ErrorCode) :=
      [([0, 0], .success, none), ([], .success, none)]
    (t.decryptBuf.length ≤ t.bufSize ∧ t.bufSize ≤ MAX_DECRYPT_BUF_SIZE) ∧
    (t.recvRun lengthPrefixed xs).1.decryptBuf.length ≤ (t.recvRun lengthPrefixed xs).1.bufSize ∧
      (t.recvRun lengthPrefixed xs).1.bufSize ≤ MAX_DECRYPT_BUF_SIZE :=
  have h : ([1, 1, 1] : ByteBuffer).length ≤ 4 ∧ 4 ≤ MAX_DECRYPT_BUF_SIZE := by decide
  ⟨h, decrypt_buffer_bounded lengthPrefixed ⟨true, [1, 1, 1], 4, true⟩ h _⟩

/-! ## Receive boundaries do not matter -/

namespace SslTransport

variable {dm : Decryptor} {t : SslTransport}

/-- With no receive owed, nothing completes. -/
theorem recvRun_idle (hp : t.recvPending = false) (xs : List (ByteBuffer × ErrorCode × Option ErrorCode)) :
    t.recvRun dm xs = (t, []) := by
  induction xs with
  | nil => rfl
  | cons x xs ih =>
    obtain ⟨bytes, ec, post⟩ := x
    simpa [recvRun, recvStep, hp] using ih

/-- A receive with data that fits, followed by a `WSARecv` posted at once: one pass of
    `ProcessDecryptBuffer` over the buffered bytes and the new ones, and the next receive is owed
    unless the pass failed. -/
theorem recvStep_data (hp : t.recvPending = true) {bytes : ByteBuffer} (hb : bytes ≠ [])
    (hfit : t.decryptBuf.length + bytes.length + 4096 ≤ MAX_DECRYPT_BUF_SIZE) :
    (t.recvStep dm (bytes, .success, none)).2 = (processDecryptBuffer dm (t.decryptBuf ++ bytes)).upcalls ∧
    (t.recvStep dm (bytes, .success, none)).1.decryptBuf =
      (processDecryptBuffer dm (t.decryptBuf ++ bytes)).rest ∧
    (t.recvStep dm (bytes, .success, none)).1.connected =
      (t.connected && (processDecryptBuffer dm (t.decryptBuf ++ bytes)).error.isNone) ∧
    (t.recvStep dm (bytes, .success, none)).1.recvPending =
      (t.connected && (processDecryptBuffer dm (t.decryptBuf ++ bytes)).error.isNone) := by
  have hno : ¬(t.bufSize < t.decryptBuf.length + bytes.length ∧
      MAX_DECRYPT_BUF_SIZE < t.decryptBuf.length + bytes.length + 4096) := by omega
  simp only [recvStep, hp, if_true, onRecvComplete, ne_eq, not_true_eq_false, hb, or_self,
    if_false, hno, postRecv]
  cases t.connected && (processDecryptBuffer dm (t.decryptBuf ++ bytes)).error.isNone <;> simp

/-- The run lemma: from a connected transport with a receive owed and an empty or incomplete
    buffer, receives with data do what one pass of `ProcessDecryptBuffer` does to the buffer
    followed by all the bytes. -/
theorem recvRun_chunks (hs : dm.Stable) {L R : Nat}
    (hinc : ∀ b, dm.decrypt b = .incomplete → b.length < L)
    (hLR : L + R + 4096 ≤ MAX_DECRYPT_BUF_SIZE) (chunks : List ByteBuffer)
    (hch : ∀ c ∈ chunks, c ≠ [] ∧ c.length ≤ R) (hc : t.connected = true)
    (hp : t.recvPending = true) (hb : t.decryptBuf = [] ∨ dm.decrypt t.decryptBuf = .incomplete) :
    (t.recvRun dm (chunks.map fun c => (c, .success, none))).2 =
      (processDecryptBuffer dm (t.decryptBuf ++ chunks.flatten)).upcalls ∧
    ((processDecryptBuffer dm (t.decryptBuf ++ chunks.flatten)).error = none →
      (t.recvRun dm (chunks.map fun c => (c, .success, none))).1.decryptBuf =
        (processDecryptBuffer dm (t.decryptBuf ++ chunks.flatten)).rest ∧
      (t.recvRun dm (chunks.map fun c => (c, .success, none))).1.connected = true ∧
      (t.recvRun dm (chunks.map fun c => (c, .success, none))).1.recvPending = true) := by
  induction chunks generalizing t with
  | nil => simp [recvRun, processDecryptBuffer_stop hb, Decrypted.upcalls, hc, hp]
  | cons c cs ih =>
    obtain ⟨hne, hle⟩ := hch c (List.mem_cons_self c cs)
    have hB : t.decryptBuf.length ≤ L := by
      rcases hb with h | h
      · simp [h]
      · exact (hinc _ h).le
    obtain ⟨h₁, h₂, h₃, h₄⟩ := @recvStep_data dm t hp c hne (by omega)
    have happ := processDecryptBuffer_append hs (t.decryptBuf ++ c) cs.flatten
    rw [List.append_assoc] at happ
    rw [List.map_cons, List.flatten_cons, happ]
    simp only [recvRun]
    rcases he : (processDecryptBuffer dm (t.decryptBuf ++ c)).error with _ | e
    · simp only [hc, he, Option.isNone_none, Bool.and_true] at h₃ h₄
      obtain ⟨ih₁, ih₂⟩ := ih (fun c hc => hch c (List.mem_cons_of_mem _ hc)) h₃ h₄
        (h₂ ▸ processDecryptBuffer_rest dm _ he)
      rw [h₂] at ih₁ ih₂
      exact ⟨by rw [h₁, ih₁]; simp [Decrypted.upcalls, he], ih₂⟩
    · simp only [he, Option.isNone_some, Bool.and_false] at h₄
      rw [recvRun_idle h₄, h₁]
      simp [Decrypted.upcalls, he]

end SslTransport

/-- TLS records are reassembled across receive boundaries: from a connected transport within
    its allocation with an empty or incomplete buffer, receives make the upcalls of one pass of
    `ProcessDecryptBuffer` over the whole stream; without an error a receive is still owed and
    the buffer holds what the pass keeps; and the buffer stays within its allocation. -/
theorem tls_records_reassembled (dm : Decryptor) (hs : dm.Stable) (L R : Nat)
    (hinc : ∀ b, dm.decrypt b = .incomplete → b.length < L)
    (hLR : L + R + 4096 ≤ MAX_DECRYPT_BUF_SIZE) (t : SslTransport) (hbuf : t.BufInv)
    (hc : t.connected = true) (hp : t.recvPending = true)
    (hb : t.decryptBuf = [] ∨ dm.decrypt t.decryptBuf = .incomplete)
    (chunks : List ByteBuffer) (hch : ∀ c ∈ chunks, c ≠ [] ∧ c.length ≤ R) :
    (t.recvRun dm (chunks.map fun c => (c, .success, none))).2 =
      (processDecryptBuffer dm (t.decryptBuf ++ chunks.flatten)).upcalls ∧
    ((processDecryptBuffer dm (t.decryptBuf ++ chunks.flatten)).error = none →
      (t.recvRun dm (chunks.map fun c => (c, .success, none))).1.decryptBuf =
        (processDecryptBuffer dm (t.decryptBuf ++ chunks.flatten)).rest ∧
      (t.recvRun dm (chunks.map fun c => (c, .success, none))).1.connected = true ∧
      (t.recvRun dm (chunks.map fun c => (c, .success, none))).1.recvPending = true) ∧
    (t.recvRun dm (chunks.map fun c => (c, .success, none))).1.BufInv :=
  (SslTransport.recvRun_chunks hs hinc hLR chunks hch hc hp hb).imp_right (⟨·, hbuf.recvRun _⟩)

/-- Two records, `3 1 2 3` and `2 4 5`, received as `3 1 | 2 3 2 | 4 5`: the calls are those of
    one pass over `3 1 2 3 2 4 5`. -/
theorem tls_records_reassembled_split :
    let t : SslTransport := ⟨true, [], INITIAL_DECRYPT_BUF_SIZE, true⟩
    let chunks : List ByteBuffer := [[3, 1], [2, 3, 2], [4, 5]]
    lengthPrefixed.Stable ∧ (∀ b, lengthPrefixed.decrypt b = .incomplete → b.length < 256) ∧
    256 + 3 + 4096 ≤ MAX_DECRYPT_BUF_SIZE ∧ t.BufInv ∧ (∀ c ∈ chunks, c ≠ [] ∧ c.length ≤ 3) ∧
    (t.recvRun lengthPrefixed (chunks.map fun c => (c, .success, none))).2 =
      (processDecryptBuffer lengthPrefixed (t.decryptBuf ++ chunks.flatten)).upcalls ∧
    ((processDecryptBuffer lengthPrefixed (t.decryptBuf ++ chunks.flatten)).error = none →
      (t.recvRun lengthPrefixed (chunks.map fun c => (c, .success, none))).1.decryptBuf =
        (processDecryptBuffer lengthPrefixed (t.decryptBuf ++ chunks.flatten)).rest ∧
      (t.recvRun lengthPrefixed (chunks.map fun c => (c, .success, none))).1.connected = true ∧
      (t.recvRun lengthPrefixed (chunks.map fun c => (c, .success, none))).1.recvPending = true) ∧
    (t.recvRun lengthPrefixed (chunks.map fun c => (c, .success, none))).1.BufInv :=
  ⟨lengthPrefixed_stable, lengthPrefixed_incomplete, by decide, ⟨by decide, by decide⟩, by decide,
    tls_records_reassembled lengthPrefixed lengthPrefixed_stable 256 3 lengthPrefixed_incomplete
      (by decide) _ ⟨by decide, by decide⟩ rfl rfl (.inl rfl) _ (by decide)⟩

end ReverseSocks
