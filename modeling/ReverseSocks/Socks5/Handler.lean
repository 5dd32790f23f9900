import ReverseSocks.Basic

/-! # SOCKS5 parsing and replies

    `socks5_handler.cpp`: the method-selection and CONNECT-request parsers,
    which return the bytes consumed, `0` for "need more", or `-1` for a
    malformed message, and the reply builders.

    A parser reads its input through `data[i]`; here the input is a list and
    the reads are a pattern match, so a byte past the end is never read.
    `ParseConnectRequest` writes its `out` parameter as it goes, and returns
    it updated, also on the paths that return `0` or `-1`.
-/

namespace ReverseSocks

namespace Socks5

/-- `VERSION`. -/
def VERSION : UInt8 := 0x05
/-- `AUTH_NONE`. -/
def AUTH_NONE : UInt8 := 0x00
/-- `AUTH_NO_ACCEPTABLE`. -/
def AUTH_NO_ACCEPTABLE : UInt8 := 0xFF
/-- `CMD_CONNECT`. -/
def CMD_CONNECT : UInt8 := 0x01
/-- `ATYP_IPV4`. -/
def ATYP_IPV4 : UInt8 := 0x01
/-- `ATYP_DOMAIN`. -/
def ATYP_DOMAIN : UInt8 := 0x03
/-- `ATYP_IPV6`. -/
def ATYP_IPV6 : UInt8 := 0x04
/-- `REP_SUCCESS`. -/
def REP_SUCCESS : UInt8 := 0x00
/-- `REP_GENERAL_FAILURE`. -/
def REP_GENERAL_FAILURE : UInt8 := 0x01
/-- `REP_NETWORK_UNREACHABLE`. -/
def REP_NETWORK_UNREACHABLE : UInt8 := 0x03
/-- `REP_HOST_UNREACHABLE`. -/
def REP_HOST_UNREACHABLE : UInt8 := 0x04
/-- `REP_CONNECTION_REFUSED`. -/
def REP_CONNECTION_REFUSED : UInt8 := 0x05
/-- `REP_TTL_EXPIRED`. -/
def REP_TTL_EXPIRED : UInt8 := 0x06
/-- `REP_COMMAND_NOT_SUPPORTED`. -/
def REP_COMMAND_NOT_SUPPORTED : UInt8 := 0x07
/-- `REP_ADDRESS_TYPE_NOT_SUPPORTED`. -/
def REP_ADDRESS_TYPE_NOT_SUPPORTED : UInt8 := 0x08

/-- `struct ConnectRequest`. The arrays `ipv4[4]` and `ipv6[16]` are lists of their bytes. -/
structure ConnectRequest where
  atyp : UInt8
  host : String
  ipv4 : List UInt8
  ipv6 : List UInt8
  port : UInt16
  deriving DecidableEq, Repr, Inhabited

/-- `ParseMethodRequest`: bytes consumed (`0` incomplete, `-1` bad version) and
    `supports_no_auth`, set when `AUTH_NONE` is among the offered methods. -/
def parseMethodRequest : ByteBuffer → Int × Bool
  | ver :: nmethods :: methods =>
    if ver ≠ VERSION then (-1, false)
    else if methods.length < nmethods.toNat then (0, false)
    else (2 + nmethods.toNat, (methods.take nmethods.toNat).contains AUTH_NONE)
  | _ => (0, false)

/-- `BuildMethodResponse`. -/
def buildMethodResponse (method : UInt8) : ByteBuffer := [VERSION, method]

/-- Two lowercase hex digits, as `%02x` prints a byte. -/
def hex2 (b : UInt8) : String :=
  String.mk [Nat.digitChar (b.toNat / 16), Nat.digitChar (b.toNat % 16)]

/-- The `%u.%u.%u.%u` form of an IPv4 address. -/
def ipv4String (a : List UInt8) : String :=
  ".".intercalate (a.map fun b => toString b.toNat)

/-- The `%02x%02x:…` form of an IPv6 address: eight groups of two bytes. -/
def ipv6String : List UInt8 → String
  | b0 :: b1 :: rest@(_ :: _) => hex2 b0 ++ hex2 b1 ++ ":" ++ ipv6String rest
  | bs => String.join (bs.map hex2)

/-- `out.host.assign(data + addr_start + 1, domain_len)`: the domain bytes as characters. -/
def domainString (d : List UInt8) : String :=
  String.mk (d.map fun b => Char.ofNat b.toNat)

/-- The tail of `ParseConnectRequest` once `addr_len` is known: check the length, then read
    the address of type `out.atyp` and the big-endian port. The command byte is not checked:
    a non-CONNECT request returns `total` like a CONNECT one. -/
def finishConnect (data : ByteBuffer) (addr_len : Nat) (out : ConnectRequest) :
    Int × ConnectRequest :=
  let total := 4 + addr_len + 2
  if data.length < total then (0, out)
  else
    let addr := (data.drop 4).take addr_len
    let out :=
      if out.atyp = ATYP_IPV4 then { out with ipv4 := addr, host := ipv4String addr }
      else if out.atyp = ATYP_DOMAIN then { out with host := domainString (addr.drop 1) }
      else if out.atyp = ATYP_IPV6 then { out with ipv6 := addr, host := ipv6String addr }
      else out
    let port := (data.drop (4 + addr_len)).take 2
    (total, { out with port := UInt16.ofNat (256 * (port.getD 0 0).toNat + (port.getD 1 0).toNat) })

/-- `ParseConnectRequest`: bytes consumed (`0` incomplete, `-1` bad version or unknown address
    type) and `out` as the function leaves it. -/
def parseConnectRequest (data : ByteBuffer) (out : ConnectRequest) : Int × ConnectRequest :=
  match data with
  | ver :: _cmd :: _rsv :: atyp :: addr =>
    if ver ≠ VERSION then (-1, out)
    else
      let out := { out with atyp := atyp }
      if atyp = ATYP_IPV4 then finishConnect data 4 out
      else if atyp = ATYP_DOMAIN then
        match addr with
        | [] => (0, out)
        | n :: _ => finishConnect data (1 + n.toNat) out
      else if atyp = ATYP_IPV6 then finishConnect data 16 out
      else (-1, out)
  | _ => (0, out)

/-- `BuildConnectReply`. Callers pass the defaults `ATYP_IPV4`, no address, port `0`. -/
def buildConnectReply (reply_code atyp : UInt8) (bind_addr : Option ByteBuffer)
    (bind_port : UInt16) : ByteBuffer :=
  let addr :=
    if atyp = ATYP_IPV4 then ATYP_IPV4 :: (bind_addr.map (·.take 4)).getD (List.replicate 4 0)
    else if atyp = ATYP_IPV6 then
      ATYP_IPV6 :: (bind_addr.map (·.take 16)).getD (List.replicate 16 0)
    else ATYP_IPV4 :: List.replicate 4 0
  [VERSION, reply_code, 0x00] ++ addr ++
    [UInt8.ofNat (bind_port.toNat / 256), UInt8.ofNat (bind_port.toNat % 256)]

/-- `BuildConnectReply(reply_code)` with the header's default arguments. -/
def connectReply (reply_code : UInt8) : ByteBuffer :=
  buildConnectReply reply_code ATYP_IPV4 none 0

/-- `ErrorCodeToSocks5Reply`. -/
def errorCodeToSocks5Reply : ErrorCode → UInt8
  | .success => REP_SUCCESS
  | .networkUnreachable => REP_NETWORK_UNREACHABLE
  | .hostUnreachable => REP_HOST_UNREACHABLE
  | .connectionRefused => REP_CONNECTION_REFUSED
  | .connectionTimeout => REP_TTL_EXPIRED
  | _ => REP_GENERAL_FAILURE

/-- A default reply: `05 rep 00 01 00 00 00 00 00 00`. -/
theorem connectReply_eq (rep : UInt8) :
    connectReply rep = [0x05, rep, 0x00, 0x01, 0, 0, 0, 0, 0, 0] := rfl

/-- Only a successful connect maps to `REP_SUCCESS`. -/
theorem errorCodeToSocks5Reply_eq_zero {ec : ErrorCode} :
    errorCodeToSocks5Reply ec = REP_SUCCESS ↔ ec = .success := by
  cases ec <;> decide

/-- The three address types are distinct bytes. -/
theorem atyp_ne : ATYP_DOMAIN ≠ ATYP_IPV4 ∧ ATYP_IPV6 ≠ ATYP_IPV4 ∧ ATYP_IPV6 ≠ ATYP_DOMAIN := by
  decide

/-! ## Parsing is stable under appended bytes

    Once a parser has decided (returned a non-zero count), bytes that arrive later do not change
    its answer: it reads no byte past the message it decided on. -/

theorem parseMethodRequest_append {d : ByteBuffer} (h : (parseMethodRequest d).1 ≠ 0)
    (e : ByteBuffer) : parseMethodRequest (d ++ e) = parseMethodRequest d := by
  match d, h with
  | ver :: n :: ms, h =>
    simp only [List.cons_append, parseMethodRequest] at h ⊢
    by_cases hv : ver = VERSION
    · have hn : n.toNat ≤ ms.length := by
        by_contra hc; simp [hv, Nat.lt_of_not_le hc] at h
      simp [hv, List.take_append_of_le_length hn, Nat.not_lt.mpr hn,
        show ¬ ms.length + e.length < n.toNat by omega]
    · simp [hv]

/-- A decided method request lies within the bytes given. -/
theorem parseMethodRequest_le_length {d : ByteBuffer} (h : 0 < (parseMethodRequest d).1) :
    (parseMethodRequest d).1.toNat ≤ d.length := by
  match d, h with
  | ver :: n :: ms, h =>
    simp only [parseMethodRequest] at h ⊢
    split_ifs at h ⊢ with hv hl
    · simp at h
    · simp at h
    · simp only [List.length_cons]; omega

/-- Slicing inside the first part of an appended list. -/
theorem take_drop_append {d : ByteBuffer} {n k : Nat} (h : n + k ≤ d.length) (e : ByteBuffer) :
    ((d ++ e).drop n).take k = (d.drop n).take k := by
  rw [List.drop_append_of_le_length (by omega), List.take_append_of_le_length (by simp; omega)]

theorem finishConnect_append {d : ByteBuffer} {l : Nat} {out : ConnectRequest}
    (h : (finishConnect d l out).1 ≠ 0) (e : ByteBuffer) :
    finishConnect (d ++ e) l out = finishConnect d l out := by
  unfold finishConnect at h ⊢
  by_cases hlen : d.length < 4 + l + 2
  · simp [hlen] at h
  have hp : ((d ++ e).drop (4 + l)).take 2 = (d.drop (4 + l)).take 2 :=
    take_drop_append (by omega) e
  simp only [hlen, List.length_append, take_drop_append (show 4 + l ≤ d.length by omega), hp,
    if_false, show ¬ d.length + e.length < 4 + l + 2 by omega]

theorem parseConnectRequest_append {d : ByteBuffer} {out : ConnectRequest}
    (h : (parseConnectRequest d out).1 ≠ 0) (e : ByteBuffer) :
    parseConnectRequest (d ++ e) out = parseConnectRequest d out := by
  match d, h with
  | ver :: cmd :: rsv :: atyp :: addr, h =>
    have hfa := fun l (o : ConnectRequest)
        (hl : (finishConnect (ver :: cmd :: rsv :: atyp :: addr) l o).1 ≠ 0) =>
      finishConnect_append hl e
    simp only [List.cons_append] at hfa ⊢
    unfold parseConnectRequest at h ⊢
    by_cases hv : ver = VERSION; swap
    · simp only [ne_eq, hv, not_false_eq_true, if_true]
    subst hv
    simp only [ne_eq, not_true_eq_false, if_false] at h ⊢
    by_cases h4 : atyp = ATYP_IPV4
    · subst h4; simp only [if_true] at h ⊢; exact hfa _ _ h
    by_cases h3 : atyp = ATYP_DOMAIN
    · subst h3; simp only [atyp_ne, if_true, if_false] at h ⊢
      match addr, h with
      | n :: _, h => exact hfa _ _ h
    by_cases h6 : atyp = ATYP_IPV6
    · subst h6; simp only [atyp_ne, if_true, if_false] at h ⊢; exact hfa _ _ h
    · simp only [h4, h3, h6, if_false]

/-- The count `finishConnect` returns does not depend on the `out` it is given. -/
theorem finishConnect_fst (d : ByteBuffer) (l : Nat) (o₁ o₂ : ConnectRequest) :
    (finishConnect d l o₁).1 = (finishConnect d l o₂).1 := by
  unfold finishConnect; dsimp only; split <;> rfl

/-- On success, the host and port `finishConnect` reads depend only on the address type. -/
theorem finishConnect_host_port (d : ByteBuffer) (l : Nat) {o₁ o₂ : ConnectRequest}
    (h : o₁.atyp = o₂.atyp)
    (hat : o₁.atyp = ATYP_IPV4 ∨ o₁.atyp = ATYP_DOMAIN ∨ o₁.atyp = ATYP_IPV6)
    (hpos : 0 < (finishConnect d l o₁).1) :
    (finishConnect d l o₁).2.host = (finishConnect d l o₂).2.host ∧
      (finishConnect d l o₁).2.port = (finishConnect d l o₂).2.port := by
  unfold finishConnect at hpos ⊢
  by_cases hl : d.length < 4 + l + 2
  · simp only [hl, if_true] at hpos; exact absurd hpos (lt_irrefl 0)
  simp only [hl, if_false, ← h]
  rcases hat with ha | ha | ha <;> simp only [ha, atyp_ne, if_true, if_false, and_self]

theorem parseConnectRequest_fst (d : ByteBuffer) (o₁ o₂ : ConnectRequest) :
    (parseConnectRequest d o₁).1 = (parseConnectRequest d o₂).1 := by
  match d with
  | ver :: cmd :: rsv :: atyp :: addr =>
    unfold parseConnectRequest
    by_cases hv : ver = VERSION; swap
    · simp only [ne_eq, hv, not_false_eq_true, if_true]
    simp only [hv, ne_eq, not_true_eq_false, if_false]
    by_cases h4 : atyp = ATYP_IPV4
    · simp only [h4, if_true]; exact finishConnect_fst ..
    by_cases h3 : atyp = ATYP_DOMAIN
    · simp only [h3, atyp_ne, if_true, if_false]
      cases addr <;> first | rfl | exact finishConnect_fst ..
    by_cases h6 : atyp = ATYP_IPV6
    · simp only [h6, atyp_ne, if_true, if_false]; exact finishConnect_fst ..
    · simp only [h4, h3, h6, if_false]
  | [] | [_] | [_, _] | [_, _, _] => rfl

/-- A request that parses gives the same host and port, whatever `out` held before. -/
theorem parseConnectRequest_host_port (d : ByteBuffer) (o₁ o₂ : ConnectRequest)
    (hpos : 0 < (parseConnectRequest d o₁).1) :
    (parseConnectRequest d o₁).2.host = (parseConnectRequest d o₂).2.host ∧
      (parseConnectRequest d o₁).2.port = (parseConnectRequest d o₂).2.port := by
  match d with
  | ver :: cmd :: rsv :: atyp :: addr =>
    unfold parseConnectRequest at hpos ⊢
    by_cases hv : ver = VERSION; swap
    · simp only [ne_eq, hv, not_false_eq_true, if_true] at hpos; exact absurd hpos (by decide)
    simp only [hv, ne_eq, not_true_eq_false, if_false] at hpos ⊢
    by_cases h4 : atyp = ATYP_IPV4
    · simp only [h4, if_true] at hpos ⊢
      exact finishConnect_host_port _ _ rfl (Or.inl rfl) hpos
    by_cases h3 : atyp = ATYP_DOMAIN
    · simp only [h3, atyp_ne, if_true, if_false] at hpos ⊢
      match addr with
      | [] => exact absurd hpos (lt_irrefl 0)
      | n :: _ => exact finishConnect_host_port _ _ rfl (Or.inr (Or.inl rfl)) hpos
    by_cases h6 : atyp = ATYP_IPV6
    · simp only [h6, atyp_ne, if_true, if_false] at hpos ⊢
      exact finishConnect_host_port _ _ rfl (Or.inr (Or.inr rfl)) hpos
    · simp only [h4, h3, h6, if_false] at hpos; exact absurd hpos (by decide)
  | [] | [_] | [_, _] | [_, _, _] => exact absurd hpos (lt_irrefl 0)

end Socks5

end ReverseSocks
