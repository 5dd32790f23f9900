import ReverseSocks.Socks5.Handler

/-! # The SOCKS5 parsers against the message grammar

    `socks5_handler.cpp` parses a method request and a CONNECT request out of
    the bytes received so far. This module says, for every byte string, what
    each parser answers: the count of a whole message at the front, `0` for a
    proper prefix of one, `-1` for anything else, and the fields it reads.

    The C++ reads through a pointer, `data[i]`, with a length `len` beside it.
    `parseMethodRequestAt` and `parseConnectRequestAt` keep those reads, over a
    memory `data : Nat → UInt8`; a memory that agrees with the input below
    `len` gives the same answer (so no byte at or past `len` is read), and on
    the bytes of a list the pointer parsers are the list parsers of
    `ReverseSocks.Socks5.Handler`.
-/

namespace ReverseSocks

namespace Socks5

/-! ## Reading through a pointer -/

/-- `ParseMethodRequest(data, len, supports_no_auth)`, reading `data[i]` as the C++ does; the
    `uint8_t` loop over the methods is the `any` over `i < nmethods`. -/
def parseMethodRequestAt (data : Nat → UInt8) (len : Nat) : Int × Bool :=
  if len < 2 then (0, false)
  else if data 0 ≠ VERSION then (-1, false)
  else
    let nmethods := data 1
    let total := 2 + nmethods.toNat
    if len < total then (0, false)
    else (total, (List.range nmethods.toNat).any fun i => data (2 + i) == AUTH_NONE)

/-- `memcpy(dst, data + start, n)`: the `n` bytes read from `data + start`. -/
def bytesAt (data : Nat → UInt8) (start n : Nat) : ByteBuffer :=
  (List.range n).map fun i => data (start + i)

/-- The tail of `ParseConnectRequest` through the pointer `data`, once `addr_len` is known. -/
def finishConnectAt (data : Nat → UInt8) (len addr_len : Nat) (out : ConnectRequest) :
    Int × ConnectRequest :=
  let total := 4 + addr_len + 2
  if len < total then (0, out)
  else
    let out :=
      if out.atyp = ATYP_IPV4 then
        { out with ipv4 := bytesAt data 4 4, host := ipv4String (bytesAt data 4 4) }
      else if out.atyp = ATYP_DOMAIN then
        { out with host := domainString (bytesAt data 5 (data 4).toNat) }
      else if out.atyp = ATYP_IPV6 then
        { out with ipv6 := bytesAt data 4 16, host := ipv6String (bytesAt data 4 16) }
      else out
    let port_offset := 4 + addr_len
    (total, { out with
      port := UInt16.ofNat (256 * (data port_offset).toNat + (data (port_offset + 1)).toNat) })

/-- `ParseConnectRequest(data, len, out)`, reading `data[i]` as the C++ does. -/
def parseConnectRequestAt (data : Nat → UInt8) (len : Nat) (out : ConnectRequest) :
    Int × ConnectRequest :=
  if len < 4 then (0, out)
  else if data 0 ≠ VERSION then (-1, out)
  else
    let atyp := data 3
    let out := { out with atyp := atyp }
    if atyp = ATYP_IPV4 then finishConnectAt data len 4 out
    else if atyp = ATYP_DOMAIN then
      if len < 5 then (0, out) else finishConnectAt data len (1 + (data 4).toNat) out
    else if atyp = ATYP_IPV6 then finishConnectAt data len 16 out
    else (-1, out)

theorem range_map_getD {l : ByteBuffer} {j k : Nat} (h : j + k ≤ l.length) :
    (List.range k).map (fun i => l.getD (j + i) 0) = (l.drop j).take k := by
  apply List.ext_get
  · simp; omega
  · intro n h1 h2
    have : j + n < l.length := by simp at h1; omega
    simp [List.getD_eq_getElem?_getD, List.getElem?_eq_getElem this]

theorem any_range_getD {l : ByteBuffer} {k : Nat} (h : k ≤ l.length) (a : UInt8) :
    ((List.range k).any fun i => l.getD i 0 == a) = (l.take k).contains a := by
  have e := @range_map_getD l 0 k (by omega)
  simp only [Nat.zero_add, List.drop_zero] at e
  rw [← e, Bool.eq_iff_iff]
  simp [List.contains, List.elem_iff]

theorem bytesAt_congr {data data' : Nat → UInt8} {len start n : Nat}
    (h : ∀ i < len, data i = data' i) (hn : start + n ≤ len) :
    bytesAt data start n = bytesAt data' start n :=
  List.map_congr_left fun i hi => h _ (by simp at hi; omega)

theorem bytesAt_getD {b : ByteBuffer} {start n : Nat} (h : start + n ≤ b.length) :
    bytesAt (fun i => b.getD i 0) start n = (b.drop start).take n :=
  range_map_getD h

theorem getD_take_drop (b : ByteBuffer) (k : Nat) {j : Nat} (hj : j < 2) :
    ((b.drop k).take 2).getD j 0 = b.getD (k + j) 0 := by
  simp [List.getD_eq_getElem?_getD, List.getElem?_take, hj]

/-- `ParseMethodRequest` reads no byte at an index `≥ len`. -/
theorem parseMethodRequestAt_congr {data data' : Nat → UInt8} {len : Nat}
    (h : ∀ i < len, data i = data' i) :
    parseMethodRequestAt data len = parseMethodRequestAt data' len := by
  unfold parseMethodRequestAt
  by_cases hl : len < 2
  · simp only [hl, if_true]
  rw [h 0 (by omega), h 1 (by omega)]
  simp only [hl, if_false]
  split_ifs with hv ht
  · rfl
  · rfl
  · refine congrArg _ (Bool.eq_iff_iff.mpr ?_)
    simp only [List.any_eq_true, List.mem_range]
    exact ⟨fun ⟨i, hi, e⟩ => ⟨i, hi, by rwa [← h _ (by omega)]⟩,
      fun ⟨i, hi, e⟩ => ⟨i, hi, by rwa [h _ (by omega)]⟩⟩

/-- On the bytes of a list, the pointer-reading parser is the list parser. -/
theorem parseMethodRequestAt_getD (b : ByteBuffer) :
    parseMethodRequestAt (fun i => b.getD i 0) b.length = parseMethodRequest b := by
  match b with
  | [] | [_] => rfl
  | v :: n :: ms =>
    have hg : ∀ i, (v :: n :: ms).getD (2 + i) 0 = ms.getD i 0 := fun i => by
      rw [Nat.add_comm]; rfl
    simp only [parseMethodRequestAt, parseMethodRequest, List.length_cons, List.getD_cons_zero,
      List.getD_cons_succ, hg, show ¬ ms.length + 1 + 1 < 2 by omega, if_false]
    by_cases hv : v = VERSION
    swap
    · simp only [hv, ne_eq, not_false_eq_true, if_true]
    simp only [hv, ne_eq, not_true_eq_false, if_false]
    by_cases hl : ms.length < n.toNat
    · simp only [hl, show ms.length + 1 + 1 < 2 + n.toNat by omega, if_true]
    · rw [if_neg (by omega), if_neg hl, any_range_getD (by omega)]; push_cast; rfl

/-- The reads of `finishConnectAt` stay below `len` when the address type fits `addr_len`. -/
theorem finishConnectAt_congr {data data' : Nat → UInt8} {len l : Nat} {out : ConnectRequest}
    (h : ∀ i < len, data i = data' i)
    (hl : (out.atyp = ATYP_IPV4 ∧ l = 4) ∨ (out.atyp = ATYP_DOMAIN ∧ l = 1 + (data 4).toNat) ∨
      (out.atyp = ATYP_IPV6 ∧ l = 16)) :
    finishConnectAt data len l out = finishConnectAt data' len l out := by
  unfold finishConnectAt
  by_cases hlen : len < 4 + l + 2
  · simp only [hlen, if_true]
  simp only [hlen, if_false, h (4 + l) (by omega), h (4 + l + 1) (by omega)]
  rcases hl with ⟨ha, rfl⟩ | ⟨ha, rfl⟩ | ⟨ha, rfl⟩
  · simp only [ha, if_true, bytesAt_congr h (show 4 + 4 ≤ len by omega)]
  · rw [bytesAt_congr h (show 5 + (data 4).toNat ≤ len by omega)]
    simp only [ha, atyp_ne, if_true, if_false, h 4 (by omega)]
  · simp only [ha, atyp_ne, if_true, if_false, bytesAt_congr h (show 4 + 16 ≤ len by omega)]

/-- `ParseConnectRequest` reads no byte at an index `≥ len`. -/
theorem parseConnectRequestAt_congr {data data' : Nat → UInt8} {len : Nat} (out : ConnectRequest)
    (h : ∀ i < len, data i = data' i) :
    parseConnectRequestAt data len out = parseConnectRequestAt data' len out := by
  unfold parseConnectRequestAt
  by_cases hl : len < 4
  · simp only [hl, if_true]
  simp only [hl, if_false, h 0 (by omega), h 3 (by omega)]
  by_cases hv : data' 0 = VERSION; swap
  · simp only [hv, ne_eq, not_false_eq_true, if_true]
  simp only [hv, ne_eq, not_true_eq_false, if_false]
  by_cases h4 : data' 3 = ATYP_IPV4
  · simp only [h4, if_true]; exact finishConnectAt_congr h (.inl ⟨rfl, rfl⟩)
  by_cases h3 : data' 3 = ATYP_DOMAIN
  · simp only [h3, atyp_ne, if_true, if_false]
    by_cases h5 : len < 5
    · simp only [h5, if_true]
    simp only [h5, if_false]
    rw [← h 4 (by omega)]
    exact finishConnectAt_congr h (.inr (.inl ⟨rfl, rfl⟩))
  by_cases h6 : data' 3 = ATYP_IPV6
  · simp only [h6, atyp_ne, if_true, if_false]
    exact finishConnectAt_congr h (.inr (.inr ⟨rfl, rfl⟩))
  · simp only [h4, h3, h6, if_false]

theorem finishConnectAt_getD {b : ByteBuffer} {l : Nat} {out : ConnectRequest}
    (hl : (out.atyp = ATYP_IPV4 ∧ l = 4) ∨ (out.atyp = ATYP_DOMAIN ∧ l = 1 + (b.getD 4 0).toNat) ∨
      (out.atyp = ATYP_IPV6 ∧ l = 16)) :
    finishConnectAt (fun i => b.getD i 0) b.length l out = finishConnect b l out := by
  unfold finishConnectAt finishConnect
  by_cases hlen : b.length < 4 + l + 2
  · simp only [hlen, if_true]
  simp only [hlen, if_false, getD_take_drop b _ (show 0 < 2 by omega),
    getD_take_drop b _ (show 1 < 2 by omega), Nat.add_zero]
  rcases hl with ⟨ha, rfl⟩ | ⟨ha, rfl⟩ | ⟨ha, rfl⟩
  · simp only [ha, if_true, bytesAt_getD (show 4 + 4 ≤ b.length by omega)]
  · simp only [ha, atyp_ne, if_true, if_false,
      bytesAt_getD (show 5 + (b.getD 4 0).toNat ≤ b.length by omega),
      List.drop_take, List.drop_drop, Nat.add_sub_cancel_left]
  · simp only [ha, atyp_ne, if_true, if_false, bytesAt_getD (show 4 + 16 ≤ b.length by omega)]

/-- On the bytes of a list, the pointer-reading parser is the list parser. -/
theorem parseConnectRequestAt_getD (b : ByteBuffer) (out : ConnectRequest) :
    parseConnectRequestAt (fun i => b.getD i 0) b.length out = parseConnectRequest b out := by
  match b with
  | [] | [_] | [_, _] | [_, _, _] => rfl
  | v :: c :: r :: a :: rest =>
    unfold parseConnectRequestAt parseConnectRequest
    simp only [List.length_cons, show ¬ rest.length + 1 + 1 + 1 + 1 < 4 by omega, if_false,
      List.getD_cons_zero, List.getD_cons_succ]
    by_cases hv : v = VERSION; swap
    · simp only [hv, ne_eq, not_false_eq_true, if_true]
    simp only [hv, ne_eq, not_true_eq_false, if_false]
    by_cases h4 : a = ATYP_IPV4
    · subst h4; simp only [if_true]; exact finishConnectAt_getD (.inl ⟨rfl, rfl⟩)
    by_cases h3 : a = ATYP_DOMAIN
    · subst h3; simp only [atyp_ne, if_true, if_false]
      cases rest with
      | nil => rfl
      | cons n more =>
        simp only [List.length_cons, show ¬ more.length + 1 + 1 + 1 + 1 + 1 < 5 by omega, if_false]
        exact finishConnectAt_getD (.inr (.inl ⟨rfl, rfl⟩))
    by_cases h6 : a = ATYP_IPV6
    · subst h6; simp only [atyp_ne, if_true, if_false]; exact finishConnectAt_getD (.inr (.inr ⟨rfl, rfl⟩))
    · simp only [h4, h3, h6, if_false]

/-! ## The method request -/

/-- The three outcomes of `ParseMethodRequest`, by the first two bytes and the length. -/
theorem parseMethodRequest_result (b : ByteBuffer) :
    ((parseMethodRequest b).1 = 0 ↔
      b.length < 2 ∨ (b.getD 0 0 = VERSION ∧ b.length < 2 + (b.getD 1 0).toNat)) ∧
    ((parseMethodRequest b).1 = -1 ↔ 2 ≤ b.length ∧ b.getD 0 0 ≠ VERSION) ∧
    (2 ≤ b.length → b.getD 0 0 = VERSION → 2 + (b.getD 1 0).toNat ≤ b.length →
      (parseMethodRequest b).1 = 2 + (b.getD 1 0).toNat ∧
      ((parseMethodRequest b).2 = true ↔ AUTH_NONE ∈ (b.drop 2).take (b.getD 1 0).toNat)) := by
  match b with
  | [] | [_] => simp [parseMethodRequest]
  | v :: n :: ms =>
    simp only [List.getD_cons_zero, List.getD_cons_succ, List.length_cons, List.drop_succ_cons,
      List.drop_zero]
    by_cases hv : v = VERSION
    swap
    · -- a wrong version byte
      have e : parseMethodRequest (v :: n :: ms) = (-1, false) := by simp [parseMethodRequest, hv]
      rw [e]
      exact ⟨iff_of_false (by decide) (by rintro (h | ⟨h, -⟩) <;> [omega; exact hv h]),
        iff_of_true rfl ⟨by omega, hv⟩, fun _ h => absurd h hv⟩
    by_cases hl : ms.length < n.toNat
    · -- the method list is not all there yet
      have e : parseMethodRequest (v :: n :: ms) = (0, false) := by simp [parseMethodRequest, hv, hl]
      rw [e]
      exact ⟨iff_of_true rfl (.inr ⟨hv, by omega⟩), iff_of_false (by decide) (fun h => h.2 hv),
        fun _ _ h => absurd h (by omega)⟩
    · -- a complete request
      have e : parseMethodRequest (v :: n :: ms) =
          (((2 + n.toNat : Nat) : Int), (ms.take n.toNat).contains AUTH_NONE) := by
        simp [parseMethodRequest, hv, hl]
      rw [e]
      exact ⟨iff_of_false (by omega) (by omega), iff_of_false (by omega) (fun h => h.2 hv),
        fun _ _ _ => ⟨rfl, by simp [List.contains, List.elem_iff]⟩⟩

theorem parseMethodRequest_grammar (b : ByteBuffer) :
    ((parseMethodRequest b).1 = 0 ↔
      b.length < 2 ∨ (b.getD 0 0 = VERSION ∧ b.length < 2 + (b.getD 1 0).toNat)) ∧
    ((parseMethodRequest b).1 = -1 ↔ 2 ≤ b.length ∧ b.getD 0 0 ≠ VERSION) ∧
    (2 ≤ b.length → b.getD 0 0 = VERSION → 2 + (b.getD 1 0).toNat ≤ b.length →
      (parseMethodRequest b).1 = 2 + (b.getD 1 0).toNat ∧
      ((parseMethodRequest b).2 = true ↔ AUTH_NONE ∈ (b.drop 2).take (b.getD 1 0).toNat)) ∧
    (∀ data : Nat → UInt8, (∀ i < b.length, data i = b.getD i 0) →
      parseMethodRequestAt data b.length = parseMethodRequest b) ∧
    ((parseMethodRequest b).1 ≠ 0 → ∀ e, parseMethodRequest (b ++ e) = parseMethodRequest b) :=
  have h := parseMethodRequest_result b
  ⟨h.1, h.2.1, h.2.2, fun _ hd => (parseMethodRequestAt_congr hd).trans (parseMethodRequestAt_getD b),
    fun h e => parseMethodRequest_append h e⟩

/-- An undecided method request is shorter than the longest one, `2 + 255` bytes. -/
theorem parseMethodRequest_zero_length {b : ByteBuffer} (h : (parseMethodRequest b).1 = 0) :
    b.length < 257 := by
  have := (b.getD 1 0).toNat_lt_size
  rcases (parseMethodRequest_result b).1.mp h with h | ⟨-, h⟩ <;> simp only [UInt8.size] at * <;> omega

/-! ## The CONNECT request -/

/-- A whole CONNECT request as RFC 1928 lays it out, `05 cmd rsv atyp addr port`, with the
    address type, host and port it carries: the host is the dotted-decimal address, the
    domain's bytes, or eight groups of four lowercase hex digits. -/
inductive ConnectMessage : ByteBuffer → UInt8 → String → UInt16 → Prop
  | ipv4 (cmd rsv p0 p1 : UInt8) (addr : ByteBuffer) (ha : addr.length = 4) :
      ConnectMessage ([VERSION, cmd, rsv, ATYP_IPV4] ++ addr ++ [p0, p1]) ATYP_IPV4
        (ipv4String addr) (UInt16.ofNat (256 * p0.toNat + p1.toNat))
  | domain (cmd rsv n p0 p1 : UInt8) (name : ByteBuffer) (hn : name.length = n.toNat) :
      ConnectMessage ([VERSION, cmd, rsv, ATYP_DOMAIN] ++ (n :: name) ++ [p0, p1]) ATYP_DOMAIN
        (domainString name) (UInt16.ofNat (256 * p0.toNat + p1.toNat))
  | ipv6 (cmd rsv p0 p1 : UInt8) (addr : ByteBuffer) (ha : addr.length = 16) :
      ConnectMessage ([VERSION, cmd, rsv, ATYP_IPV6] ++ addr ++ [p0, p1]) ATYP_IPV6
        (":".intercalate ((List.range 8).map fun i =>
          hex2 (addr.getD (2 * i) 0) ++ hex2 (addr.getD (2 * i + 1) 0)))
        (UInt16.ofNat (256 * p0.toNat + p1.toNat))

theorem ipv6String_groups {a : ByteBuffer} (h : a.length = 16) :
    ipv6String a = ":".intercalate ((List.range 8).map fun i =>
      hex2 (a.getD (2 * i) 0) ++ hex2 (a.getD (2 * i + 1) 0)) := by
  match a, h with
  | [a0, a1, a2, a3, a4, a5, a6, a7, a8, a9, a10, a11, a12, a13, a14, a15], _ =>
    simp [ipv6String, String.intercalate, List.range_succ, String.intercalate.go, String.join,
      String.append_assoc]

/-- What `finishConnect` reads from a request laid out as header, address and port. -/
theorem layout_slices {hdr : ByteBuffer} (hh : hdr.length = 4) (addr : ByteBuffer) (p0 p1 : UInt8) :
    ¬ (hdr ++ addr ++ [p0, p1]).length < 4 + addr.length + 2 ∧
      ((hdr ++ addr ++ [p0, p1]).drop 4).take addr.length = addr ∧
      ((hdr ++ addr ++ [p0, p1]).drop (4 + addr.length)).take 2 = [p0, p1] := by
  have e : 4 + addr.length = (hdr ++ addr).length := by simp [hh]
  refine ⟨by simp [hh]; omega, by simp [List.drop_append_eq_append_drop, hh], ?_⟩
  rw [e, List.drop_left]; rfl

theorem ConnectMessage.parse {p : ByteBuffer} {atyp : UInt8} {host : String} {port : UInt16}
    (h : ConnectMessage p atyp host port) (out : ConnectRequest) :
    (parseConnectRequest p out).1 = p.length ∧ (parseConnectRequest p out).2.atyp = atyp ∧
      (parseConnectRequest p out).2.host = host ∧ (parseConnectRequest p out).2.port = port := by
  cases h with
  | ipv4 cmd rsv p0 p1 addr ha =>
    have s := @layout_slices [VERSION, cmd, rsv, ATYP_IPV4] rfl addr p0 p1
    rw [ha] at s
    simp only [List.cons_append, List.nil_append] at s ⊢
    simp only [parseConnectRequest, finishConnect, s, ne_eq, not_true_eq_false, if_true, if_false]
    simp [ha]
  | domain cmd rsv n p0 p1 name hn =>
    have s := @layout_slices [VERSION, cmd, rsv, ATYP_DOMAIN] rfl (n :: name) p0 p1
    have hl : 1 + n.toNat = (n :: name).length := by simp [hn]; omega
    simp only [List.cons_append, List.nil_append] at s ⊢
    simp only [parseConnectRequest, finishConnect, hl, s, ne_eq, not_true_eq_false, atyp_ne,
      if_true, if_false]
    simp; omega
  | ipv6 cmd rsv p0 p1 addr ha =>
    have s := @layout_slices [VERSION, cmd, rsv, ATYP_IPV6] rfl addr p0 p1
    rw [ha] at s
    simp only [List.cons_append, List.nil_append] at s ⊢
    simp only [parseConnectRequest, finishConnect, s, ne_eq, not_true_eq_false, atyp_ne,
      if_true, if_false]
    simp [ha, ipv6String_groups]

/-- A message starts with the version byte and one of the three address types. -/
theorem ConnectMessage.head {p : ByteBuffer} {atyp : UInt8} {host : String} {port : UInt16}
    (h : ConnectMessage p atyp host port) :
    ∃ c r rest, p = VERSION :: c :: r :: atyp :: rest ∧
      (atyp = ATYP_IPV4 ∨ atyp = ATYP_DOMAIN ∨ atyp = ATYP_IPV6) := by
  cases h <;> exact ⟨_, _, _, rfl, by simp⟩

/-- A message is at most `4 + 1 + 255 + 2` bytes long. -/
theorem ConnectMessage.length_le {p : ByteBuffer} {atyp : UInt8} {host : String} {port : UInt16}
    (h : ConnectMessage p atyp host port) : p.length ≤ 262 := by
  cases h with
  | domain _ _ n _ _ _ hn => have := n.toNat_lt_size; simp [hn, UInt8.size] at *; omega
  | _ => simp [*]

/-- Header, the first `l` bytes after it and the two after those: a prefix of the input. -/
theorem prefix_layout (v c r a : UInt8) {rest : ByteBuffer} {l : Nat} (h : l + 2 ≤ rest.length) :
    [v, c, r, a] ++ rest.take l ++ [rest.getD l 0, rest.getD (l + 1) 0] <+: v :: c :: r :: a :: rest := by
  have e : rest.drop l = rest.getD l 0 :: rest.getD (l + 1) 0 :: rest.drop (l + 2) := by
    rw [List.drop_eq_getElem_cons (by omega), List.drop_eq_getElem_cons (by omega)]
    simp [List.getD_eq_getElem?_getD, List.getElem?_eq_getElem (show l < rest.length by omega),
      List.getElem?_eq_getElem (show l + 1 < rest.length by omega)]
  refine ⟨rest.drop (l + 2), ?_⟩
  conv_rhs => rw [← List.take_append_drop l rest, e]
  simp

theorem layout_length (v c r a : UInt8) {rest : ByteBuffer} {l : Nat} (h : l + 2 ≤ rest.length) :
    ([v, c, r, a] ++ rest.take l ++ [rest.getD l 0, rest.getD (l + 1) 0]).length = 4 + l + 2 := by
  simp only [List.length_append, List.length_cons, List.length_take, List.length_nil,
    min_eq_left (show l ≤ rest.length by omega)]

/-- The same layout is a message when the address type and the length fit. -/
theorem layout_message (c r a : UInt8) {rest : ByteBuffer} {l : Nat} (h : l + 2 ≤ rest.length)
    (ha : (a = ATYP_IPV4 ∧ l = 4) ∨ (a = ATYP_DOMAIN ∧ l = 1 + (rest.getD 0 0).toNat) ∨
      (a = ATYP_IPV6 ∧ l = 16)) :
    ∃ host port, ConnectMessage ([VERSION, c, r, a] ++ rest.take l ++
      [rest.getD l 0, rest.getD (l + 1) 0]) a host port := by
  rcases ha with ⟨rfl, rfl⟩ | ⟨rfl, rfl⟩ | ⟨rfl, rfl⟩
  · exact ⟨_, _, .ipv4 c r _ _ _ (by simp; omega)⟩
  · match rest, h with
    | n :: more, h =>
      rw [Nat.add_comm, List.take_succ_cons]
      exact ⟨_, _, .domain c r n _ _ _ (by simp at h ⊢; omega)⟩
  · exact ⟨_, _, .ipv6 c r _ _ _ (by simp; omega)⟩

/-- The address length a request's header announces: four bytes, a length byte and that many
    bytes, or sixteen bytes; `none` for an unknown address type. -/
def announcedAddrLen (atyp : UInt8) (rest : ByteBuffer) : Option Nat :=
  if atyp = ATYP_IPV4 then some 4
  else if atyp = ATYP_DOMAIN then some (1 + (rest.getD 0 0).toNat)
  else if atyp = ATYP_IPV6 then some 16
  else none

theorem finishConnect_fst_eq (d : ByteBuffer) (l : Nat) (out : ConnectRequest) :
    (finishConnect d l out).1 = if d.length < 4 + l + 2 then 0 else ((4 + l + 2 : Nat) : Int) := by
  unfold finishConnect
  by_cases h : d.length < 4 + l + 2 <;> simp only [h, if_true, if_false]

/-- The count `ParseConnectRequest` returns, once four bytes are there. -/
theorem parseConnectRequest_fst_eq (v c r a : UInt8) (rest : ByteBuffer) (out : ConnectRequest) :
    (parseConnectRequest (v :: c :: r :: a :: rest) out).1 =
      if v ≠ VERSION then -1
      else match announcedAddrLen a rest with
        | none => -1
        | some l => if rest.length < l + 2 then 0 else ((4 + l + 2 : Nat) : Int) := by
  unfold parseConnectRequest announcedAddrLen
  by_cases hv : v = VERSION; swap
  · simp only [ne_eq, hv, not_false_eq_true, if_true]
  subst hv
  have hf : ∀ l o, (finishConnect (VERSION :: c :: r :: a :: rest) l o).1 =
      if rest.length < l + 2 then 0 else ((4 + l + 2 : Nat) : Int) := fun l o => by
    rw [finishConnect_fst_eq]; simp only [List.length_cons]
    congr 1; exact propext (by omega)
  simp only [ne_eq, not_true_eq_false, if_false]
  by_cases h4 : a = ATYP_IPV4
  · subst h4; simp only [if_true, hf]
  by_cases h3 : a = ATYP_DOMAIN
  · subst h3; simp only [atyp_ne, if_true, if_false]
    cases rest with
    | nil => rfl
    | cons n _ => rw [hf]; rfl
  by_cases h6 : a = ATYP_IPV6
  · subst h6; simp only [atyp_ne, if_true, if_false, hf]
  · simp only [h4, h3, h6, if_false]

theorem announcedAddrLen_eq_some {a : UInt8} {rest : ByteBuffer} {l : Nat} :
    announcedAddrLen a rest = some l ↔ (a = ATYP_IPV4 ∧ l = 4) ∨
      (a = ATYP_DOMAIN ∧ l = 1 + (rest.getD 0 0).toNat) ∨ (a = ATYP_IPV6 ∧ l = 16) := by
  unfold announcedAddrLen
  by_cases h4 : a = ATYP_IPV4
  · subst h4; simp [eq_comm, ATYP_IPV4, ATYP_DOMAIN, ATYP_IPV6]
  by_cases h3 : a = ATYP_DOMAIN
  · subst h3; simp [eq_comm, ATYP_IPV4, ATYP_DOMAIN, ATYP_IPV6]
  by_cases h6 : a = ATYP_IPV6
  · subst h6; simp [eq_comm, ATYP_IPV4, ATYP_DOMAIN, ATYP_IPV6]
  · simp [h4, h3, h6]

theorem announcedAddrLen_le {a : UInt8} {rest : ByteBuffer} {l : Nat}
    (h : announcedAddrLen a rest = some l) : l ≤ 256 := by
  have : (rest.getD 0 0).toNat < 256 := UInt8.toNat_lt_size _
  rcases announcedAddrLen_eq_some.mp h with ⟨-, rfl⟩ | ⟨-, rfl⟩ | ⟨-, rfl⟩ <;> omega

/-- Padding the input with zero bytes does not change the announced length. -/
theorem announcedAddrLen_pad (a : UInt8) (rest : ByteBuffer) (k : Nat) :
    announcedAddrLen a (rest ++ List.replicate (k + 1) 0) = announcedAddrLen a rest := by
  cases rest <;> rfl

theorem parseConnectRequest_short {b : ByteBuffer} (h : b.length < 4) (out : ConnectRequest) :
    (parseConnectRequest b out).1 = 0 := by
  match b, h with
  | [], _ | [_], _ | [_, _], _ | [_, _, _], _ => rfl

/-- A message that is a prefix of the input decides the parse: the parser stops at its end. -/
theorem parseConnectRequest_of_prefix_message {p b : ByteBuffer} {atyp : UInt8} {host : String}
    {port : UInt16} (hp : p <+: b) (hm : ConnectMessage p atyp host port) (out : ConnectRequest) :
    parseConnectRequest b out = parseConnectRequest p out := by
  obtain ⟨e, rfl⟩ := hp
  obtain ⟨c, r, rest, rfl, -⟩ := hm.head
  exact parseConnectRequest_append (by rw [(hm.parse out).1]; simp; omega) e

/-- Every decided, positive parse found a message of that length at the front of the input. -/
theorem message_prefix_of_pos {b : ByteBuffer} {out : ConnectRequest}
    (h : 0 < (parseConnectRequest b out).1) :
    ∃ p atyp host port, p <+: b ∧ (p.length : Int) = (parseConnectRequest b out).1 ∧
      ConnectMessage p atyp host port := by
  match b, h with
  | v :: c :: r :: a :: rest, h =>
    rw [parseConnectRequest_fst_eq] at h ⊢
    by_cases hv : v = VERSION; swap
    · simp [hv] at h
    subst hv
    cases hl : announcedAddrLen a rest with
    | none => simp [hl] at h
    | some l =>
      by_cases hr : rest.length < l + 2
      · simp [hl, hr] at h
      obtain ⟨host, port, hm⟩ := layout_message c r a (by omega) (announcedAddrLen_eq_some.mp hl)
      refine ⟨_, a, host, port, prefix_layout _ c r a (by omega), ?_, hm⟩
      simp only [hl, hr, ne_eq, not_true_eq_false, if_false, List.length_append,
        List.length_cons, List.length_take, List.length_nil,
        min_eq_left (show l ≤ rest.length by omega)]

theorem parseConnectRequest_fst_bad_version {v : UInt8} (hv : v ≠ VERSION) (c r a : UInt8)
    (rest : ByteBuffer) (out : ConnectRequest) :
    (parseConnectRequest (v :: c :: r :: a :: rest) out).1 = -1 := by
  rw [parseConnectRequest_fst_eq, if_pos hv]

theorem parseConnectRequest_fst_bad_atyp (c r : UInt8) {a : UInt8} {rest : ByteBuffer}
    (hl : announcedAddrLen a rest = none) (out : ConnectRequest) :
    (parseConnectRequest (VERSION :: c :: r :: a :: rest) out).1 = -1 := by
  rw [parseConnectRequest_fst_eq, if_neg (not_not.mpr rfl), hl]

theorem parseConnectRequest_fst_of_some (c r : UInt8) {a : UInt8} {rest : ByteBuffer} {l : Nat}
    (hl : announcedAddrLen a rest = some l) (out : ConnectRequest) :
    (parseConnectRequest (VERSION :: c :: r :: a :: rest) out).1 =
      if rest.length < l + 2 then 0 else ((4 + l + 2 : Nat) : Int) := by
  rw [parseConnectRequest_fst_eq, if_neg (not_not.mpr rfl), hl]

theorem neg_one_le_parseConnectRequest (b : ByteBuffer) (out : ConnectRequest) :
    -1 ≤ (parseConnectRequest b out).1 := by
  match b with
  | v :: c :: r :: a :: rest =>
    by_cases hv : v = VERSION; swap
    · rw [parseConnectRequest_fst_bad_version hv]
    subst hv
    cases hl : announcedAddrLen a rest with
    | none => rw [parseConnectRequest_fst_bad_atyp c r hl]
    | some l => rw [parseConnectRequest_fst_of_some c r hl]; split_ifs <;> omega
  | [] | [_] | [_, _] | [_, _, _] => exact (by decide : (-1 : Int) ≤ 0)

/-- `-1` comes from a wrong version byte or an unknown address type. -/
theorem parseConnectRequest_eq_neg_one {b : ByteBuffer} {out : ConnectRequest}
    (h : (parseConnectRequest b out).1 = -1) :
    ∃ v c r a rest, b = v :: c :: r :: a :: rest ∧
      (v ≠ VERSION ∨ announcedAddrLen a rest = none) := by
  match b, h with
  | v :: c :: r :: a :: rest, h =>
    refine ⟨v, c, r, a, rest, rfl, ?_⟩
    by_cases hv : v = VERSION; swap
    · exact .inl hv
    subst hv
    cases hl : announcedAddrLen a rest with
    | none => exact .inr rfl
    | some l => rw [parseConnectRequest_fst_of_some c r hl] at h; split_ifs at h

theorem announcedAddrLen_isSome {a : UInt8} (rest : ByteBuffer)
    (ha : a = ATYP_IPV4 ∨ a = ATYP_DOMAIN ∨ a = ATYP_IPV6) : announcedAddrLen a rest ≠ none := by
  unfold announcedAddrLen; rcases ha with rfl | rfl | rfl <;> simp [atyp_ne]

/-- `0` exactly on too few bytes for the header, or on a proper prefix of a message. -/
theorem parseConnectRequest_eq_zero_iff (b : ByteBuffer) (out : ConnectRequest) :
    (parseConnectRequest b out).1 = 0 ↔ b.length < 4 ∨
      ∃ p atyp host port, b <+: p ∧ b ≠ p ∧ ConnectMessage p atyp host port := by
  constructor
  · intro h
    match b, h with
    | [], _ | [_], _ | [_, _], _ | [_, _, _], _ => exact .inl (by simp)
    | v :: c :: r :: a :: rest, h =>
      -- pad the input with zero bytes up to a whole message, and cut that message out
      refine .inr ?_
      by_cases hv : v = VERSION; swap
      · rw [parseConnectRequest_fst_bad_version hv] at h; exact absurd h (by decide)
      subst hv
      cases hl : announcedAddrLen a rest with
      | none => rw [parseConnectRequest_fst_bad_atyp c r hl] at h; exact absurd h (by decide)
      | some l =>
        have hr : rest.length < l + 2 := by
          rw [parseConnectRequest_fst_of_some c r hl] at h; split_ifs at h with hr
          · exact hr
          · omega
        have hl' := (announcedAddrLen_pad a rest 257).trans hl
        have h256 := announcedAddrLen_le hl
        have hpad : l + 2 ≤ (rest ++ List.replicate (257 + 1) 0).length := by
          simp only [List.length_append, List.length_replicate]; omega
        have hlen := layout_length VERSION c r a hpad
        obtain ⟨host, port, hm⟩ := layout_message c r a hpad (announcedAddrLen_eq_some.mp hl')
        have hb : VERSION :: c :: r :: a :: rest <+:
            VERSION :: c :: r :: a :: (rest ++ List.replicate (257 + 1) 0) :=
          List.prefix_append _ _
        refine ⟨_, a, host, port, List.prefix_of_prefix_length_le hb
          (prefix_layout VERSION c r a hpad) (by rw [hlen]; simp only [List.length_cons]; omega),
          fun e => ?_, hm⟩
        have := congrArg List.length e
        rw [hlen] at this; simp only [List.length_cons] at this; omega
  · rintro (h | ⟨p, atyp, host, port, hp, hne, hm⟩)
    · exact parseConnectRequest_short h out
    have hlt : b.length < p.length := lt_of_le_of_ne hp.length_le (fun e => hne (hp.eq_of_length e))
    rcases lt_trichotomy (parseConnectRequest b out).1 0 with hneg | hz | hpos
    · -- a bad header contradicts the message's header
      obtain ⟨c, r, rest, rfl, hat⟩ := hm.head
      obtain ⟨v, c', r', a', rest', rfl, hbad⟩ :=
        parseConnectRequest_eq_neg_one
          (le_antisymm (by omega) (neg_one_le_parseConnectRequest b out))
      simp only [List.cons_prefix_cons] at hp
      obtain ⟨rfl, -, -, rfl, -⟩ := hp
      exact absurd hbad (by simp [announcedAddrLen_isSome rest' hat])
    · exact hz
    · -- a shorter message would be a prefix of this one
      obtain ⟨q, _, _, _, hq, -, hqm⟩ := message_prefix_of_pos hpos
      have e := congrArg Prod.fst (parseConnectRequest_of_prefix_message (hq.trans hp) hqm out)
      rw [(hm.parse out).1, (hqm.parse out).1] at e
      have := hq.length_le
      omega

/-- An undecided CONNECT request is shorter than the longest one, `4 + 1 + 255 + 2` bytes. -/
theorem parseConnectRequest_zero_length {b : ByteBuffer} {out : ConnectRequest}
    (h : (parseConnectRequest b out).1 = 0) : b.length < 262 := by
  rcases (parseConnectRequest_eq_zero_iff b out).mp h with h | ⟨p, _, _, _, hp, hne, hm⟩
  · omega
  · have := hm.length_le
    have := lt_of_le_of_ne hp.length_le (fun e => hne (hp.eq_of_length e))
    omega

/-- `-1` is what is left: no message at the front, and not a header or a prefix of one. -/
theorem parseConnectRequest_eq_neg_one_iff (b : ByteBuffer) (out : ConnectRequest) :
    (parseConnectRequest b out).1 = -1 ↔
      (¬ ∃ p atyp host port, p <+: b ∧ ConnectMessage p atyp host port) ∧
      ¬ (b.length < 4 ∨ ∃ p atyp host port, b <+: p ∧ b ≠ p ∧ ConnectMessage p atyp host port) := by
  rw [← parseConnectRequest_eq_zero_iff b out]
  constructor
  · intro h
    refine ⟨fun ⟨p, _, _, _, hp, hm⟩ => ?_, by omega⟩
    rw [parseConnectRequest_of_prefix_message hp hm, (hm.parse out).1] at h
    omega
  · rintro ⟨hn, hz⟩
    have := neg_one_le_parseConnectRequest b out
    by_contra hne
    obtain ⟨p, a, host, port, hp, -, hm⟩ := @message_prefix_of_pos b out (by omega)
    exact hn ⟨p, a, host, port, hp, hm⟩

/-- `ParseConnectRequest` against the grammar: it returns `k > 0` exactly when a message of
    length `k` starts the input, and then reads that message's address type, host and port; it
    returns `0` on fewer than four bytes or a proper prefix of a message, and `-1` otherwise. A
    non-zero answer survives appended bytes, and the parser reads no byte at or past `len`. -/
theorem parseConnectRequest_grammar (b : ByteBuffer) (out : ConnectRequest) :
    (∀ k : Nat, 0 < k → ((parseConnectRequest b out).1 = k ↔
      ∃ p atyp host port, p <+: b ∧ p.length = k ∧ ConnectMessage p atyp host port)) ∧
    (∀ p atyp host port, p <+: b → ConnectMessage p atyp host port →
      (parseConnectRequest b out).2.atyp = atyp ∧ (parseConnectRequest b out).2.host = host ∧
        (parseConnectRequest b out).2.port = port) ∧
    ((parseConnectRequest b out).1 = 0 ↔ b.length < 4 ∨
      ∃ p atyp host port, b <+: p ∧ b ≠ p ∧ ConnectMessage p atyp host port) ∧
    ((parseConnectRequest b out).1 = -1 ↔
      (¬ ∃ p atyp host port, p <+: b ∧ ConnectMessage p atyp host port) ∧
      ¬ (b.length < 4 ∨ ∃ p atyp host port, b <+: p ∧ b ≠ p ∧ ConnectMessage p atyp host port)) ∧
    ((parseConnectRequest b out).1 ≠ 0 →
      ∀ e, parseConnectRequest (b ++ e) out = parseConnectRequest b out) ∧
    (∀ data : Nat → UInt8, (∀ i < b.length, data i = b.getD i 0) →
      parseConnectRequestAt data b.length out = parseConnectRequest b out) := by
  refine ⟨fun k hk => ⟨fun h => ?_, fun ⟨p, _, _, _, hp, hl, hm⟩ => ?_⟩,
    fun p _ _ _ hp hm => ?_, parseConnectRequest_eq_zero_iff b out,
    parseConnectRequest_eq_neg_one_iff b out, fun h e => parseConnectRequest_append h e,
    fun _ hd => (parseConnectRequestAt_congr out hd).trans (parseConnectRequestAt_getD b out)⟩
  · obtain ⟨p, a, host, port, hp, hl, hm⟩ := @message_prefix_of_pos b out (by omega)
    exact ⟨p, a, host, port, hp, by omega, hm⟩
  · rw [parseConnectRequest_of_prefix_message hp hm, (hm.parse out).1, hl]
  · rw [parseConnectRequest_of_prefix_message hp hm]
    exact (hm.parse out).2

end Socks5

end ReverseSocks
