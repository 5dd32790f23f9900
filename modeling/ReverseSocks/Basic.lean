import Mathlib.Data.List.Basic
import Mathlib.Tactic.Ring

/-! # Common types of the reverse SOCKS5 client

    The byte buffers, the project-wide error codes of `common.h`, and the
    little-endian encodings that the mux wire format uses for its
    `uint16_t` and `uint32_t` header fields.

    Bytes are `UInt8`, and the header fields keep their C++ widths
    (`UInt16`, `UInt32`). A `ByteBuffer` (`std::vector<uint8_t>`) is a
    list of bytes; a pointer and a length passed together are one list.
-/

namespace ReverseSocks

/-- `using ByteBuffer = std::vector<uint8_t>`. -/
abbrev ByteBuffer := List UInt8

/-- `enum class ErrorCode` of the client's `common.h`, in declaration order. -/
inductive ErrorCode
  | success
  | invalidArgument
  | outOfMemory
  | socketError
  | connectionReset
  | connectionRefused
  | connectionTimeout
  | hostUnreachable
  | networkUnreachable
  | dnsResolutionFailed
  | sslHandshakeFailed
  | sslCertificateError
  | sslEncryptError
  | sslDecryptError
  | sslDisconnected
  | protocolError
  | bufferTooSmall
  | channelNotFound
  | channelClosed
  | windowExhausted
  | socks5AuthFailure
  | socks5UnsupportedCommand
  | socks5UnsupportedAddressType
  | shutdown
  | ioIncomplete
  deriving DecidableEq, Repr, Inhabited

/-- The synchronous outcome of a `TcpConnection::ConnectAsync(host, port)`: name resolution,
    socket creation, bind and the start of `ConnectEx`. -/
abbrev Network := String → UInt16 → ErrorCode

/-! ## Fixed-width conversions -/

@[simp] theorem uint8_toNat_ofNat (n : Nat) : (UInt8.ofNat n).toNat = n % 256 :=
  BitVec.toNat_ofNat ..

@[simp] theorem uint16_toNat_ofNat (n : Nat) : (UInt16.ofNat n).toNat = n % 65536 :=
  BitVec.toNat_ofNat ..

@[simp] theorem uint32_toNat_ofNat (n : Nat) : (UInt32.ofNat n).toNat = n % 4294967296 :=
  BitVec.toNat_ofNat ..

theorem uint32_toNat_add (a b : UInt32) : (a + b).toNat = (a.toNat + b.toNat) % 4294967296 :=
  BitVec.toNat_add ..

theorem uint32_le_iff (a b : UInt32) : a ≤ b ↔ a.toNat ≤ b.toNat := Iff.rfl

theorem uint32_lt_iff (a b : UInt32) : a < b ↔ a.toNat < b.toNat := Iff.rfl

/-! ## Little-endian fields

    The header is copied with `memcpy` into a packed struct, so its
    multi-byte fields are read and written little-endian. -/

/-- A little-endian `uint16_t` read from its two bytes. -/
def u16le (b0 b1 : UInt8) : UInt16 :=
  UInt16.ofNat (b0.toNat + 256 * b1.toNat)

/-- A little-endian `uint32_t` read from its four bytes. -/
def u32le (b0 b1 b2 b3 : UInt8) : UInt32 :=
  UInt32.ofNat (b0.toNat + 256 * b1.toNat + 65536 * b2.toNat + 16777216 * b3.toNat)

/-- The two bytes of a `uint16_t`, low byte first. -/
def bytesU16 (v : UInt16) : ByteBuffer :=
  [UInt8.ofNat v.toNat, UInt8.ofNat (v.toNat / 256)]

/-- The four bytes of a `uint32_t`, low byte first. -/
def bytesU32 (v : UInt32) : ByteBuffer :=
  [UInt8.ofNat v.toNat, UInt8.ofNat (v.toNat / 256),
   UInt8.ofNat (v.toNat / 65536), UInt8.ofNat (v.toNat / 16777216)]

@[simp] theorem length_bytesU16 (v : UInt16) : (bytesU16 v).length = 2 := rfl

@[simp] theorem length_bytesU32 (v : UInt32) : (bytesU32 v).length = 4 := rfl

/-- Reading back the two bytes written for `v` gives `v`. -/
theorem u16le_bytesU16 (v : UInt16) :
    u16le (UInt8.ofNat v.toNat) (UInt8.ofNat (v.toNat / 256)) = v := by
  have h : v.toNat < 65536 := v.toNat_lt_size
  apply UInt16.toNat.inj
  simp only [u16le, uint16_toNat_ofNat, uint8_toNat_ofNat]
  omega

/-- Reading back the four bytes written for `v` gives `v`. -/
theorem u32le_bytesU32 (v : UInt32) :
    u32le (UInt8.ofNat v.toNat) (UInt8.ofNat (v.toNat / 256))
      (UInt8.ofNat (v.toNat / 65536)) (UInt8.ofNat (v.toNat / 16777216)) = v := by
  have h : v.toNat < 4294967296 := v.toNat_lt_size
  apply UInt32.toNat.inj
  simp only [u32le, uint32_toNat_ofNat, uint8_toNat_ofNat]
  omega

/-- Writing back the `uint16_t` read from two bytes gives those bytes. -/
theorem bytesU16_u16le (a b : UInt8) : bytesU16 (u16le a b) = [a, b] := by
  have ha : a.toNat < 256 := a.toNat_lt_size
  have hb : b.toNat < 256 := b.toNat_lt_size
  simp only [bytesU16, u16le, uint16_toNat_ofNat, List.cons.injEq, and_true]
  constructor <;> apply UInt8.toNat.inj <;> simp <;> omega

/-- Writing back the `uint32_t` read from four bytes gives those bytes. -/
theorem bytesU32_u32le (a b c d : UInt8) : bytesU32 (u32le a b c d) = [a, b, c, d] := by
  have ha : a.toNat < 256 := a.toNat_lt_size
  have hb : b.toNat < 256 := b.toNat_lt_size
  have hc : c.toNat < 256 := c.toNat_lt_size
  have hd : d.toNat < 256 := d.toNat_lt_size
  simp only [bytesU32, u32le, uint32_toNat_ofNat, List.cons.injEq, and_true]
  refine ⟨?_, ?_, ?_, ?_⟩ <;> apply UInt8.toNat.inj <;> simp <;> omega

end ReverseSocks
