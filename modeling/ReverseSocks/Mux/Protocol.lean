import ReverseSocks.Basic

/-! # Mux wire format

    `mux_protocol.h`: the frame types and flags, the packed 8-byte
    `FrameHeader`, and `FrameCodec::Encode` with its convenience builders.

    `Encode` takes the frame type as the byte it writes
    (`static_cast<uint8_t>(type)`), so a frame may carry any type byte, as
    the wire can; the builders pass the enumerators' values. The payload
    pointer and `payload_len` are one list, and `payload_length` is its
    size as `uint32_t`.
-/

namespace ReverseSocks

/-- `enum class FrameType : uint8_t`. -/
inductive FrameType
  | channelOpen
  | channelOpenAck
  | channelRequest
  | channelRequestAck
  | data
  | channelClose
  | channelCloseAck
  | ping
  | pong
  | windowUpdate
  deriving DecidableEq, Repr

namespace FrameType

/-- The enumerators' values. -/
def toUInt8 : FrameType → UInt8
  | channelOpen => 0x01
  | channelOpenAck => 0x02
  | channelRequest => 0x03
  | channelRequestAck => 0x04
  | data => 0x05
  | channelClose => 0x06
  | channelCloseAck => 0x07
  | ping => 0x08
  | pong => 0x09
  | windowUpdate => 0x0A

/-- `static_cast<FrameType>(frame.header.type)` as `DispatchFrame`'s switch reads it:
    `none` is its `default:` branch. -/
def ofUInt8 (b : UInt8) : Option FrameType :=
  [channelOpen, channelOpenAck, channelRequest, channelRequestAck, data, channelClose,
    channelCloseAck, ping, pong, windowUpdate].find? (·.toUInt8 = b)

end FrameType

/-- `FRAME_FLAG_FIN`. -/
def FRAME_FLAG_FIN : UInt8 := 0x01

/-- `FRAME_FLAG_RST`. -/
def FRAME_FLAG_RST : UInt8 := 0x02

/-- `FRAME_HEADER_SIZE`. -/
def FRAME_HEADER_SIZE : Nat := 8

/-- `FRAME_MAX_PAYLOAD`. -/
def FRAME_MAX_PAYLOAD : Nat := 65536

/-- `struct FrameHeader`, packed. -/
structure FrameHeader where
  type : UInt8
  flags : UInt8
  channel_id : UInt16
  payload_length : UInt32
  deriving DecidableEq, Repr

/-- The eight bytes `memcpy` writes for a header. -/
def FrameHeader.bytes (h : FrameHeader) : ByteBuffer :=
  [h.type, h.flags] ++ bytesU16 h.channel_id ++ bytesU32 h.payload_length

/-- The header `memcpy` reads back from eight bytes. -/
def FrameHeader.read (t f c0 c1 l0 l1 l2 l3 : UInt8) : FrameHeader :=
  ⟨t, f, u16le c0 c1, u32le l0 l1 l2 l3⟩

/-- `struct Frame`: a decoded header and its payload. -/
structure Frame where
  header : FrameHeader
  payload : ByteBuffer
  deriving DecidableEq, Repr

/-- A frame `Encode` can produce and `Feed` accepts: the header's length is the payload's,
    and the payload is at most `FRAME_MAX_PAYLOAD`. -/
def Frame.Valid (f : Frame) : Prop :=
  f.header.payload_length.toNat = f.payload.length ∧ f.payload.length ≤ FRAME_MAX_PAYLOAD

namespace FrameCodec

/-- `FrameCodec::Encode`. -/
def encode (type flags : UInt8) (channel_id : UInt16) (payload : ByteBuffer) : ByteBuffer :=
  FrameHeader.bytes ⟨type, flags, channel_id, UInt32.ofNat payload.length⟩ ++ payload

/-- `FrameCodec::BuildChannelOpen`. -/
def buildChannelOpen (channel_id : UInt16) : ByteBuffer :=
  encode FrameType.channelOpen.toUInt8 0 channel_id []

/-- `FrameCodec::BuildChannelOpenAck`. -/
def buildChannelOpenAck (channel_id : UInt16) : ByteBuffer :=
  encode FrameType.channelOpenAck.toUInt8 0 channel_id []

/-- `FrameCodec::BuildChannelRequest`. -/
def buildChannelRequest (channel_id : UInt16) (data : ByteBuffer) : ByteBuffer :=
  encode FrameType.channelRequest.toUInt8 0 channel_id data

/-- `FrameCodec::BuildChannelRequestAck`. -/
def buildChannelRequestAck (channel_id : UInt16) (data : ByteBuffer) : ByteBuffer :=
  encode FrameType.channelRequestAck.toUInt8 0 channel_id data

/-- `FrameCodec::BuildData`. -/
def buildData (channel_id : UInt16) (data : ByteBuffer) : ByteBuffer :=
  encode FrameType.data.toUInt8 0 channel_id data

/-- `FrameCodec::BuildChannelClose`. -/
def buildChannelClose (channel_id : UInt16) (flags : UInt8) : ByteBuffer :=
  encode FrameType.channelClose.toUInt8 flags channel_id []

/-- `FrameCodec::BuildChannelCloseAck`. -/
def buildChannelCloseAck (channel_id : UInt16) : ByteBuffer :=
  encode FrameType.channelCloseAck.toUInt8 0 channel_id []

/-- `FrameCodec::BuildPing`. -/
def buildPing : ByteBuffer :=
  encode FrameType.ping.toUInt8 0 0 []

/-- `FrameCodec::BuildPong`. -/
def buildPong : ByteBuffer :=
  encode FrameType.pong.toUInt8 0 0 []

/-- `FrameCodec::BuildWindowUpdate`: the increment as a 4-byte little-endian payload. -/
def buildWindowUpdate (channel_id : UInt16) (increment : UInt32) : ByteBuffer :=
  encode FrameType.windowUpdate.toUInt8 0 channel_id (bytesU32 increment)

end FrameCodec

/-- The bytes `Encode` writes for a frame's own fields. -/
def Frame.encode (f : Frame) : ByteBuffer :=
  FrameCodec.encode f.header.type f.header.flags f.header.channel_id f.payload

/-- `Encode` applied to each frame in turn, the bytes concatenated. -/
def encodeFrames (fs : List Frame) : ByteBuffer :=
  (fs.map Frame.encode).flatten

@[simp] theorem encodeFrames_nil : encodeFrames [] = [] := rfl

@[simp] theorem encodeFrames_cons (f : Frame) (fs : List Frame) :
    encodeFrames (f :: fs) = f.encode ++ encodeFrames fs := rfl

theorem encodeFrames_append (fs gs : List Frame) :
    encodeFrames (fs ++ gs) = encodeFrames fs ++ encodeFrames gs := by
  simp [encodeFrames]

/-- A valid frame's encoding is its own header followed by its payload. -/
theorem Frame.encode_of_valid {f : Frame} (hf : f.Valid) :
    f.encode = f.header.bytes ++ f.payload := by
  have h : UInt32.ofNat f.payload.length = f.header.payload_length :=
    UInt32.toNat.inj (by simp [← hf.1, f.header.payload_length.toNat_lt_size])
  simp [Frame.encode, FrameCodec.encode, h]

/-- Reading a header back from the bytes written for it. -/
theorem FrameHeader.read_bytes (h : FrameHeader) :
    FrameHeader.read h.type h.flags (UInt8.ofNat h.channel_id.toNat)
      (UInt8.ofNat (h.channel_id.toNat / 256)) (UInt8.ofNat h.payload_length.toNat)
      (UInt8.ofNat (h.payload_length.toNat / 256)) (UInt8.ofNat (h.payload_length.toNat / 65536))
      (UInt8.ofNat (h.payload_length.toNat / 16777216)) = h := by
  simp [FrameHeader.read, u16le_bytesU16, u32le_bytesU32]

end ReverseSocks
