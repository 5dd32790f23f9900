import ReverseSocks.Mux.Protocol

/-! # The frame codec

    `FrameCodec::Feed` copies its input into a fixed buffer, at most the free space at a time,
    and after each copy parses the frames it holds (`parseFrames`); an oversize
    `payload_length` drops the buffer. Between calls the buffer holds an incomplete frame
    (`Incomplete`).

    The copying in pieces is invisible (`feed_eq`), and any partition of an encoded frame
    sequence decodes to exactly those frames (`feedAll_encodeFrames`).
-/

namespace ReverseSocks

/-! ## The inner loop -/

/-- The inner `while (m_used >= FRAME_HEADER_SIZE)` loop of `Feed` on the buffered bytes:
    the frames it emits, and `some` of the bytes it leaves buffered, or `none` when it meets
    a header with `payload_length > FRAME_MAX_PAYLOAD` and `Feed` returns with `m_used = 0`. -/
def parseFrames : ByteBuffer → List Frame × Option ByteBuffer
  | buf@(t :: f :: c0 :: c1 :: l0 :: l1 :: l2 :: l3 :: body) =>
    let hdr := FrameHeader.read t f c0 c1 l0 l1 l2 l3
    let n := hdr.payload_length.toNat
    if FRAME_MAX_PAYLOAD < n then ([], none)
    else if body.length < n then ([], some buf)
    else
      let rest := parseFrames (body.drop n)
      (⟨hdr, body.take n⟩ :: rest.1, rest.2)
  | buf => ([], some buf)
termination_by buf => buf.length
decreasing_by simp_wf; omega

/-- Fewer than `FRAME_HEADER_SIZE` bytes: the loop does not run. -/
theorem parseFrames_short {buf : ByteBuffer} (h : buf.length < FRAME_HEADER_SIZE) :
    parseFrames buf = ([], some buf) := by
  rw [parseFrames.eq_def]
  split
  · simp only [List.length_cons, FRAME_HEADER_SIZE] at h; omega
  · rfl

@[simp] theorem parseFrames_nil : parseFrames [] = ([], some []) :=
  parseFrames_short (by decide)

/-- The loop's behaviour on a buffer that starts with a full header `hdr`. -/
theorem parseFrames_header (hdr : FrameHeader) (body : ByteBuffer) :
    parseFrames (hdr.bytes ++ body) =
      if FRAME_MAX_PAYLOAD < hdr.payload_length.toNat then ([], none)
      else if body.length < hdr.payload_length.toNat then ([], some (hdr.bytes ++ body))
      else
        ((⟨hdr, body.take hdr.payload_length.toNat⟩ : Frame) ::
            (parseFrames (body.drop hdr.payload_length.toNat)).1,
          (parseFrames (body.drop hdr.payload_length.toNat)).2) := by
  simp only [FrameHeader.bytes, bytesU16, bytesU32, List.cons_append, List.singleton_append,
    List.nil_append]
  rw [parseFrames, FrameHeader.read_bytes]

/-- Every frame the loop emits is well formed: its payload is as long as its header says, and
    at most `FRAME_MAX_PAYLOAD` bytes. -/
theorem parseFrames_valid (buf : ByteBuffer) : ∀ f ∈ (parseFrames buf).1, f.Valid := by
  induction buf using parseFrames.induct with
  | case1 t f c0 c1 l0 l1 l2 l3 body hdr n hbig => simp [parseFrames, hbig]
  | case2 t f c0 c1 l0 l1 l2 l3 body hdr n hok hshort => simp [parseFrames, hok, hshort]
  | case3 t f c0 c1 l0 l1 l2 l3 body hdr n hok hlong ih =>
    simp only [n, hdr] at hok hlong ih
    rw [parseFrames]
    simp only [hok, hlong, if_false, List.mem_cons, forall_eq_or_imp]
    refine ⟨⟨?_, ?_⟩, ih⟩ <;> simp only [List.length_take] <;> omega
  | case4 buf hnot =>
    rw [parseFrames]
    · simp
    · exact hnot

/-- Every byte string of at least eight bytes starts with some header. -/
theorem exists_header_of_length {buf : ByteBuffer} (h : FRAME_HEADER_SIZE ≤ buf.length) :
    ∃ (hdr : FrameHeader) (body : ByteBuffer), buf = hdr.bytes ++ body := by
  match buf with
  | t :: f :: c0 :: c1 :: l0 :: l1 :: l2 :: l3 :: body =>
    refine ⟨FrameHeader.read t f c0 c1 l0 l1 l2 l3, body, ?_⟩
    rw [FrameHeader.bytes, FrameHeader.read, bytesU16_u16le, bytesU32_u32le]; rfl
  | [] | [_] | [_, _] | [_, _, _] | [_, _, _, _] | [_, _, _, _, _] | [_, _, _, _, _, _]
  | [_, _, _, _, _, _, _] => simp [FRAME_HEADER_SIZE] at h

/-- How the loop goes on when `d` is appended after it stopped with `p`: nothing more after an
    oversize header, otherwise it resumes on the bytes it left, followed by `d`. -/
def resume (p : List Frame × Option ByteBuffer) (d : ByteBuffer) : List Frame × Option ByteBuffer :=
  match p with
  | (fs, none) => (fs, none)
  | (fs, some r) => (fs ++ (parseFrames (r ++ d)).1, (parseFrames (r ++ d)).2)

@[simp] theorem resume_cons (f : Frame) (p : List Frame × Option ByteBuffer) (d : ByteBuffer) :
    resume (f :: p.1, p.2) d = (f :: (resume p d).1, (resume p d).2) := by
  rcases p with ⟨fs, _ | r⟩ <;> rfl

/-- **Appending input never changes what the loop already decided.** The frames parsed from
    `b` are emitted whatever follows, an oversize header stays fatal, and the loop resumes on
    the leftover bytes. -/
theorem parseFrames_append (b d : ByteBuffer) :
    parseFrames (b ++ d) = resume (parseFrames b) d := by
  induction' hn : b.length using Nat.strong_induction_on with n ih generalizing b
  by_cases hshort : b.length < FRAME_HEADER_SIZE
  · rw [parseFrames_short hshort]; rfl
  obtain ⟨hdr, body, rfl⟩ := exists_header_of_length (Nat.le_of_not_lt hshort)
  rw [List.append_assoc, parseFrames_header, parseFrames_header]
  by_cases hbig : FRAME_MAX_PAYLOAD < hdr.payload_length.toNat
  · simp [hbig, resume]
  by_cases hlen : body.length < hdr.payload_length.toNat
  · simp only [hbig, hlen, if_false, if_true, resume, List.nil_append]
    rw [List.append_assoc, parseFrames_header, if_neg hbig]
  have hle : hdr.payload_length.toNat ≤ body.length := Nat.le_of_not_lt hlen
  have hlt : (body.drop hdr.payload_length.toNat).length < n := by
    simp [← hn, FrameHeader.bytes]; omega
  simp only [hbig, if_false, List.length_append, show ¬ body.length + d.length <
    hdr.payload_length.toNat by omega, hlen, List.take_append_of_le_length hle,
    List.drop_append_of_le_length hle, ih _ hlt _ rfl, resume_cons]

/-! ## The buffer between calls -/

/-- The buffered bytes are an incomplete frame: the inner loop stops on them at once. -/
def Incomplete (buf : ByteBuffer) : Prop := parseFrames buf = ([], some buf)

theorem incomplete_of_length_lt {buf : ByteBuffer} (h : buf.length < FRAME_HEADER_SIZE) :
    Incomplete buf :=
  parseFrames_short h

/-- The loop always stops on an incomplete frame. -/
theorem incomplete_of_parseFrames {b r : ByteBuffer} (h : (parseFrames b).2 = some r) :
    Incomplete r := by
  induction' hn : b.length using Nat.strong_induction_on with n ih generalizing b
  by_cases hshort : b.length < FRAME_HEADER_SIZE
  · rw [parseFrames_short hshort] at h
    cases h
    exact incomplete_of_length_lt hshort
  obtain ⟨hdr, body, rfl⟩ := exists_header_of_length (Nat.le_of_not_lt hshort)
  have hb := congrArg Prod.snd (parseFrames_header hdr body)
  rw [h] at hb
  split_ifs at hb with hbig hlen
  · cases hb
    exact (parseFrames_header hdr body).trans (by simp [hbig, hlen])
  · refine ih _ ?_ hb.symm rfl
    simp [← hn, FrameHeader.bytes]; omega

/-- The size `m_buffer.resize` gives the accumulation buffer. -/
def bufferSize : Nat := FRAME_HEADER_SIZE + FRAME_MAX_PAYLOAD

/-- An incomplete frame leaves free space in the buffer. -/
theorem Incomplete.length_lt {buf : ByteBuffer} (h : Incomplete buf) : buf.length < bufferSize := by
  by_cases hshort : buf.length < FRAME_HEADER_SIZE
  · simp only [bufferSize, FRAME_HEADER_SIZE, FRAME_MAX_PAYLOAD] at hshort ⊢; omega
  obtain ⟨hdr, body, rfl⟩ := exists_header_of_length (Nat.le_of_not_lt hshort)
  have hb := parseFrames_header hdr body
  unfold Incomplete at h
  rw [h] at hb
  split_ifs at hb with hbig hlen
  · cases hb
  · simp [FrameHeader.bytes, bufferSize, FRAME_HEADER_SIZE] at hbig hlen ⊢; omega
  · cases hb

/-- `class FrameCodec`: `m_buffer[0, m_used)` as a list, with the invariant that it holds an
    incomplete frame, so `m_used < FRAME_HEADER_SIZE + FRAME_MAX_PAYLOAD` between calls. -/
structure FrameCodec where
  buffer : ByteBuffer
  incomplete : Incomplete buffer

namespace FrameCodec

/-- A codec is its buffered bytes. -/
theorem ext_buffer {c d : FrameCodec} (h : c.buffer = d.buffer) : c = d := by
  cases c; cases d; cases h; rfl

/-- `FrameCodec::FrameCodec`: `m_used = 0`. -/
def init : FrameCodec := ⟨[], incomplete_of_length_lt (by decide)⟩

/-- The outer `while (offset < len)` loop of `Feed`: copy `min(avail, space)` bytes, run the
    inner loop, and either return on an oversize header (`m_used = 0`) or go round again. -/
def feedLoop (buf : ByteBuffer) (hbuf : Incomplete buf) : ByteBuffer → List Frame × FrameCodec
  | [] => ([], ⟨buf, hbuf⟩)
  | b :: bs =>
    let k := min (b :: bs).length (bufferSize - buf.length)
    match h : parseFrames (buf ++ (b :: bs).take k) with
    | (fs, none) => (fs, init)
    | (fs, some r) =>
      let out := feedLoop r (incomplete_of_parseFrames (by rw [h])) ((b :: bs).drop k)
      (fs ++ out.1, out.2)
termination_by data => data.length
decreasing_by
  have := hbuf.length_lt
  simp only [List.length_drop, List.length_cons]
  omega

/-- `FrameCodec::Feed`: the frames completed by `data`, and the codec afterwards. -/
def feed (c : FrameCodec) (data : ByteBuffer) : List Frame × FrameCodec :=
  feedLoop c.buffer c.incomplete data

theorem feedLoop_spec (buf : ByteBuffer) (hbuf : Incomplete buf) (data : ByteBuffer) :
    (feedLoop buf hbuf data).1 = (parseFrames (buf ++ data)).1 ∧
      (feedLoop buf hbuf data).2.buffer = (parseFrames (buf ++ data)).2.getD [] := by
  induction buf, hbuf, data using feedLoop.induct with
  | case1 buf hbuf =>
    have hb : parseFrames buf = ([], some buf) := hbuf
    rw [feedLoop, List.append_nil, hb]; exact ⟨rfl, rfl⟩
  | case2 buf hbuf b bs k fs h =>
    have hp := parseFrames_append (buf ++ (b :: bs).take k) ((b :: bs).drop k)
    rw [List.append_assoc, List.take_append_drop, h] at hp
    rw [feedLoop, hp]
    split
    · next h' => rw [h] at h'; cases h'; exact ⟨rfl, rfl⟩
    · next h' => rw [h] at h'; cases h'
  | case3 buf hbuf b bs k fs r h ih =>
    have hp := parseFrames_append (buf ++ (b :: bs).take k) ((b :: bs).drop k)
    rw [List.append_assoc, List.take_append_drop, h] at hp
    rw [feedLoop, hp]
    split
    · next h' => rw [h] at h'; cases h'
    · next h' => rw [h] at h'; cases h'; exact ⟨congrArg (fs ++ ·) ih.1, ih.2⟩

/-- **One `Feed` call parses buffer and input as one string.** The copying in pieces of at
    most the free space is invisible: the frames are those of `buffer ++ data`, and the codec
    keeps what the loop leaves (nothing after an oversize header). -/
theorem feed_eq (c : FrameCodec) (data : ByteBuffer) :
    (c.feed data).1 = (parseFrames (c.buffer ++ data)).1 ∧
      (c.feed data).2.buffer = (parseFrames (c.buffer ++ data)).2.getD [] :=
  feedLoop_spec c.buffer c.incomplete data

/-- Successive `Feed` calls on the chunks, from codec `c`: the frame lists they emit,
    concatenated, and the codec after the last call. -/
def feedAll (c : FrameCodec) : List ByteBuffer → List Frame × FrameCodec
  | [] => ([], c)
  | d :: ds =>
    let r := c.feed d
    let s := feedAll r.2 ds
    (r.1 ++ s.1, s.2)

/-- The first calls of a run, then the rest from where they left the codec. -/
theorem feedAll_append (c : FrameCodec) (ds es : List ByteBuffer) :
    feedAll c (ds ++ es) =
      ((feedAll c ds).1 ++ (feedAll (feedAll c ds).2 es).1, (feedAll (feedAll c ds).2 es).2) := by
  induction ds generalizing c with
  | nil => simp [feedAll]
  | cons d ds ih => simp [feedAll, ih]

/-- While no oversize header is met, successive calls emit the frames of the whole stream and
    keep its unfinished tail. -/
theorem feedAll_of_parseFrames (c : FrameCodec) (ds : List ByteBuffer) {fs : List Frame}
    {r : ByteBuffer} (h : parseFrames (c.buffer ++ ds.flatten) = (fs, some r)) :
    (feedAll c ds).1 = fs ∧ (feedAll c ds).2.buffer = r := by
  induction ds generalizing c fs with
  | nil =>
    have hc := c.incomplete
    simp only [List.flatten_nil, List.append_nil] at h
    rw [Incomplete, h] at hc
    cases hc
    exact ⟨rfl, rfl⟩
  | cons d ds ih =>
    obtain ⟨h1, h2⟩ := feed_eq c d
    rw [List.flatten_cons, ← List.append_assoc, parseFrames_append] at h
    rcases hp : parseFrames (c.buffer ++ d) with ⟨fs1, _ | r1⟩
    · rw [hp] at h; cases h
    · rw [hp] at h h1 h2
      simp only [resume, Prod.mk.injEq] at h
      have hq : parseFrames ((c.feed d).2.buffer ++ ds.flatten) =
          ((parseFrames (r1 ++ ds.flatten)).1, some r) := by
        rw [h2, ← h.2]; rfl
      obtain ⟨ih1, ih2⟩ := ih (c.feed d).2 hq
      exact ⟨by simp [feedAll, h1, ih1, h.1], by simp [feedAll, ih2]⟩

end FrameCodec

/-! ## Encoded streams -/

/-- The loop emits a valid frame from its encoding and goes on after it. -/
theorem parseFrames_encode_append {f : Frame} (hf : f.Valid) (d : ByteBuffer) :
    parseFrames (f.encode ++ d) = (f :: (parseFrames d).1, (parseFrames d).2) := by
  have h1 : ¬ FRAME_MAX_PAYLOAD < f.header.payload_length.toNat := by
    rw [hf.1]; exact Nat.not_lt.mpr hf.2
  rw [Frame.encode_of_valid hf, List.append_assoc, parseFrames_header]
  simp [h1, hf.1, hf.2]

/-- A stream of valid encoded frames decodes to those frames, then goes on. -/
theorem parseFrames_encodeFrames {fs : List Frame} (hv : ∀ f ∈ fs, f.Valid) (d : ByteBuffer) :
    parseFrames (encodeFrames fs ++ d) = (fs ++ (parseFrames d).1, (parseFrames d).2) := by
  induction fs with
  | nil => rfl
  | cons f fs ih =>
    rw [encodeFrames_cons, List.append_assoc,
      parseFrames_encode_append (hv f (List.mem_cons_self f fs)),
      ih fun g hg => hv g (List.mem_cons_of_mem f hg)]
    rfl

/-- A strict prefix of a valid frame's encoding is an incomplete frame. -/
theorem incomplete_of_prefix_encode {f : Frame} (hf : f.Valid) {p t : ByteBuffer}
    (h : p ++ t = f.encode) (ht : t ≠ []) : Incomplete p := by
  by_cases hshort : p.length < FRAME_HEADER_SIZE
  · exact incomplete_of_length_lt hshort
  rw [Frame.encode_of_valid hf] at h
  have hlen : p.length + t.length = 8 + f.payload.length := by
    rw [← List.length_append, h]; simp [FrameHeader.bytes]; omega
  have htl : 0 < t.length := List.length_pos.mpr ht
  have hp : p = f.header.bytes ++ f.payload.take (p.length - FRAME_HEADER_SIZE) := by
    have := congrArg (List.take p.length) h
    rwa [List.take_left, List.take_append_eq_append_take,
      List.take_of_length_le (by simp [FrameHeader.bytes, FRAME_HEADER_SIZE] at hshort ⊢; omega)]
      at this
  have h1 : ¬ FRAME_MAX_PAYLOAD < f.header.payload_length.toNat := by
    rw [hf.1]; exact Nat.not_lt.mpr hf.2
  have hb : (f.payload.take (p.length - FRAME_HEADER_SIZE)).length <
      f.header.payload_length.toNat := by
    simp only [List.length_take, hf.1, FRAME_HEADER_SIZE] at hshort ⊢
    omega
  rw [Incomplete, hp, parseFrames_header]
  simp only [h1, hb, if_false, if_true]

/-- Every prefix of a valid encoded stream is decoded to a prefix of its frames, whose
    encodings followed by the bytes left over make up the prefix. -/
theorem parseFrames_prefix_encodeFrames {fs : List Frame} (hv : ∀ f ∈ fs, f.Valid)
    {p t : ByteBuffer} (h : p ++ t = encodeFrames fs) :
    ∃ gs r, gs <+: fs ∧ parseFrames p = (gs, some r) ∧ encodeFrames gs ++ r = p := by
  induction fs generalizing p with
  | nil =>
    obtain ⟨rfl, -⟩ := List.append_eq_nil.mp h
    exact ⟨[], [], List.nil_prefix, parseFrames_nil, rfl⟩
  | cons f fs ih =>
    have hf := hv f (List.mem_cons_self f fs)
    rcases List.append_eq_append_iff.mp h with ⟨a', hc, -⟩ | ⟨c', rfl, hd⟩
    · by_cases ha : a' = []
      · subst ha
        refine ⟨[f], [], ?_, ?_, by simp [hc]⟩
        · exact List.prefix_cons_inj f |>.mpr List.nil_prefix
        · rw [show p = f.encode ++ [] by simp [hc], parseFrames_encode_append hf]; simp
      · exact ⟨[], p, List.nil_prefix, incomplete_of_prefix_encode hf hc.symm ha, rfl⟩
    · obtain ⟨gs, r, hgs, hp, he⟩ := ih (fun g hg => hv g (List.mem_cons_of_mem f hg)) hd.symm
      refine ⟨f :: gs, r, (List.prefix_cons_inj f).mpr hgs, ?_, by simp [he]⟩
      rw [parseFrames_encode_append hf, hp]

/-- **Decoding any partition of an encoded frame sequence.** Fed to a fresh codec in any
    chunks, the encodings of valid frames `fs` come out as exactly `fs`, in order, and the
    codec ends empty. After each call, the frames emitted so far are a prefix of `fs`, and
    their encodings followed by the buffered bytes are exactly the bytes fed so far. -/
theorem feedAll_encodeFrames {fs : List Frame} (hv : ∀ f ∈ fs, f.Valid)
    {chunks : List ByteBuffer} (hc : chunks.flatten = encodeFrames fs) :
    (∀ j, (FrameCodec.feedAll .init (chunks.take j)).1 <+: fs ∧
      encodeFrames (FrameCodec.feedAll .init (chunks.take j)).1 ++
          (FrameCodec.feedAll .init (chunks.take j)).2.buffer = (chunks.take j).flatten) ∧
    (FrameCodec.feedAll .init chunks).1 = fs ∧ (FrameCodec.feedAll .init chunks).2.buffer = [] := by
  refine ⟨fun j => ?_, ?_⟩
  · have hsplit : (chunks.take j).flatten ++ (chunks.drop j).flatten = encodeFrames fs := by
      rw [← List.flatten_append, List.take_append_drop, hc]
    obtain ⟨gs, r, hgs, hp, he⟩ := parseFrames_prefix_encodeFrames hv hsplit
    obtain ⟨h1, h2⟩ := FrameCodec.feedAll_of_parseFrames .init (chunks.take j) hp
    rw [h1, h2]
    exact ⟨hgs, he⟩
  · have hp : parseFrames (FrameCodec.init.buffer ++ chunks.flatten) = (fs, some []) := by
      rw [hc, FrameCodec.init, List.nil_append, ← List.append_nil (encodeFrames fs),
        parseFrames_encodeFrames hv]
      simp
    exact FrameCodec.feedAll_of_parseFrames .init chunks hp

/-- A frame with a two-byte payload, fed in three pieces that cut its header inside the
    channel id and inside the length. -/
theorem feedAll_encodeFrames_split :
    let fs : List Frame := [⟨⟨7, 0, 1, 2⟩, [1, 2]⟩]
    let chunks : List ByteBuffer := [[7, 0, 1], [0, 2, 0, 0, 0, 1], [2]]
    (∀ f ∈ fs, f.Valid) ∧ chunks.flatten = encodeFrames fs ∧
    (∀ j, (FrameCodec.feedAll .init (chunks.take j)).1 <+: fs ∧
      encodeFrames (FrameCodec.feedAll .init (chunks.take j)).1 ++
          (FrameCodec.feedAll .init (chunks.take j)).2.buffer = (chunks.take j).flatten) ∧
    (FrameCodec.feedAll .init chunks).1 = fs ∧ (FrameCodec.feedAll .init chunks).2.buffer = [] :=
  have hv : ∀ f ∈ ([⟨⟨7, 0, 1, 2⟩, [1, 2]⟩] : List Frame), f.Valid := by
    simp [Frame.Valid, FRAME_MAX_PAYLOAD]
  have hc : ([[7, 0, 1], [0, 2, 0, 0, 0, 1], [2]] : List ByteBuffer).flatten =
      encodeFrames [⟨⟨7, 0, 1, 2⟩, [1, 2]⟩] := by decide
  ⟨hv, hc, feedAll_encodeFrames hv hc⟩

end ReverseSocks
