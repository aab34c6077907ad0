import RedactableLedger.Network.Frame
import RedactableLedger.Proofs.Outcome

namespace RedactableLedger

namespace Frame

variable {f : Frame} {stream rest : Bytes}

def written (code : UInt8) (payload : Bytes) : Bytes :=
  Bytes.ofNatBE 4 (payload.length + 1) ++ code :: payload

theorem length_written (code : UInt8) (payload : Bytes) :
    (written code payload).length = 4 + (payload.length + 1) := by
  rw [written, List.length_append, Bytes.length_ofNatBE, List.length_cons]

theorem encode_eq_ok {bytes : Bytes} :
    f.encode = .ok bytes ↔ f.payload.length + 1 ≤ maxLength ∧
      bytes = written f.type.code f.payload := by
  simp only [encode, written]
  split
  · rename_i h
    constructor
    · intro he
      cases he
      exact ⟨h, rfl⟩
    · rintro ⟨_, rfl⟩
      rfl
  · rename_i h
    constructor
    · intro he
      cases he
    · intro he
      exact absurd he.1 h

theorem statedLength_written {payload : Bytes} (h : payload.length + 1 ≤ maxLength)
    (code : UInt8) (rest : Bytes) :
    Bytes.toNatBE ((written code payload ++ rest).take 4) = payload.length + 1 := by
  have hlt : payload.length + 1 < Nat.pow 256 4 := Nat.lt_of_le_of_lt h (by decide)
  rw [written, List.append_assoc, List.take_left' (Bytes.length_ofNatBE _ _),
    Bytes.toNatBE_ofNatBE, Nat.mod_eq_of_lt hlt]

theorem read_written {payload : Bytes} (h : payload.length + 1 ≤ maxLength) (code : UInt8)
    (rest : Bytes) : read (written code payload ++ rest) =
      .ok (⟨.ofCode code, payload⟩, rest) := by
  have hheader : ¬ (written code payload ++ rest).length < 4 := by
    rw [List.length_append, length_written]
    omega
  have hbody : (written code payload ++ rest).drop 4 = code :: (payload ++ rest) := by
    rw [written, List.append_assoc, List.drop_left' (Bytes.length_ofNatBE _ _),
      List.cons_append]
  have hlength : ¬ (payload.length + 1 = 0 ∨ maxLength < payload.length + 1) := by omega
  have hpayload : ¬ (payload ++ rest).length < payload.length := by
    rw [List.length_append]
    omega
  simp only [read, if_neg hheader, statedLength_written h, if_neg hlength, hbody,
    Nat.add_sub_cancel, if_neg hpayload, List.take_left, List.drop_left]

/-- A frame is read from exactly what is written with a byte that stands for its type. -/
theorem read_eq_ok :
    read stream = .ok (f, rest) ↔
      ∃ code, f.payload.length + 1 ≤ maxLength ∧ f.type = .ofCode code ∧
        stream = written code f.payload ++ rest := by
  constructor
  · intro h
    rw [read] at h
    split at h
    · cases h
    · rename_i hheader
      have hfour : (stream.take 4).length = 4 := List.length_take_of_le (by omega)
      dsimp only at h
      split at h
      · cases h
      · rename_i hlength
        split at h
        · cases h
        · rename_i code tail hbody
          split at h
          · cases h
          · rename_i hpayload
            cases h
            have hcut : (tail.take (Bytes.toNatBE (stream.take 4) - 1)).length + 1 =
                Bytes.toNatBE (stream.take 4) := by
              rw [List.length_take]
              omega
            have hstated : Bytes.ofNatBE 4 (Bytes.toNatBE (stream.take 4)) = stream.take 4 := by
              have hwidth := Bytes.ofNatBE_toNatBE (stream.take 4)
              rwa [hfour] at hwidth
            refine ⟨code, ?_, rfl, ?_⟩
            · rw [hcut]
              omega
            · rw [written, hcut, hstated, List.append_assoc, List.cons_append,
                List.take_append_drop, ← hbody, List.take_append_drop]
  · rintro ⟨code, h, htype, rfl⟩
    rw [read_written h, ← htype]

theorem read_encode {bytes : Bytes} (h : f.encode = .ok bytes) (rest : Bytes) :
    read (bytes ++ rest) = .ok (f, rest) := by
  obtain ⟨hlength, rfl⟩ := encode_eq_ok.1 h
  rw [read_written hlength, MessageType.ofCode_code]

/-- What is read from the front of a stream is read whatever follows. -/
theorem read_append (h : read stream = .ok (f, rest)) (more : Bytes) :
    read (stream ++ more) = .ok (f, rest ++ more) := by
  obtain ⟨code, hlength, htype, rfl⟩ := read_eq_ok.1 h
  exact read_eq_ok.2 ⟨code, hlength, htype, List.append_assoc ..⟩

/-- A stream is refused because it ends too soon, or for the length that it states. -/
theorem read_eq_error (h : read stream = .error e) :
    e = .endedInHeader ∨ e = .endedInPayload ∨
      4 ≤ stream.length ∧
        (Bytes.toNatBE (stream.take 4) = 0 ∨ maxLength < Bytes.toNatBE (stream.take 4)) := by
  rw [read] at h
  split at h
  · cases h
    exact .inl rfl
  · rename_i hheader
    dsimp only at h
    split at h
    · rename_i hlength
      exact .inr (.inr ⟨by omega, hlength⟩)
    · split at h
      · cases h
        exact .inl rfl
      · split at h
        · cases h
          exact .inr (.inl rfl)
        · cases h

theorem encode_ok_iff : (∃ bytes, f.encode = .ok bytes) ↔ f.payload.length + 1 ≤ maxLength :=
  ⟨fun ⟨_, h⟩ => (encode_eq_ok.1 h).1, fun h => ⟨_, encode_eq_ok.2 ⟨h, rfl⟩⟩⟩

/-- The type that a byte stands for is written as that byte again, if any type is. -/
theorem code_ofCode_eq_iff {code : UInt8} :
    (MessageType.ofCode code).code = code ↔ ∃ t : MessageType, t.code = code := by
  constructor
  · intro h
    exact ⟨_, h⟩
  · rintro ⟨t, rfl⟩
    rw [MessageType.ofCode_code]

theorem written_inj {a b : UInt8} {payload : Bytes} :
    written a payload = written b payload ↔ a = b := by
  constructor
  · intro h
    cases List.append_cancel_left h
    rfl
  · rintro rfl
    rfl

/-- A frame is written as the bytes that it was read from, unless their type byte is no
type's. -/
theorem encode_eq_written_iff {code : UInt8} (h : f.payload.length + 1 ≤ maxLength)
    (htype : f.type = .ofCode code) :
    f.encode = .ok (written code f.payload) ↔ ∃ t : MessageType, t.code = code := by
  rw [encode_eq_ok, htype, written_inj, eq_comm, ← code_ofCode_eq_iff]
  exact and_iff_right h

/-- The bytes that a frame is read from: its length as it is stated in front, the byte of its
type, and its payload. The frame is written as they are, unless the byte is no type's. -/
structure ReadFrom (f : Frame) (length : Nat) (code : UInt8) (used : Bytes) : Prop where
  length_eq : used.length = 4 + length
  stated : Bytes.toNatBE (used.take 4) = length
  one_le : 1 ≤ length
  le_maxLength : length ≤ maxLength
  code_eq : used[4]? = some code
  type_eq : f.type = .ofCode code
  payload_eq : f.payload = used.drop 5
  encode_iff : f.encode = .ok used ↔ ∃ t : MessageType, t.code = code

theorem readFrom_of_read (h : read stream = .ok (f, rest)) :
    ∃ length code used, stream = used ++ rest ∧ f.ReadFrom length code used := by
  obtain ⟨code, hlength, htype, rfl⟩ := read_eq_ok.1 h
  have hheader : (Bytes.ofNatBE 4 (f.payload.length + 1)).length = 4 := Bytes.length_ofNatBE _ _
  have hstated := statedLength_written hlength code []
  rw [List.append_nil] at hstated
  refine ⟨f.payload.length + 1, code, written code f.payload, rfl,
    length_written code f.payload, hstated, Nat.le_add_left 1 _, hlength, ?_, htype, ?_,
    encode_eq_written_iff hlength htype⟩
  · rw [written, List.getElem?_append_right (by omega), hheader]
    rfl
  · rw [written, List.drop_append, hheader, List.drop_eq_nil_of_le (by omega)]
    rfl

theorem read_truncated {bytes front : Bytes} (h : f.encode = .ok bytes) (hp : front <+: bytes)
    (hne : front ≠ bytes) : read front = .error .endedInHeader ∨
      read front = .error .endedInPayload := by
  obtain ⟨more, rfl⟩ := hp
  cases hr : read front with
  | ok p =>
    have hread := read_encode h []
    rw [List.append_nil, read_append hr more] at hread
    have hrest : p.2 ++ more = [] := (Prod.mk.inj (Except.ok.inj hread)).2
    rw [(List.append_eq_nil_iff.1 hrest).2, List.append_nil] at hne
    exact absurd rfl hne
  | error e =>
    obtain rfl | rfl | ⟨hfour, hstated⟩ := read_eq_error hr
    · exact .inl rfl
    · exact .inr rfl
    · -- the front states the length of the whole frame, which is in bounds
      obtain ⟨hlength, he⟩ := encode_eq_ok.1 h
      have hwhole := statedLength_written hlength f.type.code []
      rw [List.append_nil, ← he, List.take_append_of_le_length hfour] at hwhole
      rw [hwhole] at hstated
      omega

def readTimes : Nat → Bytes → Except TransportFault (List Frame × Bytes)
  | 0, stream => .ok ([], stream)
  | n + 1, stream => do
    let (f, rest) ← read stream
    let (fs, rest) ← readTimes n rest
    return (f :: fs, rest)

theorem readTimes_encode (frames : List Frame)
    (h : ∀ f ∈ frames, ∃ bytes, encode f = .ok bytes) (rest : Bytes) :
    ∃ written, frames.mapM encode = .ok written ∧
      readTimes frames.length (written.flatten ++ rest) = .ok (frames, rest) := by
  induction frames with
  | nil => exact ⟨[], rfl, rfl⟩
  | cons f fs ih =>
    obtain ⟨bytes, hf⟩ := h f List.mem_cons_self
    obtain ⟨written, hfs, hread⟩ := ih fun g hg => h g (List.mem_cons_of_mem f hg)
    refine ⟨bytes :: written, ?_, ?_⟩
    · rw [List.mapM_cons, hf, hfs]
      rfl
    · rw [List.length_cons, List.flatten_cons, List.append_assoc, readTimes]
      exact bind_eq_ok.2 ⟨_, read_encode hf _, bind_eq_ok.2 ⟨_, hread, rfl⟩⟩

/-- Frames and streams. A frame is written exactly if its payload is short enough. Frames that
were written one after the other are read back in their order, and what follows them is left.
What a frame is read from has the stated length and is what the frame is written as. A frame
that is cut short is refused. -/
theorem stream_exact :
    (∀ f : Frame, (∃ bytes, f.encode = .ok bytes) ↔ f.payload.length + 1 ≤ maxLength) ∧
    (∀ (frames : List Frame) (rest : Bytes), (∀ f ∈ frames, ∃ bytes, f.encode = .ok bytes) →
      ∃ written, frames.mapM encode = .ok written ∧
        readTimes frames.length (written.flatten ++ rest) = .ok (frames, rest)) ∧
    (∀ (stream rest : Bytes) (f : Frame), read stream = .ok (f, rest) →
      ∃ length code used, stream = used ++ rest ∧ f.ReadFrom length code used) ∧
    (∀ (f : Frame) (bytes front : Bytes), f.encode = .ok bytes → front <+: bytes →
      front ≠ bytes →
      read front = .error .endedInHeader ∨ read front = .error .endedInPayload) :=
  ⟨fun _ => encode_ok_iff, fun frames rest h => readTimes_encode frames h rest,
    fun _ _ _ h => readFrom_of_read h, fun _ _ _ h hp hne => read_truncated h hp hne⟩

/-- A request and a reply without payload on one stream, before two more bytes. -/
theorem request_and_reply_streamed :
    ∃ written, [⟨.accountRequest, [7, 8]⟩, ⟨.notFound, []⟩].mapM encode = .ok written ∧
      readTimes 2 (written.flatten ++ [0, 0]) =
        .ok ([⟨.accountRequest, [7, 8]⟩, ⟨.notFound, []⟩], [0, 0]) := by
  obtain ⟨hencode, hread, _⟩ := stream_exact
  apply hread
  intro f hf
  rw [hencode]
  cases hf with
  | head => decide
  | tail _ hf =>
    cases hf with
    | head => decide
    | tail _ hf => cases hf

end Frame

end RedactableLedger
