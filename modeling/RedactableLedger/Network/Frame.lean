import RedactableLedger.Fault
import RedactableLedger.Network.Message

namespace RedactableLedger

structure Frame where
  type : MessageType
  payload : Bytes
deriving DecidableEq

namespace Frame

def maxLength : Nat := 4 * 1024 * 1024

def encode (f : Frame) : Except TransportFault Bytes :=
  let length := f.payload.length + 1
  if length ≤ maxLength then .ok (Bytes.ofNatBE 4 length ++ f.type.code :: f.payload)
  else .error (.oversized length)

def read (stream : Bytes) : Except TransportFault (Frame × Bytes) :=
  if stream.length < 4 then .error .endedInHeader
  else
    let length := Bytes.toNatBE (stream.take 4)
    if length = 0 ∨ maxLength < length then .error (.frameLength length)
    else
      match stream.drop 4 with
      | [] => .error .endedInHeader
      | code :: rest =>
        if rest.length < length - 1 then .error .endedInPayload
        else .ok (⟨.ofCode code, rest.take (length - 1)⟩, rest.drop (length - 1))

theorem length_of_read {stream rest : Bytes} {f : Frame} (h : read stream = .ok (f, rest)) :
    rest.length < stream.length := by
  unfold read at h
  split at h
  · cases h
  · dsimp only at h
    split at h
    · cases h
    · split at h
      · cases h
      · rename_i code tail heq
        split at h
        · cases h
        · cases h
          have : (stream.drop 4).length = tail.length + 1 := by rw [heq]; rfl
          simp only [List.length_drop] at this ⊢
          omega

/-- What a stream of frames holds: the frames, and the fault that ends it early if one does. At
least one frame is asked for. -/
def readAll (stream : Bytes) : List Frame × Option TransportFault :=
  match h : read stream with
  | .error e => ([], some e)
  | .ok (f, []) => ([f], none)
  | .ok (f, b :: rest) =>
    have := length_of_read h
    let (fs, e) := readAll (b :: rest)
    (f :: fs, e)
termination_by stream.length

end Frame

end RedactableLedger
