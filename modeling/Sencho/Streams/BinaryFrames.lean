import Mathlib.Algebra.Group.Nat.Defs
import Mathlib.Data.List.Basic

/-!
# Binary frames

A binary frame of the tunnel is a type byte, the id of a stream as four bytes with the highest
first, and the payload.  Reading gives back what was written, and accepts nothing else.
-/

namespace Sencho.Streams

abbrev Buffer := List UInt8

def maxFrameSizeBytes : Nat := 8 * 1024 * 1024

inductive BinaryFrameType where
  | httpReqBody
  | httpResBody
  | wsMessageBinary
  | tcpData

namespace BinaryFrameType

def byte : BinaryFrameType → UInt8
  | httpReqBody => 0x01
  | httpResBody => 0x02
  | wsMessageBinary => 0x03
  | tcpData => 0x04

def ofByte (b : UInt8) : Option BinaryFrameType :=
  if b = 0x01 then some httpReqBody
  else if b = 0x02 then some httpResBody
  else if b = 0x03 then some wsMessageBinary
  else if b = 0x04 then some tcpData
  else none

theorem ofByte_eq_some_iff (b : UInt8) (type : BinaryFrameType) :
    ofByte b = some type ↔ b = type.byte := by
  constructor
  · intro h
    unfold ofByte at h
    split_ifs at h <;> cases h <;> assumption
  · rintro rfl
    cases type <;> rfl

end BinaryFrameType

def writeUInt32BE (n : Nat) : Buffer :=
  [(n / 2 ^ 24).toUInt8, (n / 2 ^ 16).toUInt8, (n / 2 ^ 8).toUInt8, n.toUInt8]

def readUInt32BE (b₀ b₁ b₂ b₃ : UInt8) : Nat :=
  b₀.toNat * 2 ^ 24 + b₁.toNat * 2 ^ 16 + b₂.toNat * 2 ^ 8 + b₃.toNat

variable {b₀ b₁ b₂ b₃ : UInt8}

theorem readUInt32BE_lt : readUInt32BE b₀ b₁ b₂ b₃ < 2 ^ 32 := by
  have h₀ := b₀.toNat_lt
  have h₁ := b₁.toNat_lt
  have h₂ := b₂.toNat_lt
  have h₃ := b₃.toNat_lt
  unfold readUInt32BE
  omega

theorem readUInt32BE_writeUInt32BE {n : Nat} (h : n < 2 ^ 32) :
    readUInt32BE (n / 2 ^ 24).toUInt8 (n / 2 ^ 16).toUInt8 (n / 2 ^ 8).toUInt8 n.toUInt8 = n := by
  simp only [readUInt32BE, Nat.toUInt8_eq, UInt8.toNat_ofNat']
  omega

theorem writeUInt32BE_readUInt32BE :
    writeUInt32BE (readUInt32BE b₀ b₁ b₂ b₃) = [b₀, b₁, b₂, b₃] := by
  have h₀ := b₀.toNat_lt
  have h₁ := b₁.toNat_lt
  have h₂ := b₂.toNat_lt
  have h₃ := b₃.toNat_lt
  simp only [writeUInt32BE, readUInt32BE, Nat.toUInt8_eq, List.cons.injEq, ← UInt8.toNat_inj,
    UInt8.toNat_ofNat', and_true]
  omega

/-- A number of the host: an integer, or one that is none, as it is shown. -/
inductive Number where
  | integer (n : Int)
  | other (shown : String)

def Number.shown : Number → String
  | integer n => toString n
  | other shown => shown

structure DecodedBinaryFrame where
  type : BinaryFrameType
  streamId : Nat
  payload : Buffer

def encodeBinaryFrame (type : BinaryFrameType) (streamId : Number) (payload : Buffer) :
    Except String Buffer :=
  match streamId with
  | .integer n =>
    if n < 0 ∨ n > 0xffffffff then .error s!"invalid streamId: {streamId.shown}"
    else .ok (type.byte :: writeUInt32BE n.toNat ++ payload)
  | .other _ => .error s!"invalid streamId: {streamId.shown}"

def decodeBinaryFrame (buf : Buffer) : Except String DecodedBinaryFrame :=
  match buf with
  | b :: b₀ :: b₁ :: b₂ :: b₃ :: payload =>
    if buf.length > maxFrameSizeBytes then
      .error s!"binary frame too large: {buf.length} bytes"
    else
      match BinaryFrameType.ofByte b with
      | none => .error s!"unknown binary frame type: {b.toNat}"
      | some type => .ok ⟨type, readUInt32BE b₀ b₁ b₂ b₃, payload⟩
  | _ => .error s!"binary frame too short: {buf.length} bytes"

theorem encodeBinaryFrame_of_le {type : BinaryFrameType} {id : Nat} {payload : Buffer}
    (h : id ≤ 0xffffffff) :
    encodeBinaryFrame type (.integer id) payload =
      .ok (type.byte :: writeUInt32BE id ++ payload) := by
  have hrange : ¬ ((id : Int) < 0 ∨ (id : Int) > 0xffffffff) := by omega
  exact if_neg hrange

theorem encode_of_decode {buf : Buffer} {frame : DecodedBinaryFrame}
    (h : decodeBinaryFrame buf = .ok frame) :
    encodeBinaryFrame frame.type (.integer frame.streamId) frame.payload = .ok buf := by
  unfold decodeBinaryFrame at h
  split at h
  · rename_i b b₀ b₁ b₂ b₃ payload
    split at h
    · cases h
    · split at h
      · cases h
      · rename_i type htype
        cases h
        have hbyte := (BinaryFrameType.ofByte_eq_some_iff b type).mp htype
        rw [encodeBinaryFrame_of_le (Nat.le_pred_of_lt readUInt32BE_lt),
          writeUInt32BE_readUInt32BE, ← hbyte]
        rfl
  · cases h

/-- What is written is read back as it was, and what is read was written so. -/
theorem decode_encodeBinaryFrame {type : BinaryFrameType} {id : Nat} {payload : Buffer}
    (hid : id ≤ 0xffffffff) (hsize : 5 + payload.length ≤ maxFrameSizeBytes) :
    (∃ buf, encodeBinaryFrame type (.integer id) payload = .ok buf ∧
        decodeBinaryFrame buf = .ok ⟨type, id, payload⟩) ∧
      ∀ buf frame, decodeBinaryFrame buf = .ok frame →
        encodeBinaryFrame frame.type (.integer frame.streamId) frame.payload = .ok buf := by
  refine ⟨⟨_, encodeBinaryFrame_of_le hid, ?_⟩, fun _ _ => encode_of_decode⟩
  have hlength : ¬ (type.byte :: writeUInt32BE id ++ payload).length > maxFrameSizeBytes := by
    have h : (type.byte :: writeUInt32BE id ++ payload).length = payload.length + 5 := rfl
    omega
  have htype := (BinaryFrameType.ofByte_eq_some_iff type.byte type).mpr rfl
  show (if _ then _ else _) = _
  rw [if_neg hlength, htype, readUInt32BE_writeUInt32BE (Nat.lt_succ_of_le hid)]
  rfl

/-- An id that does not fit in 31 bits. -/
theorem decode_encode_high :
    ∃ buf, encodeBinaryFrame .tcpData (.integer 0x80000000) [1, 2] = .ok buf ∧
      decodeBinaryFrame buf = .ok ⟨.tcpData, 0x80000000, [1, 2]⟩ :=
  (decode_encodeBinaryFrame (by decide) (by decide)).1

end Sencho.Streams
