import ProcessManagerService.Library.FrameStream

/-!
# Messages and their header layout

`Communication.hpp` declares a message as a header, an operation code and the
32-bit size of the body, followed by the body bytes.  The header goes on the
wire as the memory image of the struct, so its layout is a property of the
operation type `T` alone; it is modelled as a class that carries the fact that
reading the image back gives the header.
-/

namespace ProcessManagerService.Communication

open FrameStream

abbrev Byte := UInt8

structure MessageHeader (T : Type*) where
  operationCode : T
  size : UInt32
  deriving DecidableEq, Inhabited

structure Message (T : Type*) where
  header : MessageHeader T
  body : List Byte
  deriving DecidableEq, Inhabited

/-- The memory image of `MessageHeader<T>`; `size` is its `sizeof`. -/
class HeaderLayout (T : Type*) where
  size : ℕ
  size_pos : 0 < size
  encode : MessageHeader T → List Byte
  decode : List Byte → MessageHeader T
  length_encode : ∀ header, (encode header).length = size
  decode_encode : ∀ header, decode (encode header) = header

namespace Message

variable {T : Type*} [HeaderLayout T]

/-- Messages as frames: the header announces the size of the body. -/
def format (T : Type*) [HeaderLayout T] : FrameFormat (MessageHeader T) (Message T) Byte where
  headerSize := HeaderLayout.size T
  headerSize_pos := HeaderLayout.size_pos
  encodeHeader := HeaderLayout.encode
  decodeHeader := HeaderLayout.decode
  length_encodeHeader := HeaderLayout.length_encode
  decode_encodeHeader := HeaderLayout.decode_encode
  payloadSize header := header.size.toNat
  header := Message.header
  payload := Message.body
  frame := Message.mk
  frame_eta _ := rfl

/-- The bytes of a message on the wire: the header followed by the body. -/
def encode (message : Message T) : List Byte :=
  HeaderLayout.encode message.header ++ message.body

/-- The header announces the body the message carries. -/
def WellSized (message : Message T) : Prop :=
  message.header.size.toNat = message.body.length

theorem encode_eq_format (message : Message T) :
    message.encode = (format T).encode message := rfl

omit [HeaderLayout T] in
/-- `header.size = body.size()`, as every request sets it, announces the body
as long as its length fits the 32-bit field. -/
theorem wellSized_of_size_eq {message : Message T}
    (hsize : message.header.size = UInt32.ofNat message.body.length)
    (hlength : message.body.length < UInt32.size) : message.WellSized := by
  rw [WellSized, hsize, UInt32.toNat_ofNat']
  exact Nat.mod_eq_of_lt hlength

end Message

/-! ## The little-endian layout of 32-bit operation codes -/

/-- The four bytes of a 32-bit word, least significant first. -/
def wordBytes (word : UInt32) : List Byte :=
  [UInt8.ofNat word.toNat, UInt8.ofNat (word.toNat / 0x100),
    UInt8.ofNat (word.toNat / 0x10000), UInt8.ofNat (word.toNat / 0x1000000)]

def wordOfBytes : List Byte → UInt32
  | [first, second, third, fourth] =>
      UInt32.ofNat (first.toNat + 0x100 * second.toNat + 0x10000 * third.toNat +
        0x1000000 * fourth.toNat)
  | _ => 0

theorem wordOfBytes_wordBytes (word : UInt32) : wordOfBytes (wordBytes word) = word := by
  apply UInt32.toNat_inj.mp
  have hword := word.toNat_lt
  simp only [wordBytes, wordOfBytes, UInt8.toNat_ofNat', UInt32.toNat_ofNat']
  omega

/-- The layout of an operation type whose values are the 32-bit codes `code`:
the code and then the size, both as little-endian words. -/
@[reducible]
def littleEndianLayout {T : Type*} (code : T → UInt32) (ofCode : UInt32 → T)
    (hcode : ∀ operation, ofCode (code operation) = operation) : HeaderLayout T where
  size := 8
  size_pos := by decide
  encode header := wordBytes (code header.operationCode) ++ wordBytes header.size
  decode bytes := ⟨ofCode (wordOfBytes (bytes.take 4)), wordOfBytes (bytes.drop 4)⟩
  length_encode _ := rfl
  decode_encode header := by
    have htake : (wordBytes (code header.operationCode) ++ wordBytes header.size).take 4 =
        wordBytes (code header.operationCode) := rfl
    have hdrop : (wordBytes (code header.operationCode) ++ wordBytes header.size).drop 4 =
        wordBytes header.size := rfl
    rw [htake, hdrop, wordOfBytes_wordBytes, wordOfBytes_wordBytes, hcode]

/-- A bare 32-bit operation code. -/
instance : HeaderLayout UInt32 := littleEndianLayout id id fun _ => rfl

end ProcessManagerService.Communication
