import ProcessManagerService.Core.Communication
import ProcessManagerService.Library.PrefixCode

/-!
# Module messages

The messages of `ServiceModule.pb.h` that modules and the service exchange in
UDP datagrams.  The protobuf library is a parameter: a parser, a serialiser that
the parser undoes, and the default instance of the header.
-/

namespace ProcessManagerService.Worker

open Communication

abbrev Text := List Char

/-- `google::protobuf::Any`. -/
structure Any where
  typeUrl : Text
  value : List Byte
  deriving DecidableEq, Inhabited

/-- `ServiceModule::OperationCode`, an open 32-bit enumeration.  The numbers of
its names are not part of the repository. -/
inductive OperationCode where
  | moduleRequest
  | serviceRequest
  | serviceResponse
  | other (value : Fin (UInt32.size - 3))
  deriving DecidableEq

/-- The integer type of the transaction codes is chosen by the generated code. -/
structure Header (TransactionCode : Type*) where
  senderIdentifier : Int32
  operationCode : OperationCode
  transactionCode : TransactionCode
  deriving DecidableEq

/-- `none` stands for a field that is not present, here and below. -/
structure Request where
  request : Option Any
  deriving DecidableEq

structure SubscriptionRequest where
  subscribedType : Text
  deriving DecidableEq

/-- `ServiceModule::Message`. -/
structure ModuleMessage (TransactionCode : Type*) where
  header : Option (Header TransactionCode)
  request : Option Request
  subscriptionRequest : Option SubscriptionRequest
  deriving DecidableEq

/-- The generated code for `ServiceModule::Message`. -/
structure Codec (TransactionCode : Type*) where
  parse : List Byte → Option (ModuleMessage TransactionCode)
  serialize : ModuleMessage TransactionCode → List Byte
  parse_serialize : ∀ message, parse (serialize message) = some message
  defaultHeader : Header TransactionCode

variable {TransactionCode : Type*}

/-- The accessor `header()`: an absent header reads as the default instance. -/
def Codec.headerOf (codec : Codec TransactionCode) (message : ModuleMessage TransactionCode) :
    Header TransactionCode :=
  message.header.getD codec.defaultHeader

/-- The accessor `request()` of a request. -/
def Request.payload (request : Request) : Any :=
  request.request.getD default

/-! ## A codec for 32-bit transaction codes -/

namespace ModuleMessage

private theorem tag_distinct : (1 : Byte) ≠ 0 := by decide

def wordCode : PrefixCode Byte UInt32 :=
  let byte := PrefixCode.symbol Byte
  (byte.pair (byte.pair (byte.pair byte))).via
    (fun bytes => wordOfBytes [bytes.1, bytes.2.1, bytes.2.2.1, bytes.2.2.2])
    (fun word => (UInt8.ofNat word.toNat, UInt8.ofNat (word.toNat / 0x100),
      UInt8.ofNat (word.toNat / 0x10000), UInt8.ofNat (word.toNat / 0x1000000)))
    wordOfBytes_wordBytes

def textCode : PrefixCode Byte Text :=
  .list tag_distinct (wordCode.via (fun word => Char.ofNat word.toNat) Char.val Char.ofNat_toNat)

def anyCode : PrefixCode Byte Any :=
  (textCode.pair (.list tag_distinct (.symbol Byte))).via (fun parts => ⟨parts.1, parts.2⟩)
    (fun any => (any.typeUrl, any.value)) fun _ => rfl

/-- One numbering of the names. -/
def operationNumber : OperationCode → UInt32
  | .moduleRequest => 0
  | .serviceRequest => 1
  | .serviceResponse => 2
  | .other value => UInt32.ofNat (value.val + 3)

def operationOfNumber (number : UInt32) : OperationCode :=
  match number.toNat with
  | 0 => .moduleRequest
  | 1 => .serviceRequest
  | 2 => .serviceResponse
  | value + 3 => if hvalue : value < UInt32.size - 3 then .other ⟨value, hvalue⟩
      else .moduleRequest

theorem operationOfNumber_operationNumber (operationCode : OperationCode) :
    operationOfNumber (operationNumber operationCode) = operationCode := by
  cases operationCode with
  | other value =>
      have hnumber : (UInt32.ofNat (value.val + 3)).toNat = value.val + 3 := by
        rw [UInt32.toNat_ofNat']
        exact Nat.mod_eq_of_lt (Nat.add_lt_of_lt_sub value.isLt)
      rw [operationNumber, operationOfNumber, hnumber]
      exact dif_pos value.isLt
  | _ => rfl

def headerCode : PrefixCode Byte (Header UInt32) :=
  (wordCode.pair (wordCode.pair wordCode)).via
    (fun parts => ⟨⟨parts.1⟩, operationOfNumber parts.2.1, parts.2.2⟩)
    (fun header => (header.senderIdentifier.toUInt32, operationNumber header.operationCode,
      header.transactionCode))
    fun header => by rw [operationOfNumber_operationNumber]

def messageCode : PrefixCode Byte (ModuleMessage UInt32) :=
  let requestCode : PrefixCode Byte Request :=
    (anyCode.option 0 1 tag_distinct).via Request.mk Request.request fun _ => rfl
  let subscriptionCode : PrefixCode Byte SubscriptionRequest :=
    textCode.via SubscriptionRequest.mk SubscriptionRequest.subscribedType fun _ => rfl
  ((headerCode.option 0 1 tag_distinct).pair ((requestCode.option 0 1 tag_distinct).pair
    (subscriptionCode.option 0 1 tag_distinct))).via
      (fun parts => ⟨parts.1, parts.2.1, parts.2.2⟩)
      (fun message => (message.header, message.request, message.subscriptionRequest))
      fun _ => rfl

end ModuleMessage

/-- A codec that stands in for the generated one in concrete runs. -/
def Codec.plain : Codec UInt32 where
  parse := ModuleMessage.messageCode.decodeWhole
  serialize := ModuleMessage.messageCode.encode
  parse_serialize := ModuleMessage.messageCode.decodeWhole_encode
  defaultHeader := ⟨0, .moduleRequest, 0⟩

end ProcessManagerService.Worker
