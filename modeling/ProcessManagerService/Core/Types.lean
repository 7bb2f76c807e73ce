import Mathlib.Logic.Function.Basic
import ProcessManagerService.Library.LittleEndian

/-!
# Identifiers

`Types.cpp` tells the identifiers of modules and of services apart by the upper
byte, which it reads and writes through a union of the number with its four
bytes.  A value that has no such byte yet can be converted to either kind, and
a gate is to say beforehand whether the conversion accepts it.
-/

namespace ProcessManagerService.Types

open LittleEndian

abbrev Identifier := Int32
abbrev ModuleIdentifier := Int32
abbrev ServiceIdentifier := Int32

def ModuleIdentifierCode : Int8 := 0x2A
def ServiceIdentifierCode : Int8 := 0x34

/-- The bits of an identifier, as those of four bytes. -/
def word (identifier : Identifier) : BitVec (8 * 4) := identifier.toBitVec

/-- The four stored bytes.  The other member of the union is what they spell. -/
@[ext]
structure IdentifierUnion where
  bytes : Fin 4 → Int8

namespace IdentifierUnion

/-- Reading `identifierUnion.identifier`. -/
def identifier (identifierUnion : IdentifierUnion) : Identifier :=
  Int32.ofBitVec (wordOf fun index => (identifierUnion.bytes index).toBitVec)

/-- The union after `identifierUnion.identifier = identifier`. -/
def ofIdentifier (identifier : Identifier) : IdentifierUnion where
  bytes index := Int8.ofBitVec (byteOf (word identifier) index)

/-- The union after `identifierUnion.bytes[index] = byte`. -/
def setByte (identifierUnion : IdentifierUnion) (index : Fin 4) (byte : Int8) :
    IdentifierUnion where
  bytes := Function.update identifierUnion.bytes index byte

@[simp]
theorem identifier_ofIdentifier (identifier : Identifier) :
    (ofIdentifier identifier).identifier = identifier := by
  exact congrArg Int32.ofBitVec (wordOf_byteOf (word identifier))

@[simp]
theorem ofIdentifier_identifier (identifierUnion : IdentifierUnion) :
    ofIdentifier identifierUnion.identifier = identifierUnion := by
  have hbytes := byteOf_wordOf fun index => (identifierUnion.bytes index).toBitVec
  apply IdentifierUnion.ext
  funext index
  exact Int8.toBitVec_inj.mp (congrFun hbytes index)

@[simp]
theorem bytes_setByte_self (identifierUnion : IdentifierUnion) (index : Fin 4) (byte : Int8) :
    (identifierUnion.setByte index byte).bytes index = byte := by
  simp only [setByte, Function.update_self]

theorem bytes_setByte_of_ne (identifierUnion : IdentifierUnion) {index other : Fin 4}
    (byte : Int8) (hne : other ≠ index) :
    (identifierUnion.setByte index byte).bytes other = identifierUnion.bytes other := by
  simp only [setByte, Function.update_of_ne hne]

end IdentifierUnion

/-- `identifierUnion.bytes[3]` of an identifier. -/
def codeByte (identifier : Identifier) : Int8 :=
  (IdentifierUnion.ofIdentifier identifier).bytes 3

/-- The test for an upper byte. -/
def hasCode (code : Int8) (identifier : Identifier) : Bool :=
  codeByte identifier == code

/-- The conversion of a value without an upper byte. -/
def toCode (code : Int8) (identifier : Identifier) : Identifier :=
  let identifierUnion := IdentifierUnion.ofIdentifier identifier
  if identifierUnion.bytes 3 ≠ 0 then
    (IdentifierUnion.ofIdentifier (-1)).identifier
  else
    (identifierUnion.setByte 3 code).identifier

def isModuleIdentifier : Identifier → Bool := hasCode ModuleIdentifierCode

def toModuleIdentifier : Identifier → ModuleIdentifier := toCode ModuleIdentifierCode

/-- The condition is an assignment, whose value is the byte that has been stored. -/
def canBeModuleIdentifier (identifier : Identifier) : Bool :=
  let identifierUnion := (IdentifierUnion.ofIdentifier identifier).setByte 3 0
  if identifierUnion.bytes 3 ≠ 0 then false else true

/-- The test is the one of `isServiceIdentifier`. -/
def canBeServiceIdentifier : Identifier → Bool := hasCode ServiceIdentifierCode

def isServiceIdentifier : Identifier → Bool := hasCode ServiceIdentifierCode

def toServiceIdentifier : Identifier → ServiceIdentifier := toCode ServiceIdentifierCode

/-! ## The conversions -/

section Conversions

variable {code : Int8} {identifier : Identifier}

theorem toCode_of_codeByte_ne (hbyte : codeByte identifier ≠ 0) :
    toCode code identifier = -1 := by
  rw [toCode]
  exact (if_pos hbyte).trans (IdentifierUnion.identifier_ofIdentifier (-1))

theorem ofIdentifier_toCode (hbyte : codeByte identifier = 0) :
    IdentifierUnion.ofIdentifier (toCode code identifier) =
      (IdentifierUnion.ofIdentifier identifier).setByte 3 code := by
  have haccepted : toCode code identifier =
      ((IdentifierUnion.ofIdentifier identifier).setByte 3 code).identifier :=
    if_neg (not_not.mpr hbyte)
  rw [haccepted, IdentifierUnion.ofIdentifier_identifier]

/-- A conversion accepts the values without an upper byte.  Its code must not be
the upper byte of -1. -/
theorem hasCode_toCode (hcode : code ≠ -1) :
    hasCode code (toCode code identifier) = true ↔ codeByte identifier = 0 := by
  rw [hasCode, beq_iff_eq]
  by_cases hbyte : codeByte identifier = 0
  · apply iff_of_true _ hbyte
    rw [codeByte, ofIdentifier_toCode hbyte, IdentifierUnion.bytes_setByte_self]
  · apply iff_of_false _ hbyte
    have hrejected : codeByte (-1) = -1 := by decide
    rw [toCode_of_codeByte_ne hbyte, hrejected]
    exact hcode.symm

theorem extractLsb'_toCode (hbyte : codeByte identifier = 0) :
    (toCode code identifier).toBitVec.extractLsb' 0 24 =
      identifier.toBitVec.extractLsb' 0 24 := by
  apply extractLsb'_congr (by decide : 3 ≤ 4)
  intro index hlow
  have hne : index ≠ 3 := Fin.ne_of_val_ne (Nat.ne_of_lt hlow)
  have hunion : IdentifierUnion.ofIdentifier (toCode code identifier) = _ :=
    ofIdentifier_toCode hbyte
  have hbytes : (IdentifierUnion.ofIdentifier (toCode code identifier)).bytes index =
      (IdentifierUnion.ofIdentifier identifier).bytes index := by
    rw [hunion, IdentifierUnion.bytes_setByte_of_ne _ code hne]
  exact Int8.toBitVec_inj.mpr hbytes

end Conversions

/-- A conversion that rejects returns -1, and one that accepts keeps the low bits. -/
structure ConvertsExactly (accepted : Identifier → Bool) (convert : Identifier → Identifier)
    (identifier : Identifier) : Prop where
  rejected : accepted (convert identifier) = false → convert identifier = -1
  kept : accepted (convert identifier) = true →
    (convert identifier).toBitVec.extractLsb' 0 24 = identifier.toBitVec.extractLsb' 0 24

theorem convertsExactly_toCode {code : Int8} (hcode : code ≠ -1) (identifier : Identifier) :
    ConvertsExactly (hasCode code) (toCode code) identifier := by
  constructor
  · intro hrejected
    apply toCode_of_codeByte_ne
    intro hbyte
    rw [(hasCode_toCode hcode).mpr hbyte] at hrejected
    cases hrejected
  · intro haccepted
    exact extractLsb'_toCode ((hasCode_toCode hcode).mp haccepted)

theorem codes_apart (identifier : Identifier) :
    ¬ (isModuleIdentifier identifier = true ∧ isServiceIdentifier identifier = true) := by
  rintro ⟨hmodule, hservice⟩
  have hcodes := (beq_iff_eq.mp hmodule).symm.trans (beq_iff_eq.mp hservice)
  exact absurd hcodes (by decide)

/-! ## The gates -/

/-- The byte has been overwritten before it is tested, so each value passes. -/
theorem canBeModuleIdentifier_eq_true (identifier : Identifier) :
    canBeModuleIdentifier identifier = true := by
  rw [canBeModuleIdentifier]
  exact if_neg (not_not.mpr (IdentifierUnion.bytes_setByte_self _ 3 0))

/-- The gate for modules is right about the values that the conversion accepts. -/
theorem canBeModuleIdentifier_agrees_iff (identifier : Identifier) :
    (canBeModuleIdentifier identifier = true ↔
      isModuleIdentifier (toModuleIdentifier identifier) = true) ↔ codeByte identifier = 0 := by
  have hconverted : isModuleIdentifier (toModuleIdentifier identifier) = true ↔
      codeByte identifier = 0 :=
    hasCode_toCode (by decide)
  rw [hconverted, canBeModuleIdentifier_eq_true]
  exact iff_true_left rfl

/-- The gate for services lets the values through that are services already, and
is right about those that are neither services nor accepted by the conversion. -/
theorem canBeServiceIdentifier_agrees_iff (identifier : Identifier) :
    (canBeServiceIdentifier identifier = true ↔
      isServiceIdentifier (toServiceIdentifier identifier) = true) ↔
      codeByte identifier ≠ 0 ∧ codeByte identifier ≠ ServiceIdentifierCode := by
  have hconverted : isServiceIdentifier (toServiceIdentifier identifier) = true ↔
      codeByte identifier = 0 :=
    hasCode_toCode (by decide)
  have hgate : canBeServiceIdentifier identifier = true ↔
      codeByte identifier = ServiceIdentifierCode :=
    beq_iff_eq
  have hcode : ServiceIdentifierCode ≠ 0 := by decide
  rw [hconverted, hgate]
  constructor
  · intro hagree
    have hne : codeByte identifier ≠ 0 := fun hzero =>
      hcode ((hagree.mpr hzero).symm.trans hzero)
    exact ⟨hne, fun hservice => hne (hagree.mp hservice)⟩
  · rintro ⟨hzero, hservice⟩
    exact iff_of_false hservice hzero

/-- The gates say what the conversions do, the conversions are exact, and no
identifier is of both kinds. -/
structure GatesAgree (identifier : Identifier) : Prop where
  moduleGate : canBeModuleIdentifier identifier = true ↔
    isModuleIdentifier (toModuleIdentifier identifier) = true
  serviceGate : canBeServiceIdentifier identifier = true ↔
    isServiceIdentifier (toServiceIdentifier identifier) = true
  moduleConversion : ConvertsExactly isModuleIdentifier toModuleIdentifier identifier
  serviceConversion : ConvertsExactly isServiceIdentifier toServiceIdentifier identifier
  apart : ¬ (isModuleIdentifier identifier = true ∧ isServiceIdentifier identifier = true)

/-- The conversions are exact and the kinds are apart for every value, but for no
value are both gates right: one of them is right only without an upper byte, the
other one only with an upper byte. -/
theorem gatesAgree_never (identifier : Identifier) :
    ConvertsExactly isModuleIdentifier toModuleIdentifier identifier ∧
      ConvertsExactly isServiceIdentifier toServiceIdentifier identifier ∧
      ¬ (isModuleIdentifier identifier = true ∧ isServiceIdentifier identifier = true) ∧
      ¬ GatesAgree identifier := by
  refine ⟨convertsExactly_toCode (by decide) identifier,
    convertsExactly_toCode (by decide) identifier, codes_apart identifier, ?_⟩
  intro hagree
  have hzero := (canBeModuleIdentifier_agrees_iff identifier).mp hagree.moduleGate
  have hother := (canBeServiceIdentifier_agrees_iff identifier).mp hagree.serviceGate
  exact hother.1 hzero

/-- 0 can be converted to a service identifier, which the gate denies, and
0x01000000 cannot be converted to a module identifier, which the gate affirms. -/
theorem gates_disagree :
    canBeServiceIdentifier 0 = false ∧ toServiceIdentifier 0 = 0x34000000 ∧
      isServiceIdentifier (toServiceIdentifier 0) = true ∧ ¬ GatesAgree 0 ∧
      canBeModuleIdentifier 0x01000000 = true ∧ toModuleIdentifier 0x01000000 = -1 ∧
      isModuleIdentifier (toModuleIdentifier 0x01000000) = false ∧ ¬ GatesAgree 0x01000000 := by
  have hservice : isServiceIdentifier (toServiceIdentifier 0) = true :=
    (hasCode_toCode (by decide)).mpr (by decide)
  have hrejected : toModuleIdentifier 0x01000000 = -1 := toCode_of_codeByte_ne (by decide)
  have hmodule : isModuleIdentifier (toModuleIdentifier 0x01000000) = false := by
    rw [hrejected]
    decide
  refine ⟨by decide, by decide +kernel, hservice, ?_, by decide, hrejected, hmodule, ?_⟩
  · intro hagree
    have hgate := hagree.serviceGate.mpr hservice
    exact absurd hgate (by decide)
  · intro hagree
    have hconverted := hagree.moduleGate.mp (by decide)
    rw [hmodule] at hconverted
    cases hconverted

end ProcessManagerService.Types
