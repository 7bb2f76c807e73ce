import Mathlib.Data.List.GetD

/-!
# Little-endian words

A word of `count` bytes is stored with its lowest byte first.  Reading the bytes
of a word and putting a word together from bytes are inverse to each other, so a
memory cell can be looked at in either way.
-/

namespace ProcessManagerService.LittleEndian

variable {count : ℕ}

/-- Byte `index` holds the bits from `8 * index` on. -/
def byteOf (word : BitVec (8 * count)) (index : Fin count) : BitVec 8 :=
  word.extractLsb' (8 * index) 8

/-- The word with the given bytes, lowest first. -/
def wordOf (bytes : Fin count → BitVec 8) : BitVec (8 * count) :=
  (BitVec.ofBoolListLE (List.ofFn fun bit : Fin (8 * count) =>
    (bytes ⟨bit / 8, by omega⟩).getLsbD (bit % 8))).cast List.length_ofFn

theorem getLsbD_wordOf (bytes : Fin count → BitVec 8) {index bit : ℕ} (hindex : index < count)
    (hbit : bit < 8) :
    (wordOf bytes).getLsbD (8 * index + bit) = (bytes ⟨index, hindex⟩).getLsbD bit := by
  have hbound : 8 * index + bit < 8 * count := by omega
  have hquotient : (8 * index + bit) / 8 = index := by omega
  have hremainder : (8 * index + bit) % 8 = bit := by omega
  rw [wordOf, BitVec.getLsbD_cast, BitVec.getLsbD_ofBoolListLE,
    List.getD_eq_getElem _ _ (List.length_ofFn.symm ▸ hbound), List.getElem_ofFn]
  simp only [hquotient, hremainder]

theorem byteOf_wordOf (bytes : Fin count → BitVec 8) : byteOf (wordOf bytes) = bytes := by
  funext index
  apply BitVec.eq_of_getLsbD_eq
  intro bit hbit
  rw [byteOf, BitVec.getLsbD_extractLsb', getLsbD_wordOf bytes index.isLt hbit,
    decide_eq_true hbit, Bool.true_and]

/-- Words with equal bytes below a position have equal bits below it. -/
theorem getLsbD_congr {left right : BitVec (8 * count)} {bit : ℕ} (hbit : bit < 8 * count)
    (hbyte : byteOf left ⟨bit / 8, by omega⟩ = byteOf right ⟨bit / 8, by omega⟩) :
    left.getLsbD bit = right.getLsbD bit := by
  have hremainder : bit % 8 < 8 := Nat.mod_lt bit (by decide)
  have hbits := congrArg (fun byte : BitVec 8 => byte.getLsbD (bit % 8)) hbyte
  simpa only [byteOf, BitVec.getLsbD_extractLsb', hremainder, decide_true, Bool.true_and,
    Nat.div_add_mod] using hbits

theorem byteOf_injective : Function.Injective (byteOf : BitVec (8 * count) → _) := by
  intro left right hbytes
  apply BitVec.eq_of_getLsbD_eq
  intro bit hbit
  exact getLsbD_congr hbit (congrFun hbytes _)

theorem wordOf_byteOf (word : BitVec (8 * count)) : wordOf (byteOf word) = word :=
  byteOf_injective (byteOf_wordOf (byteOf word))

/-- Replacing the upper bytes keeps the bits below them. -/
theorem extractLsb'_congr {left right : BitVec (8 * count)} {low : ℕ} (hlow : low ≤ count)
    (hbytes : ∀ index : Fin count, index.val < low → byteOf left index = byteOf right index) :
    left.extractLsb' 0 (8 * low) = right.extractLsb' 0 (8 * low) := by
  apply BitVec.eq_of_getLsbD_eq
  intro bit hbit
  have hsame := getLsbD_congr (by omega) (hbytes ⟨bit / 8, by omega⟩ (by
    change bit / 8 < low
    omega))
  rw [BitVec.getLsbD_extractLsb', BitVec.getLsbD_extractLsb', Nat.zero_add, hsame]

end ProcessManagerService.LittleEndian
