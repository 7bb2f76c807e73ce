import Mathlib.Data.List.Basic

/-!
# Self-delimiting codes

A prefix code writes a value as symbols in such a way that its decoder, given
the symbols followed by anything else, returns the value and what follows.
Codes of this kind compose: the code of a record is put together from the codes
of its fields, and carries the proof that it can be read back.
-/

namespace ProcessManagerService

structure PrefixCode (Symbol Value : Type*) where
  encode : Value → List Symbol
  decode : List Symbol → Option (Value × List Symbol)
  decode_encode : ∀ value rest, decode (encode value ++ rest) = some (value, rest)

namespace PrefixCode

variable {Symbol Value First Second : Type*}

/-- One symbol stands for itself. -/
def symbol (Symbol : Type*) : PrefixCode Symbol Symbol where
  encode value := [value]
  decode
    | [] => none
    | value :: rest => some (value, rest)
  decode_encode _ _ := rfl

/-- One code after the other. -/
def pair (first : PrefixCode Symbol First) (second : PrefixCode Symbol Second) :
    PrefixCode Symbol (First × Second) where
  encode value := first.encode value.1 ++ second.encode value.2
  decode input := (first.decode input).bind fun head =>
    (second.decode head.2).map fun tail => ((head.1, tail.1), tail.2)
  decode_encode value rest := by
    rw [List.append_assoc, first.decode_encode, Option.bind_some, second.decode_encode]
    rfl

/-- A code for the values that can be built from coded ones. -/
def via (code : PrefixCode Symbol First) (build : First → Value) (take : Value → First)
    (hbuild : ∀ value, build (take value) = value) : PrefixCode Symbol Value where
  encode value := code.encode (take value)
  decode input := (code.decode input).map fun head => (build head.1, head.2)
  decode_encode value rest := by
    rw [code.decode_encode, Option.map_some, hbuild]

section Tagged

variable [DecidableEq Symbol] (absent present : Symbol)

/-- A tag in front says whether there is a value. -/
def option (hdistinct : present ≠ absent) (code : PrefixCode Symbol Value) :
    PrefixCode Symbol (Option Value) where
  encode
    | none => [absent]
    | some value => present :: code.encode value
  decode
    | [] => none
    | tag :: input =>
        if tag = absent then some (none, input)
        else (code.decode input).map fun head => (some head.1, head.2)
  decode_encode value rest := by
    cases value with
    | none => exact if_pos rfl
    | some value =>
        simp only [List.cons_append, if_neg hdistinct, code.decode_encode, Option.map_some]

/-- A tag in front of every element, and another one at the end. -/
def encodeList (code : PrefixCode Symbol Value) : List Value → List Symbol
  | [] => [absent]
  | value :: values => present :: (code.encode value ++ encodeList code values)

/-- `fuel` bounds the number of elements. -/
def decodeList (code : PrefixCode Symbol Value) :
    ℕ → List Symbol → Option (List Value × List Symbol)
  | _, [] => none
  | 0, tag :: input => if tag = absent then some ([], input) else none
  | fuel + 1, tag :: input =>
      if tag = absent then some ([], input)
      else (code.decode input).bind fun head =>
        (decodeList code fuel head.2).map fun tail => (head.1 :: tail.1, tail.2)

omit [DecidableEq Symbol] in
theorem length_le_length_encodeList (code : PrefixCode Symbol Value) (values : List Value) :
    values.length ≤ (encodeList absent present code values).length := by
  induction values with
  | nil => exact Nat.zero_le _
  | cons value values ih =>
      rw [encodeList, List.length_cons, List.length_cons, List.length_append]
      omega

variable {absent present}

theorem decodeList_encodeList (hdistinct : present ≠ absent)
    (code : PrefixCode Symbol Value) {values : List Value} {fuel : ℕ}
    (hfuel : values.length ≤ fuel) (rest : List Symbol) :
    decodeList absent code fuel (encodeList absent present code values ++ rest) =
      some (values, rest) := by
  induction values generalizing fuel with
  | nil => cases fuel <;> exact if_pos rfl
  | cons value values ih =>
      obtain ⟨fuel, rfl⟩ : ∃ less, fuel = less + 1 :=
        ⟨fuel - 1, (Nat.sub_add_cancel (Nat.le_trans (Nat.le_add_left 1 _) hfuel)).symm⟩
      rw [encodeList, List.cons_append, decodeList, if_neg hdistinct, List.append_assoc,
        code.decode_encode, Option.bind_some, ih (Nat.le_of_succ_le_succ hfuel)]
      rfl

def list (hdistinct : present ≠ absent) (code : PrefixCode Symbol Value) :
    PrefixCode Symbol (List Value) where
  encode := encodeList absent present code
  decode input := decodeList absent code input.length input
  decode_encode values rest := by
    refine decodeList_encodeList hdistinct code ?_ rest
    rw [List.length_append]
    exact Nat.le_add_right_of_le (length_le_length_encodeList absent present code values)

end Tagged

/-- Reading a text that is nothing but one encoded value. -/
def decodeWhole (code : PrefixCode Symbol Value) (input : List Symbol) : Option Value :=
  match code.decode input with
  | some (value, []) => some value
  | _ => none

theorem decodeWhole_encode (code : PrefixCode Symbol Value) (value : Value) :
    code.decodeWhole (code.encode value) = some value := by
  have hdecode := code.decode_encode value []
  rw [List.append_nil] at hdecode
  rw [decodeWhole, hdecode]

end PrefixCode

end ProcessManagerService
