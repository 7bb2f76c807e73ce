import Mathlib.Algebra.Group.Int.Defs
import Mathlib.Algebra.Group.Nat.Defs
import Mathlib.Data.List.Basic

/-!
# Accesses to JSON values

A JSON library that reads a constant document: the member of an object with a
key, and the conversion of a value to an unsigned type.  Both throw on a value
of another kind.  The first has the presence of the key as a precondition, and
the second casts whatever number or boolean it finds.
-/

namespace ProcessManagerService.JsonValues

abbrev Text := List Char

/-- A JSON value as it is stored after parsing.  Integers have a type of their
own for those that are not negative; the other numbers are floating point
numbers, which are rational.  A key is looked up by the first member that has
it. -/
inductive Json where
  | null
  | boolean (value : Bool)
  | numberUnsigned (value : UInt64)
  | numberInteger (value : Int64)
  | numberFloat (value : Rat)
  | string (value : Text)
  | array (elements : List Json)
  | object (members : List (Text × Json))

/-- The errors 302 and 305 of the library. -/
inductive TypeError where
  | notANumber
  | notAnObject
  deriving DecidableEq

/-- The result of an access. -/
inductive Access (Value : Type*) where
  | value (value : Value)
  | throws (error : TypeError)
  | undefined

namespace Access

variable {Value Result : Type*}

def bind (access : Access Value) (next : Value → Access Result) : Access Result :=
  match access with
  | value found => next found
  | throws error => throws error
  | undefined => undefined

theorem bind_eq_value {access : Access Value} {next : Value → Access Result}
    {result : Result} :
    access.bind next = .value result ↔
      ∃ found, access = .value found ∧ next found = .value result := by
  cases access <;> simp [bind]

theorem bind_throws {access : Access Value} {next : Value → Access Result} :
    (∃ error, access.bind next = .throws error) ↔
      (∃ error, access = .throws error) ∨
        ∃ found, access = .value found ∧ ∃ error, next found = .throws error := by
  cases access <;> simp [bind]

end Access

namespace Json

/-- `operator[]` of a constant value. -/
def member (json : Json) (key : Text) : Access Json :=
  match json with
  | object members =>
      match members.lookup key with
      | some value => .value value
      | none => .undefined
  | _ => .throws .notAnObject

/-- A cast to an integer drops the fraction. -/
def truncate (value : Rat) : Int := value.num.tdiv value.den

/-- `get` of an unsigned type with this number of bits.  Integers wrap around; a
floating point number is undefined when the integer does not fit. -/
def getUnsigned (bits : ℕ) : Json → Access ℕ
  | boolean value => .value value.toNat
  | numberUnsigned value => .value (value.toNat % 2 ^ bits)
  | numberInteger value => .value (value.toInt % 2 ^ bits).toNat
  | numberFloat value =>
      if 0 ≤ truncate value ∧ truncate value < 2 ^ bits then .value (truncate value).toNat
      else .undefined
  | _ => .throws .notANumber

/-- The integer that the value is, if it is one. -/
def integer : Json → Option Int
  | numberUnsigned value => some value.toNat
  | numberInteger value => some value.toInt
  | _ => none

/-- A number or a boolean. -/
def isScalar : Json → Bool
  | boolean _ => true
  | numberUnsigned _ => true
  | numberInteger _ => true
  | numberFloat _ => true
  | _ => false

/-- A number or a boolean that can be cast: the integer part of a floating point
number fits. -/
def Castable (bits : ℕ) : Json → Prop
  | numberFloat value => 0 ≤ truncate value ∧ truncate value < 2 ^ bits
  | json => json.isScalar = true

theorem member_eq_value {json value : Json} {key : Text} :
    json.member key = .value value ↔
      ∃ members, json = object members ∧ members.lookup key = some value := by
  cases json with
  | object members => cases hlookup : members.lookup key <;> simp [Json.member, hlookup]
  | _ => simp [Json.member]

theorem member_throws {json : Json} {key : Text} :
    (∃ error, json.member key = .throws error) ↔ ∀ members, json ≠ object members := by
  cases json with
  | object members => cases hlookup : members.lookup key <;> simp [Json.member, hlookup]
  | _ => simp [Json.member]

theorem getUnsigned_value_iff {json : Json} {bits : ℕ} :
    (∃ number, json.getUnsigned bits = .value number) ↔ json.Castable bits := by
  cases json with
  | numberFloat value =>
      rw [getUnsigned, Castable]
      split
      next hfits => simp [hfits]
      next hfits => simp [hfits]
  | _ => simp [getUnsigned, Castable, isScalar]

theorem getUnsigned_throws_iff {json : Json} {bits : ℕ} :
    (∃ error, json.getUnsigned bits = .throws error) ↔ json.isScalar = false := by
  cases json with
  | numberFloat value =>
      rw [getUnsigned]
      split <;> simp [isScalar]
  | _ => simp [getUnsigned, isScalar]

/-- An integer that fits is not changed by the cast. -/
theorem getUnsigned_of_integer {json : Json} {bits number : ℕ}
    (hinteger : json.integer = some (number : Int)) (hfits : number < 2 ^ bits) :
    json.getUnsigned bits = .value number := by
  cases json with
  | numberUnsigned value =>
      have hnumber : value.toNat = number := Int.ofNat.inj (Option.some.inj hinteger)
      rw [getUnsigned, hnumber, Nat.mod_eq_of_lt hfits]
  | numberInteger value =>
      have hnumber : value.toInt = number := Option.some.inj hinteger
      rw [getUnsigned, hnumber]
      congr 1
      have hpower : ((2 : Int) ^ bits) = ((2 ^ bits : ℕ) : Int) := by norm_cast
      rw [hpower, ← Int.natCast_emod, Int.toNat_natCast, Nat.mod_eq_of_lt hfits]
  | _ => cases hinteger

end Json

end ProcessManagerService.JsonValues
