import ProcessManagerService.Core.Outcome
import ProcessManagerService.Library.JsonValues

/-!
# The server configuration

`readFromJson` assigns four fields one after the other from a JSON document,
inside one `try` block.  An exception ends the block and leaves the fields that
were assigned before it; an access whose precondition fails is undefined.
-/

namespace ProcessManagerService.Configuration

open JsonValues

structure ServerConfiguration where
  maxMessageResends : UInt32
  timeBetweenMessageResendsInSeconds : UInt32
  messageBufferSize : UInt32
  listeningPort : UInt32
  deriving DecidableEq

inductive ServerField where
  | maxMessageResends
  | timeBetweenMessageResendsInSeconds
  | messageBufferSize
  | listeningPort
  deriving DecidableEq

namespace ServerField

def key : ServerField → Text
  | maxMessageResends => "MaxMessageResends".toList
  | timeBetweenMessageResendsInSeconds => "TimeBetweenMessageResendsInSeconds".toList
  | messageBufferSize => "MessageBufferSize".toList
  | listeningPort => "ListeningPort".toList

/-- The type that `get` is called with: `uint32_t`, and `uint16_t` for the port. -/
def bits : ServerField → ℕ
  | maxMessageResends => 32
  | timeBetweenMessageResendsInSeconds => 32
  | messageBufferSize => 32
  | listeningPort => 16

def load (config : ServerConfiguration) : ServerField → UInt32
  | maxMessageResends => config.maxMessageResends
  | timeBetweenMessageResendsInSeconds => config.timeBetweenMessageResendsInSeconds
  | messageBufferSize => config.messageBufferSize
  | listeningPort => config.listeningPort

def store (number : UInt32) (config : ServerConfiguration) : ServerField → ServerConfiguration
  | maxMessageResends => { config with maxMessageResends := number }
  | timeBetweenMessageResendsInSeconds =>
      { config with timeBetweenMessageResendsInSeconds := number }
  | messageBufferSize => { config with messageBufferSize := number }
  | listeningPort => { config with listeningPort := number }

/-- The order of the assignments. -/
def order : List ServerField :=
  [maxMessageResends, timeBetweenMessageResendsInSeconds, messageBufferSize, listeningPort]

def read (jsonConfig : Json) (field : ServerField) : Access ℕ :=
  ((jsonConfig.member "ServerConfiguration".toList).bind fun server =>
    server.member field.key).bind fun value => value.getUnsigned field.bits

/-- One statement of the block. -/
def assign (jsonConfig : Json) (field : ServerField) (config : ServerConfiguration) :
    Outcome TypeError ServerConfiguration :=
  match field.read jsonConfig with
  | .value number => .returned (field.store (UInt32.ofNat number) config)
  | .throws error => .thrown error config
  | .undefined => .undefined config

@[simp]
theorem load_store (field : ServerField) (number : UInt32) (config : ServerConfiguration) :
    field.load (field.store number config) = number := by
  cases field <;> rfl

theorem load_store_of_ne {field other : ServerField} (hne : field ≠ other) (number : UInt32)
    (config : ServerConfiguration) :
    field.load (other.store number config) = field.load config := by
  cases field <;> cases other <;> first | rfl | exact absurd rfl hne

theorem mem_order (field : ServerField) : field ∈ order := by
  cases field <;> decide

theorem nodup_order : order.Nodup := by
  decide

/-- A configuration is its fields. -/
@[ext]
theorem eq_of_load {first second : ServerConfiguration}
    (hsame : ∀ field : ServerField, field.load first = field.load second) : first = second := by
  obtain ⟨resends, seconds, size, port⟩ := first
  obtain ⟨otherResends, otherSeconds, otherSize, otherPort⟩ := second
  obtain rfl : resends = otherResends := hsame .maxMessageResends
  obtain rfl : seconds = otherSeconds := hsame .timeBetweenMessageResendsInSeconds
  obtain rfl : size = otherSize := hsame .messageBufferSize
  obtain rfl : port = otherPort := hsame .listeningPort
  rfl

end ServerField

open ServerField

/-- The returned flag and the configuration after the call. -/
def ServerConfiguration.readFromJson (jsonConfig : Json) (config : ServerConfiguration) :
    Option (Bool × ServerConfiguration) :=
  match Outcome.forEach (assign jsonConfig) order config with
  | .returned config => some (true, config)
  | .thrown _ config => some (false, config)
  | .undefined _ => none

namespace ConfigurationReader

/-- What is found under the path of a service: no file, text that does not parse,
or a document. -/
inductive ConfigFile where
  | missing
  | malformed
  | parsed (configJson : Json)

/-- Apart from the log. -/
def readConfig (configJson : Json) (config : ServerConfiguration) :
    Option (Bool × ServerConfiguration) :=
  ServerConfiguration.readFromJson configJson config

def readConfiguration (files : Int32 → ConfigFile) (identifier : Int32)
    (config : ServerConfiguration) : Option (Bool × ServerConfiguration) :=
  match files identifier with
  | .missing => some (false, config)
  | .malformed => some (false, config)
  | .parsed configJson => readConfig configJson config

end ConfigurationReader

/-! ## The block -/

section Block

variable {jsonConfig : Json}

/-- What a statement leaves in the configuration when it does not end the block. -/
def stored (jsonConfig : Json) (config : ServerConfiguration) (field : ServerField) :
    ServerConfiguration :=
  match field.read jsonConfig with
  | .value number => field.store (UInt32.ofNat number) config
  | _ => config

theorem forEach_assign_eq_returned {fields : List ServerField}
    {config next : ServerConfiguration} :
    Outcome.forEach (assign jsonConfig) fields config = .returned next ↔
      (∀ field ∈ fields, ∃ number, field.read jsonConfig = .value number) ∧
        fields.foldl (stored jsonConfig) config = next := by
  induction fields generalizing config with
  | nil => simp [Outcome.forEach]
  | cons field fields ih =>
      rw [Outcome.forEach, List.forall_mem_cons, List.foldl_cons, assign, stored]
      cases hread : field.read jsonConfig with
      | value number => simpa using ih
      | throws error => simp [Outcome.andThen]
      | undefined => simp [Outcome.andThen]

theorem assign_eq_thrown {field : ServerField} {config next : ServerConfiguration}
    {error : TypeError} :
    field.assign jsonConfig config = .thrown error next ↔
      field.read jsonConfig = .throws error ∧ config = next := by
  rw [assign]
  cases field.read jsonConfig <;> simp

/-- An exception ends the block at the first field that throws. -/
theorem forEach_assign_eq_thrown {fields : List ServerField}
    {config next : ServerConfiguration} {error : TypeError} :
    Outcome.forEach (assign jsonConfig) fields config = .thrown error next ↔
      ∃ before failed after, fields = before ++ failed :: after ∧
        (∀ field ∈ before, ∃ number, field.read jsonConfig = .value number) ∧
        failed.read jsonConfig = .throws error ∧
        before.foldl (stored jsonConfig) config = next := by
  rw [Outcome.forEach_eq_thrown]
  constructor
  · rintro ⟨before, failed, after, middle, hsplit, hbefore, hfailed⟩
    obtain ⟨hread, hstored⟩ := forEach_assign_eq_returned.mp hbefore
    obtain ⟨hthrows, hmiddle⟩ := assign_eq_thrown.mp hfailed
    exact ⟨before, failed, after, hsplit, hread, hthrows, hstored.trans hmiddle⟩
  · rintro ⟨before, failed, after, hsplit, hread, hthrows, hstored⟩
    exact ⟨before, failed, after, next, hsplit, forEach_assign_eq_returned.mpr ⟨hread, hstored⟩,
      assign_eq_thrown.mpr ⟨hthrows, rfl⟩⟩

theorem load_foldl_of_not_mem {fields : List ServerField} {field : ServerField}
    (hother : field ∉ fields) (config : ServerConfiguration) :
    field.load (fields.foldl (stored jsonConfig) config) = field.load config := by
  induction fields generalizing config with
  | nil => rfl
  | cons first fields ih =>
      obtain ⟨hne, hrest⟩ := List.ne_and_not_mem_of_not_mem_cons hother
      rw [List.foldl_cons, ih hrest, stored]
      split
      next number hread => exact load_store_of_ne hne _ _
      next => rfl

/-- A field that has been read holds the converted number. -/
theorem load_foldl_of_mem {fields : List ServerField} {field : ServerField} {number : ℕ}
    (hmem : field ∈ fields) (hread : field.read jsonConfig = .value number)
    (config : ServerConfiguration) :
    field.load (fields.foldl (stored jsonConfig) config) = UInt32.ofNat number := by
  induction fields generalizing config with
  | nil => cases hmem
  | cons first fields ih =>
      rw [List.foldl_cons]
      by_cases hlater : field ∈ fields
      · exact ih hlater _
      · obtain rfl : field = first := (List.mem_cons.mp hmem).resolve_right hlater
        rw [load_foldl_of_not_mem hlater, stored, hread, load_store]

/-- `readFromJson` reports failure exactly when a field throws and all fields
before it can be read; these are stored then. -/
theorem readFromJson_eq_false {previous config : ServerConfiguration} :
    ServerConfiguration.readFromJson jsonConfig previous = some (false, config) ↔
      ∃ before failed after, order = before ++ failed :: after ∧
        (∀ field ∈ before, ∃ number, field.read jsonConfig = .value number) ∧
        (∃ error, failed.read jsonConfig = .throws error) ∧
        before.foldl (stored jsonConfig) previous = config := by
  rw [ServerConfiguration.readFromJson]
  constructor
  · intro hfailed
    cases hblock : Outcome.forEach (assign jsonConfig) order previous with
    | returned next =>
        rw [hblock] at hfailed
        cases hfailed
    | thrown error next =>
        rw [hblock] at hfailed
        cases hfailed
        obtain ⟨before, failed, after, hsplit, hbefore, hthrows, hstored⟩ :=
          forEach_assign_eq_thrown.mp hblock
        exact ⟨before, failed, after, hsplit, hbefore, ⟨error, hthrows⟩, hstored⟩
    | undefined next =>
        rw [hblock] at hfailed
        cases hfailed
  · rintro ⟨before, failed, after, hsplit, hbefore, ⟨error, hthrows⟩, hstored⟩
    rw [forEach_assign_eq_thrown.mpr ⟨before, failed, after, hsplit, hbefore, hthrows,
      hstored⟩]

end Block

end ProcessManagerService.Configuration
