import ProcessManagerService.Worker.EventsCaches

/-!
# The modules collection

`MongoModulesCollection.cpp` looks a module up in the database and decodes the
BSON document that it finds.  What a query finds is a parameter.  An element
accessor throws on a field that the document does not have.
-/

namespace ProcessManagerService.Worker

/-- What can leave the receive handler of a worker as an exception. -/
inductive WorkerError where
  | unsetElement
  | queryFailed
  | invalidAddress
  deriving DecidableEq

/-- A BSON element, as far as its type matters here. -/
inductive Element where
  | int32 (value : Int32)
  | utf8 (value : Text)
  | other
  deriving DecidableEq

/-- The elements of a `bsoncxx::document::view` with their keys. -/
abbrev Document := List (Text × Element)

structure ModuleRecord where
  port : UInt16
  identifier : Int32
  connectionState : Int32
  ipAddress : Text
  deriving DecidableEq

namespace ModulesCollection

/-- `view[key].type()`, with what the accessor of that type returns. -/
def element (view : Document) (key : Text) : Except WorkerError Element :=
  match view.lookup key with
  | some element => .ok element
  | none => .error .unsetElement

/-- The types are looked at one after the other, until one is wrong. -/
def viewToModuleRecord (view : Document) : Except WorkerError (Option ModuleRecord) := do
  let .int32 modIdentifier ← element view "ModuleIdentifier".toList | return none
  let .int32 connectionState ← element view "ConnectionState".toList | return none
  let .utf8 ipAddress ← element view "IpAddress".toList | return none
  let .int32 port ← element view "Port".toList | return none
  -- the assignment to the 16-bit field keeps the low bits
  return some ⟨UInt16.ofNat port.toUInt32.toNat, modIdentifier, connectionState, ipAddress⟩

def getModule (findOne : Int32 → Except WorkerError (Option Document))
    (moduleIdentifier : Int32) : Except WorkerError (Option ModuleRecord) := do
  let some view ← findOne moduleIdentifier | return none
  viewToModuleRecord view

theorem getModule_of_find {findOne : Int32 → Except WorkerError (Option Document)}
    {moduleIdentifier : Int32} {view : Document}
    (hfind : findOne moduleIdentifier = .ok (some view)) :
    getModule findOne moduleIdentifier = viewToModuleRecord view := by
  rw [getModule, hfind]
  rfl

/-! ## The results of the decoder -/

section Decoder

variable {view : Document} {record : ModuleRecord}

theorem element_bind_eq_ok {Result : Type} {key : Text}
    {next : Element → Except WorkerError Result} {result : Result} :
    (element view key >>= next) = .ok result ↔
      ∃ value, view.lookup key = some value ∧ next value = .ok result := by
  rw [element]
  cases view.lookup key with
  | none => simp [bind, Except.bind]
  | some value => simp [bind, Except.bind]

theorem exists_element_bind {Result : Type} {key : Text}
    {next : Element → Except WorkerError Result} {accepted : Result → Prop} :
    (∃ result, (element view key >>= next) = .ok result ∧ accepted result) ↔
      ∃ value, view.lookup key = some value ∧
        ∃ result, next value = .ok result ∧ accepted result := by
  simp only [element_bind_eq_ok]
  constructor
  · rintro ⟨result, ⟨value, hlookup, hnext⟩, haccepted⟩
    exact ⟨value, hlookup, result, hnext, haccepted⟩
  · rintro ⟨value, hlookup, result, hnext, haccepted⟩
    exact ⟨result, ⟨value, hlookup, hnext⟩, haccepted⟩

/-- A record is returned exactly if the types are right.  Its port is the number
of the document without the upper half. -/
theorem viewToModuleRecord_eq_some :
    viewToModuleRecord view = .ok (some record) ↔
      view.lookup "ModuleIdentifier".toList = some (.int32 record.identifier) ∧
      view.lookup "ConnectionState".toList = some (.int32 record.connectionState) ∧
      view.lookup "IpAddress".toList = some (.utf8 record.ipAddress) ∧
      ∃ port, view.lookup "Port".toList = some (.int32 port) ∧
        UInt16.ofNat port.toUInt32.toNat = record.port := by
  constructor
  · intro hdecoded
    obtain ⟨identifier, hidentifier, hdecoded⟩ := element_bind_eq_ok.mp hdecoded
    cases identifier with
    | utf8 value => cases hdecoded
    | other => cases hdecoded
    | int32 identifier =>
        obtain ⟨connectionState, hstate, hdecoded⟩ := element_bind_eq_ok.mp hdecoded
        cases connectionState with
        | utf8 value => cases hdecoded
        | other => cases hdecoded
        | int32 connectionState =>
            obtain ⟨ipAddress, hipAddress, hdecoded⟩ := element_bind_eq_ok.mp hdecoded
            cases ipAddress with
            | int32 value => cases hdecoded
            | other => cases hdecoded
            | utf8 ipAddress =>
                obtain ⟨port, hport, hdecoded⟩ := element_bind_eq_ok.mp hdecoded
                cases port with
                | utf8 value => cases hdecoded
                | other => cases hdecoded
                | int32 port =>
                    cases hdecoded
                    exact ⟨hidentifier, hstate, hipAddress, port, hport, rfl⟩
  · rintro ⟨hidentifier, hstate, hipAddress, port, hport, hnumber⟩
    apply element_bind_eq_ok.mpr ⟨_, hidentifier, _⟩
    apply element_bind_eq_ok.mpr ⟨_, hstate, _⟩
    apply element_bind_eq_ok.mpr ⟨_, hipAddress, _⟩
    apply element_bind_eq_ok.mpr ⟨_, hport, _⟩
    simp only [hnumber]
    rfl

end Decoder

end ModulesCollection

end ProcessManagerService.Worker
