import ProcessManagerService.Worker.Notifications

/-!
# Decoding of module records

A record in the database is decoded in two ways at once: the types of its fields
are checked one after the other, but the accessor of a field throws where the
field is missing, and the number of the port is cut to sixteen bits.  This file
compares the decoder with the record that a document holds, and with the port to
which a notification goes.
-/

namespace ProcessManagerService.Worker

open Communication ModulesCollection

def Element.IsUtf8 : Element → Prop
  | .utf8 _ => True
  | _ => False

/-- The four fields have their types, the port is a 16-bit number, and the record
has the same values. -/
structure Document.Holds (view : Document) (record : ModuleRecord) : Prop where
  identifier : view.lookup "ModuleIdentifier".toList = some (.int32 record.identifier)
  connectionState : view.lookup "ConnectionState".toList = some (.int32 record.connectionState)
  ipAddress : view.lookup "IpAddress".toList = some (.utf8 record.ipAddress)
  port : ∃ port, view.lookup "Port".toList = some (.int32 port) ∧
    port.toInt = record.port.toNat

/-- Of the four fields in their order, the first one that does not have its type
is present with another one. -/
def Document.Mistyped (view : Document) : Prop :=
  ∃ identifier, view.lookup "ModuleIdentifier".toList = some identifier ∧
    (identifier.IsInt32 → ∃ connectionState,
      view.lookup "ConnectionState".toList = some connectionState ∧
      (connectionState.IsInt32 → ∃ ipAddress,
        view.lookup "IpAddress".toList = some ipAddress ∧
        (ipAddress.IsUtf8 → ∃ port,
          view.lookup "Port".toList = some port ∧ ¬ port.IsInt32)))

/-! ## The results of the decoder -/

section Decoder

variable {view : Document} {record : ModuleRecord}

theorem Element.forall_utf8_iff {element : Element} {goal : Prop} :
    (∀ text, element = .utf8 text → goal) ↔ (element.IsUtf8 → goal) := by
  cases element with
  | utf8 text => exact ⟨fun hgoal _ => hgoal text rfl, fun hgoal _ _ => hgoal trivial⟩
  | int32 value => exact iff_of_true (fun _ hsame => by cases hsame) False.elim
  | other => exact iff_of_true (fun _ hsame => by cases hsame) False.elim

/-- No record is returned exactly if a wrong type comes before any missing field. -/
theorem viewToModuleRecord_eq_none :
    viewToModuleRecord view = .ok none ↔ view.Mistyped := by
  have hnone : viewToModuleRecord view = .ok none ↔
      ∃ found, viewToModuleRecord view = .ok found ∧ ∀ record, found = some record → False := by
    constructor
    · intro hdecoded
      exact ⟨none, hdecoded, fun record hsame => by cases hsame⟩
    · rintro ⟨found, hdecoded, hnothing⟩
      cases found with
      | none => exact hdecoded
      | some record => exact (hnothing record rfl).elim
  rw [hnone, exists_decoded_iff fun _ => False]
  simp only [Element.forall_utf8_iff]
  rfl

/-- The record that a document holds is what the decoder returns for it. -/
theorem viewToModuleRecord_of_holds (hholds : view.Holds record) :
    viewToModuleRecord view = .ok (some record) := by
  obtain ⟨port, hport, hnumber⟩ := hholds.port
  exact viewToModuleRecord_eq_some.mpr ⟨hholds.identifier, hholds.connectionState,
    hholds.ipAddress, port, hport, ofNat_of_toInt_eq hnumber⟩

end Decoder

/-! ## Notifications -/

variable {TransactionCode : Type*} [OfNat TransactionCode 19]
  (surroundings : Surroundings TransactionCode) {view : Document}

/-- The record that a document holds is returned, no record is returned for any
other document, and a request to the module with this document goes to the port
that is stored in it. -/
structure DecodesExactly (view : Document) : Prop where
  accepts : ∀ record, view.Holds record → viewToModuleRecord view = .ok (some record)
  rejects : (∀ record, ¬ view.Holds record) → viewToModuleRecord view = .ok none
  notifies : ∀ entry worker next datagram, surroundings.findOne entry.1 = .ok (some view) →
    ContextWorker.sendServiceRequest surroundings entry worker = .returned next →
    next.sent = worker.sent ++ [datagram] →
    ∃ port, view.lookup "Port".toList = some (.int32 port) ∧
      port.toInt = datagram.1.port.toNat

/-- What is sent to a module goes to the port of its decoded record. -/
theorem decoded_of_sent {entry : Int32 × Any} {worker next : ContextWorker}
    {datagram : Endpoint × List Byte} (hfind : surroundings.findOne entry.1 = .ok (some view))
    (hreturned : ContextWorker.sendServiceRequest surroundings entry worker = .returned next)
    (hsent : next.sent = worker.sent ++ [datagram]) :
    ∃ record, viewToModuleRecord view = .ok (some record) ∧
      record.port = datagram.1.port := by
  rw [ContextWorker.sendServiceRequest, getModule_of_find hfind] at hreturned
  cases hdecoded : viewToModuleRecord view with
  | error error =>
      rw [hdecoded] at hreturned
      cases hreturned
  | ok found =>
      rw [hdecoded] at hreturned
      cases found with
      | none =>
          obtain rfl := Outcome.returned.inj hreturned
          exact absurd (List.self_eq_append_right.mp hsent) (List.cons_ne_nil _ _)
      | some record =>
          cases haddress : surroundings.addressFromString record.ipAddress with
          | none =>
              simp only [haddress] at hreturned
              cases hreturned
          | some address =>
              simp only [haddress] at hreturned
              obtain rfl := Outcome.returned.inj hreturned
              obtain rfl := List.singleton_inj.mp (List.append_cancel_left hsent)
              exact ⟨record, rfl, rfl⟩

/-- Decoding is exact for the documents that hold a record, and for those in
which the first field without its type is there.  A field that is missing before
ends in an exception, and a port out of range in a record with another port. -/
theorem decodesExactly_iff (view : Document) :
    DecodesExactly surroundings view ↔ (∃ record, view.Holds record) ∨ view.Mistyped := by
  constructor
  · intro hexact
    by_cases hholds : ∃ record, view.Holds record
    · exact .inl hholds
    · have hnone := hexact.rejects fun record hrecord => hholds ⟨record, hrecord⟩
      exact .inr (viewToModuleRecord_eq_none.mp hnone)
  · intro hview
    refine ⟨fun record => viewToModuleRecord_of_holds, ?_, ?_⟩
    · intro hnot
      rcases hview with ⟨record, hholds⟩ | hmistyped
      · exact absurd hholds (hnot record)
      · exact viewToModuleRecord_eq_none.mpr hmistyped
    · intro entry worker next datagram hfind hreturned hsent
      obtain ⟨decoded, hdecoded, hport⟩ := decoded_of_sent surroundings hfind hreturned hsent
      rcases hview with ⟨record, hholds⟩ | hmistyped
      · have hsame := (viewToModuleRecord_of_holds hholds).symm.trans hdecoded
        cases hsame
        exact hport ▸ hholds.port
      · have hnone := (viewToModuleRecord_eq_none.mpr hmistyped).symm.trans hdecoded
        cases hnone

/-- A record of a module with these elements for its port. -/
private def recordWith (port : Document) : Document :=
  [("ModuleIdentifier".toList, .int32 7), ("ConnectionState".toList, .int32 1),
    ("IpAddress".toList, .utf8 "10.0.0.8".toList)] ++ port

/-- A collection with this record for each module. -/
private def storing (port : Document) : Surroundings UInt32 where
  codec := .plain
  serviceIdentifier := 0x34000001
  copyFrom _ := none
  findOne _ := .ok (some (recordWith port))
  addressFromString _ := some [10, 0, 0, 8]

/-- A record with port 65616 is decoded as one with port 80, to which a request
is sent, and a record without a port ends in an exception. -/
theorem wrapped_port_is_decoded :
    viewToModuleRecord (recordWith [("Port".toList, .int32 65616)]) =
        .ok (some ⟨80, 7, 1, "10.0.0.8".toList⟩) ∧
      (∃ next message, ContextWorker.sendServiceRequest
          (storing [("Port".toList, .int32 65616)]) (7, ⟨[], []⟩) (.create ⟨[]⟩ ⟨[]⟩) =
          .returned next ∧ next.sent = [(⟨[10, 0, 0, 8], 80⟩, message)]) ∧
      ¬ DecodesExactly (storing [("Port".toList, .int32 65616)])
        (recordWith [("Port".toList, .int32 65616)]) ∧
      viewToModuleRecord (recordWith []) = .error .unsetElement ∧
      ¬ DecodesExactly (storing []) (recordWith []) := by
  have hwrapped : viewToModuleRecord (recordWith [("Port".toList, .int32 65616)]) =
      .ok (some ⟨80, 7, 1, "10.0.0.8".toList⟩) := by
    decide
  have hmissing : viewToModuleRecord (recordWith []) = .error .unsetElement := by
    decide
  refine ⟨hwrapped, ⟨_, _, rfl, rfl⟩, ?_, hmissing, ?_⟩
  · intro hexact
    have hnone := hexact.rejects fun record hholds => by
      obtain ⟨port, hport, hnumber⟩ := hholds.port
      cases hport
      have hbound := record.port.toNat_lt
      have hstored : (65616 : Int32).toInt = 65616 := by decide
      omega
    rw [hwrapped] at hnone
    cases hnone
  · intro hexact
    have hnone := hexact.rejects fun record hholds => by
      obtain ⟨port, hport, -⟩ := hholds.port
      cases hport
    rw [hmissing] at hnone
    cases hnone

end ProcessManagerService.Worker
