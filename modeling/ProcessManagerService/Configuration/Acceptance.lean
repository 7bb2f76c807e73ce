import ProcessManagerService.Configuration.ServerConfiguration

/-!
# Which documents configure the server

A document should be accepted exactly when it holds the four fields as integers
in the ranges of their types.  The conversions accept more: numbers out of range
wrap around, fractions are cut off, booleans count as numbers.  A missing key is
no exception but undefined.  This file says for which documents the call does
what it should, and what a failed call leaves behind.
-/

namespace ProcessManagerService.Configuration

open JsonValues ServerConfiguration ServerField

/-- The document holds each field as an integer in the range of its type, and
the configuration holds these integers. -/
def Specifies (jsonConfig : Json) (config : ServerConfiguration) : Prop :=
  ∃ outer members, jsonConfig = .object outer ∧
    outer.lookup "ServerConfiguration".toList = some (.object members) ∧
    ∀ field : ServerField, ∃ value, members.lookup field.key = some value ∧
      value.integer = some ((field.load config).toNat : Int) ∧
      (field.load config).toNat < 2 ^ field.bits

/-- The call accepts the documents that specify a configuration, and stores it,
and it rejects all others. -/
structure ReadExactly (jsonConfig : Json) (previous : ServerConfiguration) : Prop where
  accepts : ∀ config, Specifies jsonConfig config →
    readFromJson jsonConfig previous = some (true, config)
  rejects : (∀ config, ¬ Specifies jsonConfig config) →
    ∃ config, readFromJson jsonConfig previous = some (false, config)

/-- Of the fields in their order, the first one that is not a number or a boolean
that can be cast is present, and it is neither a number nor a boolean. -/
def StopsAtOther (members : List (Text × Json)) : Prop :=
  ∃ before failed after, order = before ++ failed :: after ∧
    (∀ field ∈ before, ∃ value, members.lookup field.key = some value ∧
      value.Castable field.bits) ∧
    ∃ value, members.lookup failed.key = some value ∧ value.isScalar = false

/-- The document is no object, or it has a `ServerConfiguration` that is no
object or stops at a value of another kind. -/
def Rejects : Json → Prop
  | .object outer => ∃ server, outer.lookup "ServerConfiguration".toList = some server ∧
      ∀ members, server = .object members → StopsAtOther members
  | _ => True

/-! ## Reading a field -/

section Fields

variable {outer members : List (Text × Json)} {field : ServerField}

theorem read_of_members
    (hserver : outer.lookup "ServerConfiguration".toList = some (.object members)) :
    field.read (.object outer) =
      ((Json.object members).member field.key).bind fun value =>
        value.getUnsigned field.bits := by
  rw [ServerField.read, Json.member, hserver]
  rfl

theorem read_value_iff
    (hserver : outer.lookup "ServerConfiguration".toList = some (.object members)) :
    (∃ number, field.read (.object outer) = .value number) ↔
      ∃ value, members.lookup field.key = some value ∧ value.Castable field.bits := by
  rw [read_of_members hserver]
  constructor
  · rintro ⟨number, hread⟩
    obtain ⟨value, hmember, hnumber⟩ := Access.bind_eq_value.mp hread
    obtain ⟨same, hsame, hlookup⟩ := Json.member_eq_value.mp hmember
    cases hsame
    exact ⟨value, hlookup, Json.getUnsigned_value_iff.mp ⟨number, hnumber⟩⟩
  · rintro ⟨value, hlookup, hcastable⟩
    obtain ⟨number, hnumber⟩ := Json.getUnsigned_value_iff.mpr hcastable
    exact ⟨number, Access.bind_eq_value.mpr
      ⟨value, Json.member_eq_value.mpr ⟨members, rfl, hlookup⟩, hnumber⟩⟩

theorem read_throws_iff
    (hserver : outer.lookup "ServerConfiguration".toList = some (.object members)) :
    (∃ error, field.read (.object outer) = .throws error) ↔
      ∃ value, members.lookup field.key = some value ∧ value.isScalar = false := by
  rw [read_of_members hserver, Access.bind_throws]
  constructor
  · rintro (hmember | ⟨value, hmember, hthrows⟩)
    · exact absurd rfl (Json.member_throws.mp hmember members)
    · obtain ⟨same, hsame, hlookup⟩ := Json.member_eq_value.mp hmember
      cases hsame
      exact ⟨value, hlookup, Json.getUnsigned_throws_iff.mp hthrows⟩
  · rintro ⟨value, hlookup, hother⟩
    exact .inr ⟨value, Json.member_eq_value.mpr ⟨members, rfl, hlookup⟩,
      Json.getUnsigned_throws_iff.mpr hother⟩

theorem read_of_missing (hserver : outer.lookup "ServerConfiguration".toList = none) :
    field.read (.object outer) = .undefined := by
  rw [ServerField.read, Json.member, hserver]
  rfl

/-- Another value than an object has no members. -/
theorem read_throws_of_other {server : Json}
    (hserver : outer.lookup "ServerConfiguration".toList = some server)
    (hother : ∀ members, server ≠ .object members) :
    ∃ error, field.read (.object outer) = .throws error := by
  have hmember := Json.member_eq_value.mpr ⟨outer, rfl, hserver⟩
  rw [ServerField.read]
  refine Access.bind_throws.mpr (.inl (Access.bind_throws.mpr (.inr ⟨server, hmember, ?_⟩)))
  exact Json.member_throws.mpr hother

end Fields

/-! ## The document -/

section Documents

variable {jsonConfig : Json} {previous config : ServerConfiguration}

/-- A failure of the first access ends the block before any field is stored. -/
theorem exists_rejected_of_throws
    (hthrows : ∀ field : ServerField, ∃ error, field.read jsonConfig = .throws error) :
    ∃ config, readFromJson jsonConfig previous = some (false, config) :=
  ⟨previous, readFromJson_eq_false.mpr ⟨[], .maxMessageResends, _, rfl, nofun, hthrows _, rfl⟩⟩

/-- In an object, the block fails where the walk through the fields stops. -/
theorem exists_rejected_iff_of_members {outer members : List (Text × Json)}
    (hserver : outer.lookup "ServerConfiguration".toList = some (.object members)) :
    (∃ config, readFromJson (.object outer) previous = some (false, config)) ↔
      StopsAtOther members := by
  constructor
  · rintro ⟨config, hrejected⟩
    obtain ⟨before, failed, after, hsplit, hbefore, hthrows, -⟩ :=
      readFromJson_eq_false.mp hrejected
    exact ⟨before, failed, after, hsplit,
      fun field hmem => (read_value_iff hserver).mp (hbefore field hmem),
      (read_throws_iff hserver).mp hthrows⟩
  · rintro ⟨before, failed, after, hsplit, hbefore, hother⟩
    exact ⟨_, readFromJson_eq_false.mpr ⟨before, failed, after, hsplit,
      fun field hmem => (read_value_iff hserver).mpr (hbefore field hmem),
      (read_throws_iff hserver).mpr hother, rfl⟩⟩

theorem exists_rejected_iff :
    (∃ config, readFromJson jsonConfig previous = some (false, config)) ↔
      Rejects jsonConfig := by
  cases jsonConfig with
  | object outer =>
      cases hserver : outer.lookup "ServerConfiguration".toList with
      | none =>
          apply iff_of_false
          · rintro ⟨config, hrejected⟩
            obtain ⟨-, failed, -, -, -, ⟨error, hthrows⟩, -⟩ := readFromJson_eq_false.mp hrejected
            rw [read_of_missing hserver] at hthrows
            cases hthrows
          · rintro ⟨server, hpresent, -⟩
            rw [hserver] at hpresent
            cases hpresent
      | some server =>
          by_cases hobject : ∃ members, server = .object members
          · obtain ⟨members, rfl⟩ := hobject
            rw [exists_rejected_iff_of_members hserver]
            constructor
            · intro hstops
              refine ⟨_, hserver, fun same hsame => ?_⟩
              cases hsame
              exact hstops
            · rintro ⟨server, hsame, hstops⟩
              obtain rfl := Option.some.inj (hserver.symm.trans hsame)
              exact hstops members rfl
          · have hother : ∀ members, server ≠ .object members :=
              fun members hsame => hobject ⟨members, hsame⟩
            apply iff_of_true
            · exact exists_rejected_of_throws fun field => read_throws_of_other hserver hother
            · exact ⟨server, hserver, fun members hsame => absurd hsame (hother members)⟩
  | _ =>
      apply iff_of_true _ trivial
      exact exists_rejected_of_throws fun field => ⟨_, rfl⟩

theorem readFromJson_of_specifies (hspecifies : Specifies jsonConfig config) :
    readFromJson jsonConfig previous = some (true, config) := by
  obtain ⟨outer, members, rfl, hserver, hfields⟩ := hspecifies
  have hread : ∀ field : ServerField,
      field.read (.object outer) = .value (field.load config).toNat := by
    intro field
    obtain ⟨value, hlookup, hinteger, hfits⟩ := hfields field
    rw [read_of_members hserver]
    exact Access.bind_eq_value.mpr ⟨value, Json.member_eq_value.mpr ⟨members, rfl, hlookup⟩,
      Json.getUnsigned_of_integer hinteger hfits⟩
  have hblock : Outcome.forEach (assign (.object outer)) order previous = .returned config := by
    refine forEach_assign_eq_returned.mpr ⟨fun field _ => ⟨_, hread field⟩, ?_⟩
    ext field
    rw [load_foldl_of_mem (mem_order field) (hread field), UInt32.ofNat_toNat]
  rw [readFromJson, hblock]

end Documents

/-- The call does what it should on the documents that specify a configuration
and on those that stop it at a value of another kind.  On all others it either
accepts a wrong number or is undefined. -/
theorem readExactly_iff (jsonConfig : Json) (previous : ServerConfiguration) :
    ReadExactly jsonConfig previous ↔
      (∃ config, Specifies jsonConfig config) ∨ Rejects jsonConfig := by
  constructor
  · intro hexact
    by_cases hspecifies : ∃ config, Specifies jsonConfig config
    · exact .inl hspecifies
    · have hrejected := hexact.rejects fun config hconfig => hspecifies ⟨config, hconfig⟩
      exact .inr (exists_rejected_iff.mp hrejected)
  · intro hdocument
    refine ⟨fun config => readFromJson_of_specifies, ?_⟩
    intro hnone
    rcases hdocument with ⟨config, hconfig⟩ | hrejects
    · exact absurd hconfig (hnone config)
    · exact exists_rejected_iff.mpr hrejects

/-- A document with this port and valid other fields. -/
private def withPort (port : Json) : Json :=
  .object [("ServerConfiguration".toList, .object [
    ("MaxMessageResends".toList, .numberUnsigned 3),
    ("TimeBetweenMessageResendsInSeconds".toList, .numberUnsigned 5),
    ("MessageBufferSize".toList, .numberUnsigned 4096), ("ListeningPort".toList, port)])]

/-- The port 65616 is accepted as port 80, and a document without a
`ServerConfiguration` is undefined. -/
theorem wrapped_port_is_accepted :
    readFromJson (withPort (.numberUnsigned 65616)) ⟨0, 0, 0, 0⟩ =
        some (true, ⟨3, 5, 4096, 80⟩) ∧
      ¬ ReadExactly (withPort (.numberUnsigned 65616)) ⟨0, 0, 0, 0⟩ ∧
      readFromJson (.object []) ⟨0, 0, 0, 0⟩ = none ∧
      ¬ ReadExactly (.object []) ⟨0, 0, 0, 0⟩ := by
  have haccepted : readFromJson (withPort (.numberUnsigned 65616)) ⟨0, 0, 0, 0⟩ =
      some (true, ⟨3, 5, 4096, 80⟩) := by
    decide
  have hundefined : readFromJson (.object []) ⟨0, 0, 0, 0⟩ = none := by
    decide
  refine ⟨haccepted, ?_, hundefined, ?_⟩
  · intro hexact
    obtain ⟨config, hrejected⟩ := hexact.rejects (by
      rintro config ⟨outer, members, hsame, hserver, hfields⟩
      cases hsame
      cases hserver
      obtain ⟨value, hlookup, hinteger, hfits⟩ := hfields .listeningPort
      cases hlookup
      have hport : (65616 : ℕ) = (load config .listeningPort).toNat :=
        Int.ofNat.inj (Option.some.inj hinteger)
      rw [← hport] at hfits
      exact absurd hfits (by decide))
    rw [haccepted] at hrejected
    cases hrejected
  · intro hexact
    obtain ⟨config, hrejected⟩ := hexact.rejects (by
      rintro config ⟨outer, members, hsame, hserver, -⟩
      cases hsame
      cases hserver)
    rw [hundefined] at hrejected
    cases hrejected

/-! ## After a rejected document -/

/-- The fields before the failing one hold the converted numbers of the document,
and it and the fields after it are as they were. -/
structure StoredUpTo (jsonConfig : Json) (previous config : ServerConfiguration)
    (earlier : List ServerField) (failing : ServerField) (later : List ServerField) : Prop where
  split : order = earlier ++ failing :: later
  throws : ∃ error, failing.read jsonConfig = .throws error
  assigned : ∀ field ∈ earlier, ∃ number, field.read jsonConfig = .value number ∧
    field.load config = UInt32.ofNat number
  kept : ∀ field ∈ failing :: later, field.load config = field.load previous

/-- A rejected document has changed the configuration up to its first field that
throws, and the reader reports the failure. -/
theorem storedUpTo_of_rejected {jsonConfig : Json} {previous config : ServerConfiguration}
    (hrejected : readFromJson jsonConfig previous = some (false, config)) :
    (∃ earlier failing later, StoredUpTo jsonConfig previous config earlier failing later) ∧
      ∀ files identifier, files identifier = .parsed jsonConfig →
        ConfigurationReader.readConfiguration files identifier previous =
          some (false, config) := by
  constructor
  · obtain ⟨earlier, failing, later, hsplit, hearlier, hthrows, hstored⟩ :=
      readFromJson_eq_false.mp hrejected
    have hapart : ∀ field ∈ failing :: later, field ∉ earlier := by
      have hnodup := nodup_order
      rw [hsplit] at hnodup
      intro field hlater hbefore
      exact (List.nodup_append.mp hnodup).2.2 field hbefore field hlater rfl
    refine ⟨earlier, failing, later, hsplit, hthrows, ?_, ?_⟩
    · intro field hmem
      obtain ⟨number, hread⟩ := hearlier field hmem
      exact ⟨number, hread, hstored ▸ load_foldl_of_mem hmem hread previous⟩
    · intro field hmem
      exact hstored ▸ load_foldl_of_not_mem (hapart field hmem) previous
  · intro files identifier hfile
    rw [ConfigurationReader.readConfiguration, hfile]
    exact hrejected

/-- Where no document is found nothing changes. -/
theorem readConfiguration_of_no_document {files : Int32 → ConfigurationReader.ConfigFile}
    {identifier : Int32} (hnone : ∀ jsonConfig, files identifier ≠ .parsed jsonConfig)
    (previous : ServerConfiguration) :
    ConfigurationReader.readConfiguration files identifier previous =
      some (false, previous) := by
  rw [ConfigurationReader.readConfiguration]
  cases hfile : files identifier with
  | missing => rfl
  | malformed => rfl
  | parsed jsonConfig => exact absurd hfile (hnone jsonConfig)

theorem storedUpTo_of_text_port :
    ∃ earlier failing later, StoredUpTo (withPort (.string "80".toList)) ⟨9, 9, 9, 9⟩
      ⟨3, 5, 4096, 9⟩ earlier failing later :=
  (storedUpTo_of_rejected (by decide)).1

/-- A text in place of the port is rejected after three fields have been stored. -/
theorem rejected_document_changes_fields :
    readFromJson (withPort (.string "80".toList)) ⟨9, 9, 9, 9⟩ =
        some (false, ⟨3, 5, 4096, 9⟩) ∧
      (⟨3, 5, 4096, 9⟩ : ServerConfiguration) ≠ ⟨9, 9, 9, 9⟩ := by
  decide

end ProcessManagerService.Configuration
