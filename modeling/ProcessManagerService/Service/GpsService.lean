import ProcessManagerService.Service.Parts

/-!
# The GPS service

`ServiceOneTest`, the service that comes with the repository as an example.  It
takes coordinate updates and passes each of them on to the modules that have
subscribed to them.  Its message handlers return no response, and the
coordinates that they store are read by nobody: `getCoordinates` returns zeros.
So the stored coordinates are left out.
-/

namespace ProcessManagerService.Service.Gps

open Communication PartialRuns Worker

structure CoordinatesUpdateRequest where
  identifier : UInt32
  x : Int32
  y : Int32
  deriving DecidableEq, Inhabited

structure SubscribeIdentifierRequest where
  identifier : UInt32
  x : UInt32
  y : UInt32
  deriving DecidableEq

/-- The generated code of `GPS.proto`.  `readUpdate` is what `ParseFromString` leaves in
a new message, also where it fails. -/
structure GpsProtobuf where
  readUpdate : List Byte → CoordinatesUpdateRequest
  serializeSubscribe : SubscribeIdentifierRequest → List Byte

def updateName : Text := "GPS.CoordinatesUpdateRequest".toList

def getName : Text := "GPS.CoordinatesGetRequest".toList

def subscribeName : Text := "GPS.SubscribeIdentifierRequest".toList

/-- `Any::Is`: the type name follows the last slash of the `type_url`. -/
def isType (name : Text) (any : Any) : Bool := ('/' :: name).isSuffixOf any.typeUrl

/-- `Any::PackFrom`. -/
def pack (name : Text) (value : List Byte) : Any where
  typeUrl := "type.googleapis.com/".toList ++ name
  value := value

section Handlers

variable (protobuf : GpsProtobuf)

/-- `Any::UnpackTo` into a new message, which it leaves alone where the type is
another one. -/
def unpackUpdate (any : Any) : CoordinatesUpdateRequest :=
  if isType updateName any then protobuf.readUpdate any.value else default

def simpleUpdateMessageClass : MessageCallback where
  validate := isType updateName
  run _ _ := none

def simpleGetMessageClass : MessageCallback where
  validate := isType getName
  run _ _ := none

/-- What the subscribers are sent for an update.  The setters take unsigned
coordinates. -/
def subscribeIdentifierRequest (any : Any) : Any :=
  let coordinatesUpdateRequest := unpackUpdate protobuf any
  pack subscribeName (protobuf.serializeSubscribe ⟨coordinatesUpdateRequest.identifier,
    coordinatesUpdateRequest.x.toUInt32, coordinatesUpdateRequest.y.toUInt32⟩)

def simpleSubscribeUpdateMessage : SubscribeCallback where
  run _ any := (some (subscribeIdentifierRequest protobuf any), any)

/-- `Task::run`. -/
def task : Task where
  registrations := [
    .registerNewEventHandler 1 (some ⟨some simpleUpdateMessageClass⟩),
    .registerNewEventHandler 1 (some ⟨some simpleGetMessageClass⟩),
    .registerNewSubscribtionHandler updateName
      (some ⟨some (simpleSubscribeUpdateMessage protobuf)⟩)]
  kind_ne_none := by simp [ManagerCall.kind]
  returnCode := runForever

/-- The event for subscribers as it is registered. -/
def updateSubscription (subscribers : List Int32) : Subscription :=
  ⟨0, updateName, subscribers, ⟨some (simpleSubscribeUpdateMessage protobuf)⟩⟩

/-! ## What is passed on -/

variable {TransactionCode : Type*} (subscribers : List Int32)

/-- What a module is told of a received message: the fields of the update, with
the coordinates modulo 2 ^ 32, and zeros where the type of the message is not that
of an update but only ends like it. -/
structure IsRelayed (payload newMessage : Any) (update : CoordinatesUpdateRequest)
    (request : SubscribeIdentifierRequest) : Prop where
  typeUrl : newMessage.typeUrl = "type.googleapis.com/GPS.SubscribeIdentifierRequest".toList
  value : newMessage.value = protobuf.serializeSubscribe request
  update_of_type : "/GPS.CoordinatesUpdateRequest".toList <:+ payload.typeUrl →
    update = protobuf.readUpdate payload.value
  update_of_foreign : ¬ "/GPS.CoordinatesUpdateRequest".toList <:+ payload.typeUrl →
    update = ⟨0, 0, 0⟩
  identifier : request.identifier = update.identifier
  x : (request.x.toNat : ℤ) = update.x.toInt % 2 ^ 32
  y : (request.y.toNat : ℤ) = update.y.toInt % 2 ^ 32

/-- The modules that are told of a demand, each with the message received, where
these modules have subscribed from the start. -/
def relayedFor (accepted : Worker.Accepted) : Demand TransactionCode → List (Int32 × Any)
  | .request _ _ request =>
      if "GPS.CoordinatesUpdateRequest".toList.isSuffixOf request.payload.typeUrl then
        (subscribers ++ Broker.subscribersTo accepted updateName).map fun moduleIdentifier =>
          (moduleIdentifier, request.payload)
      else []
  | .subscription _ _ => []
  | .nothing => []

/-- The same for demands that come one after the other. -/
def relayed (accepted : Worker.Accepted) : List (Demand TransactionCode) → List (Int32 × Any)
  | [] => []
  | demand :: demands => relayedFor subscribers accepted demand ++
      relayed (accepted ++ Broker.accepts demand) demands

/-- Every update has been passed on to the modules that had subscribed to updates
when it was processed, in the order of their subscriptions, and nothing else has
been sent. -/
def Relays (surroundings : Surroundings TransactionCode) [OfNat TransactionCode 19]
    (system : ThreadedWorker) : Prop :=
  ∃ groups, system.shared.worker.sent = groups.flatten ∧
    List.Forall₂ (fun entry group => ∃ newMessage update request,
        IsRelayed protobuf entry.2 newMessage update request ∧
          IsNotified surroundings (entry.1, newMessage) group)
      (relayed subscribers [] (demands surroundings system)) groups

/-- The setters keep the bits of a coordinate. -/
theorem toNat_toUInt32 (coordinate : Int32) :
    (coordinate.toUInt32.toNat : ℤ) = coordinate.toInt % 2 ^ 32 := by
  change (coordinate.toBitVec.toNat : ℤ) = coordinate.toBitVec.toInt % 2 ^ 32
  have hbound : (coordinate.toBitVec.toNat : ℤ) < 2 ^ 32 := by
    exact_mod_cast coordinate.toBitVec.isLt
  calc (coordinate.toBitVec.toNat : ℤ)
      = coordinate.toBitVec.toNat % 2 ^ 32 :=
        (Int.emod_eq_of_lt (Int.natCast_nonneg _) hbound).symm
    _ = (coordinate.toBitVec.toNat : ℤ).bmod (2 ^ 32) % (2 ^ 32 : ℕ) := by
        rw [Int.bmod_emod]
        rfl
    _ = coordinate.toBitVec.toInt % 2 ^ 32 := by
        rw [BitVec.toInt_eq_toNat_bmod]
        rfl

/-- The handler answers with what is to be told. -/
theorem isRelayed_subscribeIdentifierRequest (payload : Any) :
    ∃ update request, IsRelayed protobuf payload (subscribeIdentifierRequest protobuf payload)
      update request := by
  refine ⟨unpackUpdate protobuf payload, _, rfl, rfl, ?_, ?_, rfl, toNat_toUInt32 _,
    toNat_toUInt32 _⟩
  · intro htype
    exact if_pos (List.isSuffixOf_iff_suffix.mpr htype)
  · intro hforeign
    exact if_neg (mt List.isSuffixOf_iff_suffix.mp hforeign)

end Handlers

/-! ## The service as a broker -/

section Broker

variable {protobuf : GpsProtobuf} {subscribers : List Int32}

/-- The broker of the service. -/
def gpsBroker (protobuf : GpsProtobuf) (subscribers : List Int32) : Broker where
  messageEventsCache :=
    ⟨[(0, ⟨some simpleUpdateMessageClass⟩), (1, ⟨some simpleGetMessageClass⟩)]⟩
  offered := [updateSubscription protobuf subscribers]

theorem afterCalls_task : EventManager.afterCalls (task protobuf).registrations =
    ⟨(gpsBroker protobuf []).messageEventsCache, ⟨(gpsBroker protobuf []).offered⟩⟩ := rfl

/-- A worker with the registrations of the task is that of the broker. -/
theorem broker_of_registered {worker : ContextWorker}
    (hregistered : Registered (task protobuf).registrations worker) :
    worker.broker = gpsBroker protobuf
      (worker.subscriptionEventsCache.events.flatMap Subscription.subscribers) := by
  obtain ⟨hmessage, hbare⟩ := hregistered
  rw [afterCalls_task] at hmessage hbare
  obtain ⟨event, hevents, hsame⟩ := List.map_eq_singleton_iff.mp hbare
  obtain ⟨id, messageType, subscribers, handler⟩ := event
  have hid := congrArg Prod.fst hsame
  have htype := congrArg (fun parts => parts.2.1) hsame
  have hhandler := congrArg (fun parts => parts.2.2) hsame
  dsimp only [bare] at hid htype hhandler
  subst hid htype hhandler
  rw [ContextWorker.broker, hmessage, hevents, List.flatMap_singleton]
  rfl

/-- The handlers of the service give no response. -/
theorem responses_gpsBroker (sender : Sender) (anyMessage : Any) :
    (gpsBroker protobuf subscribers).messageEventsCache.responses sender anyMessage = [] := by
  apply MessageEventsCache.responses_eq_nil_iff.mpr
  intro event hmem
  have hnothing : ∀ callback : MessageCallback, (∀ sender any, callback.run sender any = none) →
      MessageEvent.response ⟨some callback⟩ sender anyMessage = none := by
    intro callback hrun
    rw [MessageEvent.response, Option.bind_some, hrun, ite_self]
  rcases List.mem_pair.mp hmem with rfl | rfl
  · exact hnothing _ fun _ _ => rfl
  · exact hnothing _ fun _ _ => rfl

/-- Every subscriber gets the same request: the handler leaves the message as it
is. -/
theorem eventCalls_updateSubscription (registered : List Int32) (place : ℕ)
    (dispatch : SubscriptionEventsCache.Dispatch) :
    eventCalls place (updateSubscription protobuf subscribers) registered dispatch =
      registered.map fun moduleIdentifier => ⟨place, moduleIdentifier,
        some (some (subscribeIdentifierRequest protobuf dispatch.anyMessage))⟩ := by
  induction registered generalizing dispatch with
  | nil => rfl
  | cons moduleIdentifier registered ih =>
      rw [eventCalls, List.map_cons]
      congr 1
      exact ih _

theorem handlerCalls_gpsBroker (accepted : Worker.Accepted) (anyMessage : Any) :
    ((gpsBroker protobuf subscribers).registry accepted).handlerCalls anyMessage =
      if updateName.isSuffixOf anyMessage.typeUrl then
        (subscribers ++ Broker.subscribersTo accepted updateName).map fun moduleIdentifier =>
          ⟨0, moduleIdentifier, some (some (subscribeIdentifierRequest protobuf anyMessage))⟩
      else [] := by
  let registered := subscribers ++ Broker.subscribersTo accepted updateName
  have hnext : ∀ dispatch : Option SubscriptionEventsCache.Dispatch,
      dispatch.elim [] (registryCalls 1 []) = [] := by
    intro dispatch
    cases dispatch <;> rfl
  calc ((gpsBroker protobuf subscribers).registry accepted).handlerCalls anyMessage
      = roundCalls 0 (updateSubscription protobuf registered) ⟨anyMessage, 0, []⟩ ++
          (SubscriptionEventsCache.notifyAll ⟨anyMessage, 0, []⟩
            (updateSubscription protobuf registered)).elim [] (registryCalls 1 []) := rfl
    _ = roundCalls 0 (updateSubscription protobuf registered) ⟨anyMessage, 0, []⟩ := by
        rw [hnext, List.append_nil]
    _ = _ := by
        rw [roundCalls, eventCalls_updateSubscription]
        rfl

/-- What the handler answers for the modules that are told. -/
def answered (protobuf : GpsProtobuf) (entry : Int32 × Any) : Int32 × Any :=
  (entry.1, subscribeIdentifierRequest protobuf entry.2)

/-- The calls for a request that have answered are what is passed on. -/
theorem serviceRequests_gpsBroker {TransactionCode : Type*} (accepted : Worker.Accepted)
    (sender : Sender) (receivedMessage : ModuleMessage TransactionCode) (request : Request) :
    (((gpsBroker protobuf subscribers).registry accepted).handlerCalls
        request.payload).filterMap HandlerCall.serviceRequest =
      (relayedFor subscribers accepted (.request sender receivedMessage request)).map
        (answered protobuf) := by
  rw [handlerCalls_gpsBroker]
  change _ = List.map _ (if updateName.isSuffixOf request.payload.typeUrl then _ else [])
  split
  · rw [List.filterMap_map, List.map_map]
    exact congrFun List.filterMap_eq_map _
  · rfl

variable {TransactionCode : Type*} [OfNat TransactionCode 19]
  {surroundings : Surroundings TransactionCode}

theorem output_gpsBroker (accepted : Worker.Accepted) (demand : Demand TransactionCode) :
    (gpsBroker protobuf subscribers).output surroundings accepted demand =
      ((relayedFor subscribers accepted demand).map (answered protobuf)).flatMap
        (dueRequest surroundings) := by
  cases demand with
  | nothing => rfl
  | subscription moduleIdentifier subscribedType => rfl
  | request sender receivedMessage request =>
      rw [Broker.output, responses_gpsBroker,
        serviceRequests_gpsBroker accepted sender receivedMessage request]
      exact List.nil_append _

theorem sentFrom_gpsBroker (accepted : Worker.Accepted) (demands : List (Demand TransactionCode)) :
    (gpsBroker protobuf subscribers).sentFrom surroundings accepted demands =
      ((relayed subscribers accepted demands).map (answered protobuf)).flatMap
        (dueRequest surroundings) := by
  induction demands generalizing accepted with
  | nil => rfl
  | cons demand demands ih =>
      rw [Broker.sentFrom, relayed, List.map_append, List.flatMap_append, output_gpsBroker, ih]

/-- With records that can be decoded the service meets every demand. -/
theorem exists_meet_of_tolerable {accepted : Worker.Accepted} {worker : ContextWorker}
    (hholds : Holds (gpsBroker protobuf subscribers) accepted worker)
    (htolerable : ∀ moduleIdentifier, Tolerable surroundings moduleIdentifier)
    (demand : Demand TransactionCode) :
    ∃ next, meet surroundings worker demand = .returned next := by
  cases demand with
  | nothing => exact ⟨worker, rfl⟩
  | subscription moduleIdentifier subscribedType => exact ⟨_, rfl⟩
  | request sender receivedMessage request =>
      apply Exists.intro
      apply (handleRequest_eq_returned surroundings).mpr
      refine ⟨?_, ?_, fun entry _ => htolerable entry.1, rfl⟩
      · rw [hholds.messageEventsCache, responses_gpsBroker]
        intro response hmem
        cases hmem
      · rw [hholds.registry, handlerCalls_gpsBroker]
        intro call hmem
        split at hmem
        · obtain ⟨moduleIdentifier, -, rfl⟩ := List.mem_map.mp hmem
          exact Option.some_ne_none _
        · cases hmem

end Broker

/-! ## Runs -/

section Runs

variable {protobuf : GpsProtobuf} {TransactionCode : Type*} [OfNat TransactionCode 19]
  {surroundings : Surroundings TransactionCode} {worker : ContextWorker}

/-- In every run of the GPS service from its registrations on, however the
datagrams and the threads interleave: every update is passed on to the modules
that have subscribed, and nothing else is sent.  All that the service relies on
is that the records of the modules can be decoded. -/
theorem relays_of_run (hregistered : Registered (task protobuf).registrations worker)
    (hsilent : worker.sent = [])
    (htolerable : ∀ moduleIdentifier, Tolerable surroundings moduleIdentifier)
    (threads : ℕ) (happenings : List Happening) :
    EveryState (happen surroundings)
      (Relays protobuf
        (worker.subscriptionEventsCache.events.flatMap Subscription.subscribers) surroundings)
      (.start worker threads) happenings := by
  let subscribers := worker.subscriptionEventsCache.events.flatMap Subscription.subscribers
  have hrefines : EveryState (happen surroundings)
      (Refines surroundings (gpsBroker protobuf subscribers)) (.start worker threads)
      happenings := by
    apply everyState_of_step
    · intro system happening next hrefines hhappen
      apply hrefines.happen _ hhappen
      cases happening with
      | arrive datagram endpoint => trivial
      | advance thread =>
          intro receivedMessageBuffer senderEndpoint _
          rw [processMessage_eq_meet]
          exact exists_meet_of_tolerable hrefines.holds htolerable _
    · have hstart : Refines surroundings worker.broker (.start worker threads) :=
        refines_start hsilent threads
      rwa [broker_of_registered hregistered] at hstart
  apply hrefines.mono
  intro system hsystem
  let entries := relayed subscribers [] (demands surroundings system)
  refine ⟨(entries.map (answered protobuf)).map (dueRequest surroundings), ?_, ?_⟩
  · rw [hsystem.sent, sentFrom_gpsBroker, List.flatMap_def]
  · rw [List.map_map, List.forall₂_map_right_iff, List.forall₂_same]
    intro entry _
    obtain ⟨update, request, hrelayed⟩ := isRelayed_subscribeIdentifierRequest protobuf entry.2
    exact ⟨_, update, request, hrelayed,
      isNotified_dueRequest surroundings (answered protobuf entry)⟩

end Runs

/-! ## An update on its way -/

/-- The generated code on one update and on no fields. -/
private def oneUpdate : GpsProtobuf where
  readUpdate value :=
    if value = [8, 9, 16] ++ List.replicate 9 255 ++ [1, 24, 4] then ⟨9, -1, 4⟩ else default
  serializeSubscribe message :=
    if message = ⟨9, 4294967295, 4⟩ then [8, 9, 16, 255, 255, 255, 255, 15, 24, 4] else []

private def registeredWorker : ContextWorker :=
  (task oneUpdate).registrations.foldl Process.register (.create ⟨[]⟩ ⟨[]⟩)

private def subscribingToUpdates : ModuleMessage UInt32 where
  header := some ⟨7, .moduleRequest, 1⟩
  request := none
  subscriptionRequest := some ⟨updateName⟩

/-- An update with the coordinates -1 and 4, under a type name. -/
private def updating (name : Text) : ModuleMessage UInt32 where
  header := some ⟨9, .moduleRequest, 2⟩
  request := some ⟨some (pack name ([8, 9, 16] ++ List.replicate 9 255 ++ [1, 24, 4]))⟩
  subscriptionRequest := none

/-- What module 7 is sent. -/
private def told (value : List Byte) : ModuleMessage UInt32 where
  header := some ⟨0x34000001, .serviceRequest, 19⟩
  request := some ⟨some
    ⟨"type.googleapis.com/GPS.SubscribeIdentifierRequest".toList, value⟩⟩
  subscriptionRequest := none

/-- Module 7 subscribes before module 9 sends an update, and another message whose
type name ends like that of an update. -/
private def movement : List Happening :=
  .arrive (Codec.plain.serialize subscribingToUpdates) Exchange.client ::
    (List.replicate 5 (.advance 0) ++
      .arrive (Codec.plain.serialize (updating updateName)) Exchange.client ::
        (List.replicate 5 (.advance 1) ++
          .arrive (Codec.plain.serialize (updating ("My".toList ++ updateName)))
            Exchange.client :: List.replicate 5 (.advance 0)))

private theorem registered_worker :
    Registered (task oneUpdate).registrations registeredWorker := by
  constructor <;> rfl

private theorem tolerable_directory (moduleIdentifier : Int32) :
    Tolerable Exchange.directory moduleIdentifier := by
  apply (exists_destination_iff _).mp
  exact ⟨some ⟨[10, 0, 0, 8], 5000⟩, rfl⟩

set_option maxRecDepth 20000 in
theorem relays_movement : ∃ finish,
    run (happen Exchange.directory) (.start registeredWorker 2) movement = some finish ∧
      Relays oneUpdate [] Exchange.directory finish ∧
      finish.shared.worker.sent =
        [(⟨[10, 0, 0, 8], 5000⟩,
          Codec.plain.serialize (told [8, 9, 16, 255, 255, 255, 255, 15, 24, 4])),
        (⟨[10, 0, 0, 8], 5000⟩, Codec.plain.serialize (told []))] := by
  obtain ⟨finish, hrun, hsent⟩ : ∃ finish,
      run (happen Exchange.directory) (.start registeredWorker 2) movement = some finish ∧
        finish.shared.worker.sent =
          [(⟨[10, 0, 0, 8], 5000⟩,
            Codec.plain.serialize (told [8, 9, 16, 255, 255, 255, 255, 15, 24, 4])),
          (⟨[10, 0, 0, 8], 5000⟩, Codec.plain.serialize (told []))] := ⟨_, rfl, by decide⟩
  exact ⟨finish, hrun,
    (relays_of_run registered_worker rfl tolerable_directory 2 movement).finish hrun, hsent⟩

end ProcessManagerService.Service.Gps
