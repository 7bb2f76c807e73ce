import ProcessManagerService.Worker.EventsCaches

/-!
# The modules cache

`ServiceModulesCache.cpp` keeps the addresses of the modules in a `std::map`.
`addModule` calls `emplace` when it has found the module, and `emplace` changes
nothing for a key that is present: no address ever enters the cache.
-/

namespace ProcessManagerService.Worker

/-- The default constructor: the address 0.0.0.0 and the port 0. -/
def Endpoint.create : Endpoint := ⟨[0, 0, 0, 0], 0⟩

/-- The entries of the map in the order of their keys. -/
structure ModulesCache where
  modulesCache : List (Int32 × Endpoint)
  ordered : modulesCache.Pairwise fun first second => first.1 < second.1

namespace ModulesCache

/-- The default constructor. -/
def create : ModulesCache := ⟨[], .nil⟩

/-- The `find_if` of both functions. -/
def find (cache : ModulesCache) (moduleIdentifier : Int32) : Option (Int32 × Endpoint) :=
  cache.modulesCache.find? fun entry => entry.1 = moduleIdentifier

/-- A new entry stands after the smaller keys and before the larger ones. -/
def insert (cache : ModulesCache) (moduleIdentifier : Int32) (address : Endpoint) :
    ModulesCache where
  modulesCache := cache.modulesCache.filter (fun entry => entry.1 < moduleIdentifier) ++
    (moduleIdentifier, address) ::
      cache.modulesCache.filter fun entry => moduleIdentifier < entry.1
  ordered := by
    have hlarger : ∀ entry ∈ cache.modulesCache.filter (fun entry =>
        moduleIdentifier < entry.1), moduleIdentifier < entry.1 := by
      intro entry hmem
      simpa using List.of_mem_filter hmem
    rw [List.pairwise_append, List.pairwise_cons]
    refine ⟨cache.ordered.filter _, ⟨hlarger, cache.ordered.filter _⟩, ?_⟩
    intro entry hmem other hother
    have hsmaller : entry.1 < moduleIdentifier := by simpa using List.of_mem_filter hmem
    rcases List.mem_cons.mp hother with rfl | hother
    · exact hsmaller
    · exact Int32.lt_trans hsmaller (hlarger other hother)

/-- `std::map::emplace` leaves a present entry as it is. -/
def emplace (cache : ModulesCache) (moduleIdentifier : Int32) (address : Endpoint) :
    ModulesCache :=
  if (cache.find moduleIdentifier).isSome then cache
  else cache.insert moduleIdentifier address

def addModule (cache : ModulesCache) (moduleIdentifier : Int32) (address : Endpoint) :
    ModulesCache :=
  if (cache.find moduleIdentifier).isSome then cache.emplace moduleIdentifier address
  else cache

def getModulesDestinations (cache : ModulesCache) (moduleIdentifier : Int32) : Endpoint :=
  match cache.find moduleIdentifier with
  | some entry => entry.2
  | none => .create

/-- The cache after a sequence of `addModule` calls. -/
def afterAdds (calls : List (Int32 × Endpoint)) : ModulesCache :=
  calls.foldl (fun cache call => cache.addModule call.1 call.2) create

/-- What the cache is for: the address of the first call for the module. -/
def firstAdded (calls : List (Int32 × Endpoint)) (moduleIdentifier : Int32) : Endpoint :=
  (calls.lookup moduleIdentifier).getD .create

/-! ## What the calls leave behind -/

/-- `emplace` is reached only for a present key. -/
theorem addModule_eq (cache : ModulesCache) (moduleIdentifier : Int32) (address : Endpoint) :
    cache.addModule moduleIdentifier address = cache := by
  rw [addModule]
  split
  next hfound => exact if_pos hfound
  next hmissing => rfl

theorem afterAdds_eq (calls : List (Int32 × Endpoint)) : afterAdds calls = create := by
  rw [afterAdds]
  induction calls with
  | nil => rfl
  | cons call calls ih => rw [List.foldl_cons, addModule_eq, ih]

theorem getModulesDestinations_afterAdds (calls : List (Int32 × Endpoint))
    (moduleIdentifier : Int32) :
    (afterAdds calls).getModulesDestinations moduleIdentifier = .create := by
  rw [afterAdds_eq]
  rfl

/-- The answer is the first added address only where that is the default one, or
where none was added; and no call changes the answer for another module. -/
theorem getModulesDestinations_eq_firstAdded_iff (calls : List (Int32 × Endpoint))
    (moduleIdentifier : Int32) :
    ((afterAdds calls).getModulesDestinations moduleIdentifier =
        firstAdded calls moduleIdentifier ↔
      ∀ address, calls.lookup moduleIdentifier = some address → address = .create) ∧
    ∀ other address, other ≠ moduleIdentifier →
      (afterAdds (calls ++ [(other, address)])).getModulesDestinations moduleIdentifier =
        (afterAdds calls).getModulesDestinations moduleIdentifier := by
  constructor
  · rw [getModulesDestinations_afterAdds, firstAdded]
    cases calls.lookup moduleIdentifier with
    | none => simp
    | some address => simp [eq_comm]
  · intro other address _
    rw [getModulesDestinations_afterAdds, getModulesDestinations_afterAdds]

/-- A module that has been added is answered with the default endpoint. -/
theorem added_module_is_lost :
    (afterAdds [(7, ⟨[192, 168, 0, 7], 5000⟩)]).getModulesDestinations 7 = ⟨[0, 0, 0, 0], 0⟩ ∧
      (afterAdds [(7, ⟨[192, 168, 0, 7], 5000⟩)]).getModulesDestinations 7 ≠
        firstAdded [(7, ⟨[192, 168, 0, 7], 5000⟩)] 7 := by
  decide

end ModulesCache

end ProcessManagerService.Worker
