import RinaSense.Library.Trace
import RinaSense.Rib.State

/-!
# The table of RIB objects

The functions of `rib.c` with everything an object holds. A table is to give back what was
created under a name; the module determines the sequences of creations and lookups in which
it does, and shows that the RIB daemon's table is this one without the fields it does not
read.
-/

namespace RinaSense

open Command Trace

/-! ## Objects and their table -/

/-- `struct ribObject_t` at its address. The pointers are as the memory gave them where
nothing was written. -/
structure StoredRibObject where
  address : Nat
  pxObjOps : Option RibObjOps
  ucObjName : Pointer String
  ucObjClass : Pointer String
  ulObjInst : Int
  ucDisplayableValue : Pointer String
  deriving Repr, DecidableEq

/-- `xRibObjectTable`, with the address of the next new object. -/
structure ObjectTable where
  rows : List (Option StoredRibObject)
  next : Nat
  deriving Repr, DecidableEq

/-- Which allocations of one creation succeed, and what the new memory held. -/
structure ObjectMemory where
  object : Bool
  ops : Bool
  name : Bool
  leftClass : Pointer String
  leftOps : RibObjOps
  deriving Repr, DecidableEq

/-- What is created. -/
structure ObjectRequest where
  ucObjName : String
  ulObjInst : Int
  ucDisplayableValue : Pointer String
  ucObjClass : Pointer String
  eObjType : ObjectType
  deriving Repr, DecidableEq

namespace ObjectTable

/-- An object that finds no free row is dropped. -/
def vRibAddObjectEntry (pxRibObject : StoredRibObject) (table : ObjectTable) : ObjectTable :=
  { table with rows := SlotTable.add pxRibObject table.rows }

/-- The loop of `pxRibFindObject`. -/
def findObject (ucRibObjectName : String) :
    List (Option StoredRibObject) → Except Fault (Option StoredRibObject)
  | [] => return none
  | none :: rows => findObject ucRibObjectName rows
  | some pxRibObject :: rows => do
      let ucObjName ← pxRibObject.ucObjName.read
      if ucObjName = ucRibObjectName then return some pxRibObject
      else findObject ucRibObjectName rows

def pxRibFindObject (ucRibObjectName : String) :
    EStateM Fault ObjectTable (Option StoredRibObject) := do
  let table ← get
  findObject ucRibObjectName table.rows

/-- The operations that are written, the others are as the memory had them. -/
def fillObjOps (left : RibObjOps) : ObjectType → RibObjOps
  | .enrollment => { left with stop := true, start := some .enroller }
  | .flowAllocator => left
  | .operational => { left with start := some .operationalStart }
  | .flow => { left with delete := true }

/-- Without memory for them the operations are written all the same, where the type of the
object has any. -/
def newObjOps (memory : ObjectMemory) (eObjType : ObjectType) :
    Except Fault (Option RibObjOps) :=
  if memory.ops then return some (fillObjOps memory.leftOps eObjType)
  else if eObjType = .flowAllocator then return none
  else throw .nullPointer

/-- The class is never written, and the copy of the name not checked. The object is returned
whether it was stored or not. -/
def pxRibCreateObject (memory : ObjectMemory) (request : ObjectRequest) :
    EStateM Fault ObjectTable (Option StoredRibObject) := do
  if !memory.object then throw .nullPointer
  let pxObjOps ← newObjOps memory request.eObjType
  let table ← get
  let pxObj : StoredRibObject :=
    { address := table.next
      pxObjOps
      ucObjName := if memory.name then .target request.ucObjName else .null
      ucObjClass := memory.leftClass
      ulObjInst := request.ulObjInst
      ucDisplayableValue := request.ucDisplayableValue }
  set (vRibAddObjectEntry pxObj { table with next := table.next + 1 })
  return some pxObj

end ObjectTable

/-! ## Purpose -/

/-- A table with the names that objects were created under. -/
structure ObjectHistory where
  table : ObjectTable
  created : List String

inductive ObjectEvent where
  | create (memory : ObjectMemory) (request : ObjectRequest)
  | find (ucRibObjectName : String)

namespace ObjectEvent

def onTable {α : Type} (command : EStateM Fault ObjectTable α) : EStateM Fault ObjectHistory α :=
  zoom ObjectHistory.table (fun table history => { history with table }) command

def perform : ObjectEvent → EStateM Fault ObjectHistory (Option StoredRibObject)
  | create memory request => do
      let pxObj ← onTable (ObjectTable.pxRibCreateObject memory request)
      modify fun history => { history with created := request.ucObjName :: history.created }
      return pxObj
  | find ucRibObjectName => onTable (ObjectTable.pxRibFindObject ucRibObjectName)

end ObjectEvent

/-- The table `rib.c` begins with. -/
def ObjectHistory.initial : ObjectHistory where
  table := { rows := List.replicate ribTableSize none, next := 0 }
  created := []

/-- What a lookup of the name returns. -/
def ObjectTable.resolve (table : ObjectTable) (name : String) :
    Except Fault (Option StoredRibObject) :=
  ObjectTable.findObject name table.rows

/-- A creation that returns an object. -/
structure ObjectCreated (before after : ObjectTable) (request : ObjectRequest)
    (object : StoredRibObject) : Prop where
  found : after.resolve request.ucObjName = .ok (some object)
  name : object.ucObjName = .target request.ucObjName
  objectClass : object.ucObjClass = request.ucObjClass
  inst : object.ulObjInst = request.ulObjInst
  others : ∀ name, name ≠ request.ucObjName → after.resolve name = before.resolve name
  room : none ∈ before.rows

/-- What every step has to do: what cannot be stored is reported, and a lookup of a name that
was never created finds nothing. -/
def ObjectEvent.Kept (before : ObjectHistory) :
    ObjectEvent → EStateM.Result Fault ObjectHistory (Option StoredRibObject) → Prop
  | .create _ request, .ok (some object) after =>
      ObjectCreated before.table after.table request object
  | .create _ _, .ok none _ => True
  | .find name, .ok found after =>
      after.table = before.table ∧ (name ∉ before.created → found = none)
  | _, .error _ _ => False

/-- A creation has memory and a free row, its name is not in use, and the memory of the object
happens to hold the class. -/
structure CreationSupported (before : ObjectTable) (memory : ObjectMemory)
    (request : ObjectRequest) : Prop where
  object : memory.object = true
  ops : request.eObjType = .flowAllocator ∨ memory.ops = true
  name : memory.name = true
  leftClass : memory.leftClass = request.ucObjClass
  room : none ∈ before.rows
  fresh : ∀ object, some object ∈ before.rows → object.ucObjName ≠ .target request.ucObjName

def ObjectEvent.Supported (before : ObjectHistory) : ObjectEvent → Prop
  | .create memory request => CreationSupported before.table memory request
  | .find _ => True

/-! ## The invariant -/

/-- The rows in use come first and hold named objects that were created. -/
structure ObjectHistory.Sound (history : ObjectHistory) : Prop where
  packed : SlotTable.Packed history.table.rows
  named : ∀ object, some object ∈ history.table.rows →
    ∃ name ∈ history.created, object.ucObjName = .target name
  addresses : ∀ object, some object ∈ history.table.rows → object.address < history.table.next

theorem sound_initial : ObjectHistory.initial.Sound where
  packed := SlotTable.packed_of_free fun _ member => (List.mem_replicate.mp member).2
  named _ member := absurd (List.mem_replicate.mp member).2 (Option.some_ne_none _)
  addresses _ member := absurd (List.mem_replicate.mp member).2 (Option.some_ne_none _)

section Lookups

/-- The test of the loop. -/
def isNamed (name : String) (object : StoredRibObject) : Bool :=
  decide (object.ucObjName = .target name)

/-- Where all names can be read, the loop is a search. -/
theorem findObject_eq {rows : List (Option StoredRibObject)} (name : String)
    (named : ∀ object, some object ∈ rows → ∃ text, object.ucObjName = .target text) :
    ObjectTable.findObject name rows = .ok (SlotTable.find (isNamed name) rows) := by
  induction rows with
  | nil => rfl
  | cons row rows ih =>
      have rest := ih fun object member => named object (List.mem_cons_of_mem _ member)
      cases row with
      | none => exact rest
      | some first =>
          obtain ⟨text, same⟩ := named first List.mem_cons_self
          simp only [ObjectTable.findObject, same, Pointer.read_target, ok_bind, SlotTable.find,
            isNamed, Pointer.target.injEq, decide_eq_true_eq]
          split
          · rfl
          · exact rest

variable {history : ObjectHistory}

theorem ObjectHistory.Sound.resolve (sound : history.Sound) (name : String) :
    history.table.resolve name = .ok (SlotTable.find (isNamed name) history.table.rows) :=
  findObject_eq name fun object member =>
    let ⟨text, _, same⟩ := sound.named object member
    ⟨text, same⟩

/-- A name that was never created is not found. -/
theorem ObjectHistory.Sound.unknown (sound : history.Sound) {name : String}
    (never : name ∉ history.created) :
    SlotTable.find (isNamed name) history.table.rows = none := by
  rw [SlotTable.find_eq_none]
  intro object member
  obtain ⟨text, isCreated, same⟩ := sound.named object member
  refine decide_eq_false ?_
  rw [same]
  intro equal
  exact never (Pointer.target.inj equal ▸ isCreated)

end Lookups

/-! ## Steps -/

section Steps

variable {history : ObjectHistory} {memory : ObjectMemory} {request : ObjectRequest}

/-- The object a creation makes. -/
def ObjectTable.newObject (table : ObjectTable) (memory : ObjectMemory) (request : ObjectRequest)
    (pxObjOps : Option RibObjOps) : StoredRibObject where
  address := table.next
  pxObjOps
  ucObjName := if memory.name then .target request.ucObjName else .null
  ucObjClass := memory.leftClass
  ulObjInst := request.ulObjInst
  ucDisplayableValue := request.ucDisplayableValue

/-- The history after a creation. -/
def ObjectHistory.afterCreation (history : ObjectHistory) (request : ObjectRequest)
    (object : StoredRibObject) : ObjectHistory where
  table :=
    { rows := SlotTable.add object history.table.rows
      next := history.table.next + 1 }
  created := request.ucObjName :: history.created

theorem run_create_ok {ops : Option RibObjOps} (obtained : memory.object = true)
    (isOps : ObjectTable.newObjOps memory request.eObjType = .ok ops) :
    (ObjectEvent.perform (.create memory request)).run history =
      .ok (some (history.table.newObject memory request ops))
        (history.afterCreation request (history.table.newObject memory request ops)) := by
  have run : (ObjectTable.pxRibCreateObject memory request).run history.table =
      .ok (some (history.table.newObject memory request ops))
        (history.afterCreation request (history.table.newObject memory request ops)).table := by
    rw [ObjectTable.pxRibCreateObject, obtained]
    simp only [Bool.not_true, Bool.false_eq_true, if_false]
    rw [run_bind_ok (run_lift_ok isOps)]
    rfl
  rw [ObjectEvent.perform, EStateM.run_bind, ObjectEvent.onTable, run_zoom, run]
  rfl

theorem run_create_memoryless (missing : memory.object = false) :
    ∃ fault after, (ObjectEvent.perform (.create memory request)).run history =
      .error fault after := by
  have run : (ObjectTable.pxRibCreateObject memory request).run history.table =
      .error .nullPointer history.table := by
    rw [ObjectTable.pxRibCreateObject, missing]
    rfl
  rw [ObjectEvent.perform, EStateM.run_bind, ObjectEvent.onTable, run_zoom, run]
  exact ⟨_, _, rfl⟩

theorem run_create_opsless {fault : Fault} (obtained : memory.object = true)
    (faulted : ObjectTable.newObjOps memory request.eObjType = .error fault) :
    ∃ after, (ObjectEvent.perform (.create memory request)).run history = .error fault after := by
  have run : (ObjectTable.pxRibCreateObject memory request).run history.table =
      .error fault history.table := by
    rw [ObjectTable.pxRibCreateObject, obtained]
    simp only [Bool.not_true, Bool.false_eq_true, if_false]
    rw [run_bind_error (run_lift_error faulted)]
  rw [ObjectEvent.perform, EStateM.run_bind, ObjectEvent.onTable, run_zoom, run]
  exact ⟨_, rfl⟩

theorem newObjOps_cases (memory : ObjectMemory) (eObjType : ObjectType) :
    ((eObjType = .flowAllocator ∨ memory.ops = true) ∧
        ∃ ops, ObjectTable.newObjOps memory eObjType = .ok ops) ∨
      (¬ (eObjType = .flowAllocator ∨ memory.ops = true) ∧
        ObjectTable.newObjOps memory eObjType = .error .nullPointer) := by
  rw [ObjectTable.newObjOps]
  cases obtained : memory.ops with
  | true => exact .inl ⟨.inr rfl, _, rfl⟩
  | false =>
      by_cases unused : eObjType = .flowAllocator
      · exact .inl ⟨.inl unused, none, if_pos unused⟩
      · exact .inr ⟨fun either => either.elim unused nofun, if_neg unused⟩

variable {ops : Option RibObjOps}

theorem afterCreation_sound (sound : history.Sound) (named : memory.name = true) :
    (history.afterCreation request (history.table.newObject memory request ops)).Sound where
  packed := SlotTable.packed_add _ sound.packed
  named := by
    intro object member
    rcases SlotTable.mem_insert member with same | earlier
    · refine ⟨request.ucObjName, List.mem_cons_self, ?_⟩
      rw [Option.some.inj same]
      exact if_pos named
    · obtain ⟨name, isCreated, same⟩ := sound.named object earlier
      exact ⟨name, List.mem_cons_of_mem _ isCreated, same⟩
  addresses := by
    intro object member
    rcases SlotTable.mem_insert member with same | earlier
    · rw [Option.some.inj same]
      exact Nat.lt_succ_self _
    · exact Nat.lt_succ_of_lt (sound.addresses object earlier)

/-- A creation does what it is for exactly if it finds room, its name is new and the memory
of the object holds the class. -/
theorem objectCreated_iff (sound : history.Sound) :
    ObjectCreated history.table
        (history.afterCreation request (history.table.newObject memory request ops)).table request
        (history.table.newObject memory request ops) ↔
      memory.name = true ∧ memory.leftClass = request.ucObjClass ∧ none ∈ history.table.rows ∧
        ∀ object, some object ∈ history.table.rows →
          object.ucObjName ≠ .target request.ucObjName := by
  have resolves (named : memory.name = true) (name : String) :
      (history.afterCreation request
          (history.table.newObject memory request ops)).table.resolve name =
        .ok (SlotTable.find (isNamed name)
          (SlotTable.add (history.table.newObject memory request ops) history.table.rows)) :=
    (afterCreation_sound sound named).resolve name
  constructor
  · intro created
    have named : memory.name = true := by
      have name := created.name
      simp only [ObjectTable.newObject] at name
      split at name
      · assumption
      · cases name
    refine ⟨named, created.objectClass, created.room, ?_⟩
    intro object member same
    have found := created.found
    rw [resolves named] at found
    cases earlier : SlotTable.find (isNamed request.ucObjName) history.table.rows with
    | none =>
        have missed := SlotTable.find_eq_none.mp earlier object member
        exact absurd same (of_decide_eq_false missed)
    | some old =>
        rw [SlotTable.find_add_of_found sound.packed earlier] at found
        have below := sound.addresses old (SlotTable.find_some earlier).2
        rw [Option.some.inj (Except.ok.inj found)] at below
        exact Nat.lt_irrefl _ below
  · rintro ⟨named, leftClass, room, fresh⟩
    have name : (history.table.newObject memory request ops).ucObjName =
        .target request.ucObjName := if_pos named
    have absent : SlotTable.find (isNamed request.ucObjName) history.table.rows = none :=
      SlotTable.find_eq_none.mpr fun object member => decide_eq_false (fresh object member)
    constructor
    · rw [resolves named, SlotTable.find_add_of_absent absent (decide_eq_true name) room]
    · exact name
    · exact leftClass
    · rfl
    · intro other apart
      have unwanted : isNamed other (history.table.newObject memory request ops) = false := by
        refine decide_eq_false ?_
        rw [name]
        exact fun same => apart (Pointer.target.inj same).symm
      rw [resolves named, SlotTable.find_add_of_unwanted unwanted, sound.resolve]
    · exact room

/-- One step: it is as it should be exactly if it is supported. -/
theorem kept_iff_supported (sound : history.Sound) (event : ObjectEvent) :
    event.Kept history (event.perform.run history) ↔ event.Supported history := by
  cases event with
  | find name =>
      have run : (ObjectEvent.perform (.find name)).run history =
          .ok (SlotTable.find (isNamed name) history.table.rows) history := by
        have found : (ObjectTable.pxRibFindObject name).run history.table =
            .ok (SlotTable.find (isNamed name) history.table.rows) history.table := by
          change (liftM (history.table.resolve name) : EStateM Fault ObjectTable _).run
            history.table = _
          rw [sound.resolve, run_lift]
        rw [ObjectEvent.perform, ObjectEvent.onTable, run_zoom, found]
      rw [run]
      exact iff_of_true ⟨rfl, sound.unknown⟩ trivial
  | create memory request =>
      cases obtained : memory.object with
      | false =>
          obtain ⟨fault, after, run⟩ := @run_create_memoryless history memory request obtained
          rw [run]
          exact iff_of_false id fun supported =>
            Bool.false_ne_true (obtained.symm.trans supported.object)
      | true =>
          rcases newObjOps_cases memory request.eObjType with ⟨has, ops, isOps⟩ | ⟨lacks, faulted⟩
          · rw [run_create_ok obtained isOps]
            change ObjectCreated _ _ _ _ ↔ CreationSupported _ _ _
            rw [objectCreated_iff sound]
            constructor
            · rintro ⟨named, leftClass, room, fresh⟩
              exact ⟨obtained, has, named, leftClass, room, fresh⟩
            · intro supported
              exact ⟨supported.name, supported.leftClass, supported.room, supported.fresh⟩
          · obtain ⟨after, run⟩ := @run_create_opsless history memory request _ obtained faulted
            rw [run]
            exact iff_of_false id fun supported => lacks supported.ops

theorem sound_of_supported (sound : history.Sound) (event : ObjectEvent)
    (supported : event.Supported history) : (final (event.perform.run history)).Sound := by
  cases event with
  | find name =>
      have same : final ((ObjectEvent.perform (.find name)).run history) = history := by
        have run : (ObjectTable.pxRibFindObject name).run history.table =
            (liftM (history.table.resolve name) : EStateM Fault ObjectTable _).run history.table :=
          rfl
        rw [ObjectEvent.perform, ObjectEvent.onTable, final_zoom, run, run_lift, sound.resolve]
        rfl
      rw [same]
      exact sound
  | create memory request =>
      rcases newObjOps_cases memory request.eObjType with ⟨_, ops, isOps⟩ | ⟨lacks, _⟩
      · rw [run_create_ok supported.object isOps]
        exact afterCreation_sound sound supported.name
      · exact absurd supported.ops lacks

end Steps

/-! ## The table of the daemon -/

/-- The daemon's object is this one without what the daemon does not read. -/
structure StoredRibObject.Shows (object : StoredRibObject) (shown : RibObject) : Prop where
  ops : object.pxObjOps = some shown.pxObjOps
  name : object.ucObjName = .target shown.ucObjName
  inst : object.ulObjInst = shown.ulObjInst

/-- Row by row. -/
abbrev ObjectTable.Shows (table : ObjectTable) (rows : List (Option RibObject)) : Prop :=
  List.Forall₂ (Option.Rel StoredRibObject.Shows) table.rows rows

section Daemon

variable {table : ObjectTable} {rows : List (Option RibObject)}

theorem shows_add {object : StoredRibObject} {shown : RibObject} (shows_it : object.Shows shown)
    {slots : List (Option StoredRibObject)}
    (shows_rows : List.Forall₂ (Option.Rel StoredRibObject.Shows) slots rows) :
    List.Forall₂ (Option.Rel StoredRibObject.Shows) (SlotTable.add object slots)
      (SlotTable.add shown rows) := by
  induction shows_rows with
  | nil => exact .nil
  | cons first rest ih =>
      cases first with
      | none => exact .cons (.some shows_it) rest
      | some held => exact .cons (.some held) ih

/-- The object as the daemon creates it. -/
def shownObject (memory : ObjectMemory) (request : ObjectRequest) : RibObject where
  pxObjOps := ObjectTable.fillObjOps memory.leftOps request.eObjType
  ucObjName := request.ucObjName
  ulObjInst := request.ulObjInst

/-- All memory is obtained. -/
structure ObjectMemory.Granted (memory : ObjectMemory) : Prop where
  object : memory.object = true
  ops : memory.ops = true
  name : memory.name = true

/-- With memory, a creation does to the daemon's table what it does to this one. -/
theorem create_shows (shows_rows : table.Shows rows) {memory : ObjectMemory}
    {request : ObjectRequest} {state : RibState} (same : state.xRibObjectTable = rows)
    (object : memory.object = true) (ops : memory.ops = true) (name : memory.name = true) :
    ∃ stored next shown rib,
      (ObjectTable.pxRibCreateObject memory request).run table = .ok (some stored) next ∧
      (pxRibCreateObject memory.leftOps (.target request.ucObjName) request.ulObjInst
        request.eObjType).run state = .ok shown rib ∧
      stored.Shows shown ∧ next.Shows rib.xRibObjectTable := by
  have isOps : ObjectTable.newObjOps memory request.eObjType =
      .ok (some (ObjectTable.fillObjOps memory.leftOps request.eObjType)) := by
    rw [ObjectTable.newObjOps, if_pos ops]
    rfl
  have run : (ObjectTable.pxRibCreateObject memory request).run table =
      .ok (some (table.newObject memory request
          (some (ObjectTable.fillObjOps memory.leftOps request.eObjType))))
        { rows := SlotTable.add (table.newObject memory request
            (some (ObjectTable.fillObjOps memory.leftOps request.eObjType))) table.rows
          next := table.next + 1 } := by
    rw [ObjectTable.pxRibCreateObject, object]
    simp only [Bool.not_true, Bool.false_eq_true, if_false]
    rw [run_bind_ok (run_lift_ok isOps)]
    rfl
  have created : (pxRibCreateObject memory.leftOps (.target request.ucObjName) request.ulObjInst
      request.eObjType).run state =
        .ok (shownObject memory request) { state with
          xRibObjectTable := SlotTable.add (shownObject memory request) state.xRibObjectTable } := by
    rw [shownObject]
    cases request.eObjType <;> rfl
  have shown : (table.newObject memory request
      (some (ObjectTable.fillObjOps memory.leftOps request.eObjType))).Shows
        (shownObject memory request) := ⟨rfl, if_pos name, rfl⟩
  refine ⟨_, _, _, _, run, created, shown, ?_⟩
  rw [ObjectTable.Shows, same]
  exact shows_add shown shows_rows

/-- Lookups find the same. -/
theorem find_shows {slots : List (Option StoredRibObject)}
    (shows_rows : List.Forall₂ (Option.Rel StoredRibObject.Shows) slots rows) (name : String) :
    ∃ stored shown, ObjectTable.findObject name slots = .ok stored ∧
      findNamed RibObject.ucObjName (.target name) rows = .ok shown ∧
      Option.Rel StoredRibObject.Shows stored shown := by
  induction shows_rows with
  | nil => exact ⟨none, none, rfl, rfl, .none⟩
  | cons first rest ih =>
      cases first with
      | none => exact ih
      | @some object shown held =>
          by_cases wanted : shown.ucObjName = name
          · refine ⟨some object, some shown, ?_, ?_, .some held⟩
            · simp only [ObjectTable.findObject, held.name, Pointer.read_target, ok_bind, wanted,
                if_true]
              rfl
            · simp only [findNamed, Pointer.read_target, ok_bind, wanted, if_true]
              rfl
          · simp only [ObjectTable.findObject, findNamed, held.name, Pointer.read_target, ok_bind,
              wanted, if_false]
            exact ih

/-- After any creations with memory the daemon finds under every name what is found here. -/
theorem creations_show (creations : List (ObjectMemory × ObjectRequest))
    (granted : ∀ creation ∈ creations, creation.1.Granted) {state : RibState}
    (shows_rows : table.Shows state.xRibObjectTable) :
    ∃ next rib,
      (Command.sequence (fun creation => ObjectTable.pxRibCreateObject creation.1 creation.2)
        creations).run table = .ok ⟨⟩ next ∧
      (Command.sequence (fun creation => pxRibCreateObject creation.1.leftOps
        (.target creation.2.ucObjName) creation.2.ulObjInst creation.2.eObjType)
        creations).run state = .ok ⟨⟩ rib ∧
      ∀ name, ∃ stored shown, (ObjectTable.pxRibFindObject name).run next = .ok stored next ∧
        (pxRibFindObject (.target name)).run rib = .ok shown rib ∧
        Option.Rel StoredRibObject.Shows stored shown := by
  induction creations generalizing table state with
  | nil =>
      refine ⟨table, state, rfl, rfl, fun name => ?_⟩
      obtain ⟨stored, shown, found, finds, same⟩ := find_shows shows_rows name
      refine ⟨stored, shown, ?_, ?_, same⟩
      · exact run_lift_ok found
      · rw [pxRibFindObject, run_findNamed _ RibState.xRibObjectTable, finds]
        rfl
  | cons creation creations ih =>
      obtain ⟨object, ops, name⟩ := granted creation List.mem_cons_self
      obtain ⟨stored, next, shown, rib, run, created, -, shows_next⟩ :=
        create_shows shows_rows rfl object ops name
      obtain ⟨last, daemon, rest, others, finds⟩ :=
        ih (fun other member => granted other (List.mem_cons_of_mem creation member)) shows_next
      refine ⟨last, daemon, ?_, ?_, finds⟩
      · rw [Command.sequence, run_bind_ok run]
        exact rest
      · rw [Command.sequence, run_bind_ok created]
        exact others

end Daemon

/-! ## Runs -/

/-- The sequences of creations and lookups in which the table does what it is for. -/
theorem objectTable_run_iff (events : List ObjectEvent) :
    (∀ occurrence ∈ trace ObjectEvent.perform events ObjectHistory.initial,
        occurrence.event.Kept occurrence.before occurrence.result) ↔
      ∀ occurrence ∈ trace ObjectEvent.perform events ObjectHistory.initial,
        occurrence.event.Supported occurrence.before := by
  apply proper_iff_supported ObjectHistory.Sound ObjectEvent.Supported ObjectEvent.Kept
  · exact fun before event sound => kept_iff_supported sound event
  · exact fun before event sound supported => sound_of_supported sound event supported
  · exact sound_initial

/-- All memory is obtained and happens to be clear. -/
def ObjectMemory.clear : ObjectMemory where
  object := true
  ops := true
  name := true
  leftClass := .null
  leftOps := { start := none, stop := false, delete := false }

/-- The object of the first enrollment, as it is created. -/
def enrollmentRequest : ObjectRequest where
  ucObjName := "/difm/enr"
  ulObjInst := 0
  ucDisplayableValue := .target "enrollment"
  ucObjClass := .target "enrollment"
  eObjType := .enrollment

/-- The object has no class. -/
theorem created_object_has_no_class :
    ¬ ∀ occurrence ∈ trace ObjectEvent.perform [.create .clear enrollmentRequest]
        ObjectHistory.initial, occurrence.event.Kept occurrence.before occurrence.result := by
  intro all
  have kept := all _ (mem_trace_cons.mpr (.inl rfl))
  have supported := (kept_iff_supported sound_initial _).mp kept
  cases supported.leftClass

end RinaSense
