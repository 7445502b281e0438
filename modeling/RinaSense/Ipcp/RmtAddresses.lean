import RinaSense.Common.RsList
import RinaSense.Ipcp.State
import RinaSense.Library.Trace

/-!
# The addresses of the RMT

The list `xRmtAddressAdd` fills and `xRmtPduIsAddressedToMe` searches. Its items are parts of
the `rmtAddress_t` on the heap, and the search releases the one it finds.
-/

namespace RinaSense

open Trace

abbrev AddressNodeId := Nat

/-- The `rmtAddress_t` on the heap, one without an address where it was never written, and the
list of some of them. -/
structure RmtAddressList where
  nodes : Store (Option Address)
  xAddresses : List AddressNodeId

namespace RmtAddressList

/-- `vRsListInsert` writes to the links of the item in front and of the one behind. -/
def insertAddress (node : AddressNodeId) : EStateM Fault RmtAddressList Unit := do
  let rmt ← get
  if (rmt.xAddresses.take 2).all fun other => (rmt.nodes.get? other).isSome then
    set { rmt with xAddresses := vRsListInsert rmt.xAddresses node }
  else throw .released

def xRmtAddressAdd (pxInstance memory : Bool) (xAddress : Address) :
    EStateM Fault RmtAddressList Bool := do
  if !pxInstance then return false
  if !memory then return false
  let rmt ← get
  let (nodes, pxRmtAddr) := rmt.nodes.allocate (some xAddress)
  set { rmt with nodes }
  insertAddress pxRmtAddr
  return true

/-- The loop of `xRmtPduIsAddressedToMe` over the items that are left. -/
def findAddress (xAddress : Address) : List AddressNodeId → EStateM Fault RmtAddressList Bool
  | [] => return false
  | pxAddr :: rest => do
      match (← get).nodes.get? pxAddr with
      | none => throw .released
      | some found =>
          if found = some xAddress then
            modify fun rmt => { rmt with nodes := rmt.nodes.free pxAddr }
            return true
          else findAddress xAddress rest

/-- The memory it asks for first is never used. -/
def xRmtPduIsAddressedToMe (memory : Bool) (xAddress : Address) :
    EStateM Fault RmtAddressList Bool := do
  if memory then
    modify fun rmt => { rmt with nodes := (rmt.nodes.allocate none).1 }
  findAddress xAddress (← get).xAddresses

end RmtAddressList

/-! ## Runs -/

/-- The list with the addresses that were added to it. -/
structure AddressFilter where
  rmt : RmtAddressList
  added : List Address

/-- `vRsListInit` on a heap with anything else in it. -/
def AddressFilter.start (nodes : Store (Option Address)) : AddressFilter where
  rmt := { nodes, xAddresses := [] }
  added := []

inductive AddressOp where
  | add (pxInstance memory : Bool) (xAddress : Address)
  | test (memory : Bool) (xAddress : Address)
  deriving Repr, DecidableEq

namespace AddressFilter

def onList {α : Type} (command : EStateM Fault RmtAddressList α) : EStateM Fault AddressFilter α :=
  Command.zoom AddressFilter.rmt (fun rmt filter => { filter with rmt }) command

def perform : AddressOp → EStateM Fault AddressFilter Bool
  | .add pxInstance memory xAddress => do
      let done ← onList (RmtAddressList.xRmtAddressAdd pxInstance memory xAddress)
      if done then
        modify fun filter => { filter with added := xAddress :: filter.added }
      return done
  | .test memory xAddress => onList (RmtAddressList.xRmtPduIsAddressedToMe memory xAddress)

/-! ## Purpose -/

/-- A test tells whether the address was added, and leaves the list and its nodes. -/
structure Tests (before : AddressFilter) (xAddress : Address)
    (result : EStateM.Result Fault AddressFilter Bool) : Prop where
  answers : ∃ found next, result = .ok found next ∧ (found = true ↔ xAddress ∈ before.added)
  list : (Command.final result).rmt.xAddresses = before.rmt.xAddresses
  nodes : ∀ node ∈ before.rmt.xAddresses,
    (Command.final result).rmt.nodes.get? node = before.rmt.nodes.get? node

def FiltersProperly (before : AddressFilter) (operation : AddressOp)
    (result : EStateM.Result Fault AddressFilter Bool) : Prop :=
  ∀ memory xAddress, operation = .test memory xAddress → before.Tests xAddress result

/-- No address is tested that was added. -/
def FindsNothing (before : AddressFilter) (operation : AddressOp) : Prop :=
  ∀ memory xAddress, operation = .test memory xAddress → xAddress ∉ before.added

/-! ## The list in memory -/

/-- The items are in use and hold the addresses that were added. -/
structure Intact (filter : AddressFilter) : Prop where
  holds : ∀ node ∈ filter.rmt.xAddresses,
    ∃ xAddress ∈ filter.added, filter.rmt.nodes.get? node = some (some xAddress)
  listed : ∀ xAddress ∈ filter.added,
    ∃ node ∈ filter.rmt.xAddresses, filter.rmt.nodes.get? node = some (some xAddress)

theorem intact_start (nodes : Store (Option Address)) : (start nodes).Intact where
  holds := fun _ member => absurd member List.not_mem_nil
  listed := fun _ member => absurd member List.not_mem_nil

variable {filter : AddressFilter} {xAddress : Address}

/-- More memory in use changes no item. -/
theorem Intact.get?_allocate (intact : filter.Intact) {node : AddressNodeId}
    (member : node ∈ filter.rmt.xAddresses) (value : Option Address) :
    (filter.rmt.nodes.allocate value).1.get? node = filter.rmt.nodes.get? node := by
  obtain ⟨_, -, found⟩ := intact.holds node member
  exact Store.get?_allocate_of_lt _ _ (Store.lt_next found)

theorem Intact.allocate (intact : filter.Intact) :
    ({ filter with rmt := { filter.rmt with nodes := (filter.rmt.nodes.allocate none).1 } } :
      AddressFilter).Intact where
  holds := by
    intro node member
    obtain ⟨xAddress, isAdded, found⟩ := intact.holds node member
    exact ⟨xAddress, isAdded, (intact.get?_allocate member none).trans found⟩
  listed := by
    intro xAddress isAdded
    obtain ⟨node, member, found⟩ := intact.listed xAddress isAdded
    exact ⟨node, member, (intact.get?_allocate member none).trans found⟩

/-- The list with one more address. -/
def withAddress (filter : AddressFilter) (xAddress : Address) : AddressFilter where
  rmt :=
    { nodes := (filter.rmt.nodes.allocate (some xAddress)).1
      xAddresses := vRsListInsert filter.rmt.xAddresses filter.rmt.nodes.next }
  added := xAddress :: filter.added

theorem Intact.withAddress (intact : filter.Intact) (xAddress : Address) :
    (filter.withAddress xAddress).Intact where
  holds := by
    intro node member
    rcases mem_vRsListInsert.mp member with rfl | old
    · exact ⟨xAddress, List.mem_cons_self, Store.get?_allocate_new _ _⟩
    · obtain ⟨other, isAdded, found⟩ := intact.holds node old
      exact ⟨other, List.mem_cons_of_mem _ isAdded, (intact.get?_allocate old _).trans found⟩
  listed := by
    intro other isAdded
    rcases List.mem_cons.mp isAdded with rfl | before
    · exact ⟨_, mem_vRsListInsert.mpr (.inl rfl), Store.get?_allocate_new _ _⟩
    · obtain ⟨node, member, found⟩ := intact.listed other before
      exact ⟨node, mem_vRsListInsert.mpr (.inr member), (intact.get?_allocate member _).trans found⟩

/-! ## Operations -/

theorem run_onList {α : Type} (command : EStateM Fault RmtAddressList α) (filter : AddressFilter) :
    (onList command).run filter =
      match command.run filter.rmt with
      | .ok value rmt => .ok value { filter with rmt }
      | .error fault rmt => .error fault { filter with rmt } := by
  rw [onList, Command.run_zoom]
  cases command.run filter.rmt with
  | ok value rmt => rfl
  | error fault rmt => rfl

/-- An address is added where there is an instance and memory. -/
theorem Intact.run_add (intact : filter.Intact) (pxInstance memory : Bool) (xAddress : Address) :
    (perform (.add pxInstance memory xAddress)).run filter =
      if pxInstance && memory then .ok true (filter.withAddress xAddress)
      else .ok false filter := by
  cases pxInstance with
  | false => rfl
  | true =>
      cases memory with
      | false => rfl
      | true =>
          have live : ((filter.rmt.xAddresses.take 2).all fun other =>
              ((filter.rmt.nodes.allocate (some xAddress)).1.get? other).isSome) = true := by
            rw [List.all_eq_true]
            intro other member
            have listed := List.mem_of_mem_take member
            obtain ⟨_, -, found⟩ := intact.holds other listed
            rw [intact.get?_allocate listed, found]
            rfl
          have inserted : (RmtAddressList.insertAddress filter.rmt.nodes.next).run
              { filter.rmt with nodes := (filter.rmt.nodes.allocate (some xAddress)).1 } =
                .ok ⟨⟩ (filter.withAddress xAddress).rmt := by
            rw [RmtAddressList.insertAddress, EStateM.run_bind, EStateM.run_get]
            exact congrArg (EStateM.run · _) (if_pos live)
          simp only [perform, EStateM.run_bind, run_onList, RmtAddressList.xRmtAddressAdd,
            Bool.not_true, Bool.false_eq_true, if_false, EStateM.run_get, EStateM.run_set,
            Bool.and_self, if_true]
          rw [show (filter.rmt.nodes.allocate (some xAddress)).2 = filter.rmt.nodes.next from rfl,
            inserted]
          rfl

/-- A search among nodes that hold other addresses ends without one. -/
theorem run_findAddress_other {rmt : RmtAddressList} {nodes : List AddressNodeId}
    (others : ∀ node ∈ nodes, ∃ other, other ≠ some xAddress ∧ rmt.nodes.get? node = some other) :
    (RmtAddressList.findAddress xAddress nodes).run rmt = .ok false rmt := by
  induction nodes with
  | nil => rfl
  | cons node rest ih =>
      obtain ⟨other, different, found⟩ := others node List.mem_cons_self
      simp only [RmtAddressList.findAddress, EStateM.run_bind, EStateM.run_get, found, different,
        if_false]
      exact ih fun later member => others later (List.mem_cons_of_mem _ member)

/-- A search among nodes in use that finds its address releases the node. -/
theorem run_findAddress_found {rmt : RmtAddressList} {nodes : List AddressNodeId}
    (live : ∀ node ∈ nodes, ∃ other, rmt.nodes.get? node = some other)
    (holds : ∃ node ∈ nodes, rmt.nodes.get? node = some (some xAddress)) :
    ∃ node ∈ nodes, (RmtAddressList.findAddress xAddress nodes).run rmt =
      .ok true { rmt with nodes := rmt.nodes.free node } := by
  induction nodes with
  | nil =>
      obtain ⟨node, member, -⟩ := holds
      exact absurd member List.not_mem_nil
  | cons first rest ih =>
      obtain ⟨other, found⟩ := live first List.mem_cons_self
      by_cases same : other = some xAddress
      · refine ⟨first, List.mem_cons_self, ?_⟩
        simp only [RmtAddressList.findAddress, EStateM.run_bind, EStateM.run_get, found, same,
          if_true]
        rfl
      · have later : ∃ node ∈ rest, rmt.nodes.get? node = some (some xAddress) := by
          obtain ⟨node, member, isAddress⟩ := holds
          rcases List.mem_cons.mp member with rfl | inRest
          · exact absurd (Option.some.inj (found.symm.trans isAddress)) same
          · exact ⟨node, inRest, isAddress⟩
        obtain ⟨node, member, run⟩ :=
          ih (fun node member => live node (List.mem_cons_of_mem _ member)) later
        refine ⟨node, List.mem_cons_of_mem _ member, ?_⟩
        simp only [RmtAddressList.findAddress, EStateM.run_bind, EStateM.run_get, found, same,
          if_false]
        exact run

/-- The list a test searches. -/
def searched (filter : AddressFilter) (memory : Bool) : AddressFilter :=
  if memory then
    { filter with rmt := { filter.rmt with nodes := (filter.rmt.nodes.allocate none).1 } }
  else filter

theorem run_test (memory : Bool) (xAddress : Address) (filter : AddressFilter) :
    (perform (.test memory xAddress)).run filter =
      (onList (RmtAddressList.findAddress xAddress filter.rmt.xAddresses)).run
        (filter.searched memory) := by
  cases memory with
  | false => rfl
  | true => rfl

theorem Intact.searched (intact : filter.Intact) (memory : Bool) :
    (filter.searched memory).Intact := by
  cases memory with
  | false => exact intact
  | true => exact intact.allocate

theorem Intact.get?_searched (intact : filter.Intact) (memory : Bool) {node : AddressNodeId}
    (member : node ∈ filter.rmt.xAddresses) :
    (filter.searched memory).rmt.nodes.get? node = filter.rmt.nodes.get? node := by
  cases memory with
  | false => rfl
  | true => exact intact.get?_allocate member none

/-- Where the address was not added, the test says so. -/
theorem Intact.run_test_absent (intact : filter.Intact) (memory : Bool)
    (absent : xAddress ∉ filter.added) :
    (perform (.test memory xAddress)).run filter = .ok false (filter.searched memory) := by
  have others : ∀ node ∈ filter.rmt.xAddresses, ∃ other, other ≠ some xAddress ∧
      (filter.searched memory).rmt.nodes.get? node = some other := by
    intro node member
    obtain ⟨other, isAdded, found⟩ := intact.holds node member
    refine ⟨some other, fun same => ?_, (intact.get?_searched memory member).trans found⟩
    exact absent (Option.some.inj same ▸ isAdded)
  rw [run_test, run_onList, run_findAddress_other others]

/-- Where it was, the node is released that is in the list. -/
theorem Intact.not_tests_present (intact : filter.Intact) (memory : Bool)
    (present : xAddress ∈ filter.added) :
    ¬ filter.Tests xAddress ((perform (.test memory xAddress)).run filter) := by
  have live : ∀ node ∈ filter.rmt.xAddresses,
      ∃ other, (filter.searched memory).rmt.nodes.get? node = some other := by
    intro node member
    obtain ⟨other, -, found⟩ := intact.holds node member
    exact ⟨some other, (intact.get?_searched memory member).trans found⟩
  have holds : ∃ node ∈ filter.rmt.xAddresses,
      (filter.searched memory).rmt.nodes.get? node = some (some xAddress) := by
    obtain ⟨node, member, found⟩ := intact.listed xAddress present
    exact ⟨node, member, (intact.get?_searched memory member).trans found⟩
  obtain ⟨node, member, run⟩ := run_findAddress_found live holds
  intro tests
  have kept := tests.nodes node member
  rw [run_test, run_onList, run] at kept
  obtain ⟨_, -, found⟩ := intact.holds node member
  rw [found] at kept
  change (Store.free _ node).get? node = _ at kept
  rw [Store.get?_free_self] at kept
  cases kept

theorem Intact.filters_iff (intact : filter.Intact) (operation : AddressOp) :
    FiltersProperly filter operation ((perform operation).run filter) ↔
      FindsNothing filter operation := by
  constructor
  · rintro properly memory xAddress rfl present
    exact intact.not_tests_present memory present (properly memory xAddress rfl)
  · rintro nothing memory xAddress rfl
    have absent := nothing memory xAddress rfl
    rw [intact.run_test_absent memory absent]
    refine ⟨⟨false, _, rfl, iff_of_false Bool.false_ne_true absent⟩, ?_, fun node member => ?_⟩
    · cases memory with
      | false => rfl
      | true => rfl
    · exact intact.get?_searched memory member

theorem Intact.kept (intact : filter.Intact) {operation : AddressOp}
    (nothing : FindsNothing filter operation) :
    (Command.final ((perform operation).run filter)).Intact := by
  cases operation with
  | add pxInstance memory xAddress =>
      rw [intact.run_add]
      split
      · exact intact.withAddress xAddress
      · exact intact
  | test memory xAddress =>
      rw [intact.run_test_absent memory (nothing memory xAddress rfl)]
      exact intact.searched memory

/-- In a run of additions and tests every test tells whether the address was added and leaves
the list and its nodes, if and only if no test is for an address that was added. -/
theorem rmt_addresses_iff (nodes : Store (Option Address)) (operations : List AddressOp) :
    (∀ occurrence ∈ trace perform operations (start nodes),
      FiltersProperly occurrence.before occurrence.event occurrence.result) ↔
    ∀ occurrence ∈ trace perform operations (start nodes),
      FindsNothing occurrence.before occurrence.event :=
  proper_iff_supported Intact FindsNothing FiltersProperly
    (fun _ operation intact => intact.filters_iff operation)
    (fun _ _ intact nothing => intact.kept nothing) (intact_start nodes)

/-- The first test for an address that was added releases its node. -/
theorem tested_node_released :
    ¬ ∀ occurrence ∈ trace perform [.add true true 1, .test true 1] (start Store.empty),
      FiltersProperly occurrence.before occurrence.event occurrence.result := by
  intro all
  have intact := intact_start Store.empty
  have added := intact.run_add true true 1
  have properly := all _
    (mem_trace_cons.mpr (.inr ⟨_, _, added, mem_trace_cons.mpr (.inl rfl)⟩))
  exact (intact.withAddress 1).not_tests_present true List.mem_cons_self (properly true 1 rfl)

end AddressFilter

end RinaSense
