import BleMesh.Foundation.ByteReader
import BleMesh.Foundation.SlotTable
import BleMesh.Provisioner.Definitions

/-! # `parse_composition_data`

The parser reads a composition reply through one running offset and fills the
first record with the sender's address. Its only length test is made before the
first byte is read.
-/

namespace BleMesh.Provisioner

open Foundation

variable {capacity : Nat}

/-- `struct net_buf_simple`: the bytes from the data pointer on, and the number of
them that belong to the buffer. -/
structure NetBufSimple where
  data : Nat → UInt8
  len : Nat

structure CompositionHeader where
  companyId : UInt16
  productId : UInt16
  versionId : UInt16
  crpl : UInt16
  feature : UInt16
  deriving DecidableEq

def readHeader : Reader CompositionHeader := do
  let companyId ← Reader.readWord
  let productId ← Reader.readWord
  let versionId ← Reader.readWord
  let crpl ← Reader.readWord
  let feature ← Reader.readWord
  return { companyId, productId, versionId, crpl, feature }

/-- The vendor models of an element. Each takes two bytes of the buffer; the company
id is that of the node. -/
def readVndModels (cid : UInt16) (vndModelCount : Nat) : Reader (Option (List VndModelId)) :=
  if 0 < vndModelCount then do
    Reader.assertAllocated
    let modelIds ← Reader.readWord.times vndModelCount
    return some (modelIds.map fun modelId => { companyId := cid, modelId })
  else
    return none

/-- The model arrays of an element. The vendor models are read inside the branch that
is taken when there are SIG models. -/
def readModels (cid : UInt16) (sigModelCount vndModelCount : Nat) :
    Reader (Option (List UInt16) × Option (List VndModelId)) :=
  if 0 < sigModelCount then do
    Reader.assertAllocated
    let sigModels ← Reader.readWord.times sigModelCount
    let vndModels ← readVndModels cid vndModelCount
    return (some sigModels, vndModels)
  else
    return (none, none)

/-- One pass of the loop over the elements. -/
def readElement (cid : UInt16) : Reader ElementInfo := do
  let elementId ← Reader.readWord
  let sigModelCount ← Reader.readNext
  let vndModelCount ← Reader.readNext
  let models ← readModels cid sigModelCount.toNat vndModelCount.toNat
  return {
    elementId
    sigModelCount := sigModelCount.toNat
    vndModelCount := vndModelCount.toNat
    sigModels := models.1
    vndModels := models.2 }

/-- The record a reply from `unicast` is stored in: the first with that address. -/
def findProvNode (table : SlotTable ProvNodeInfo capacity) (unicast : UInt16) :
    Option (Nat × ProvNodeInfo) :=
  table.find fun node => node.unicastAddress == unicast

/-- A record with the header of a composition stored in it. -/
def ProvNodeInfo.withHeader (node : ProvNodeInfo) (header : CompositionHeader) :
    ProvNodeInfo :=
  { node with
    cid := header.companyId
    pid := header.productId
    vid := header.versionId
    crpl := header.crpl
    features := header.feature }

/-- The part of the parser that reads the buffer: the code returned and the table. -/
def readComposition (table : SlotTable ProvNodeInfo capacity) (unicast : UInt16) :
    Reader (Int × SlotTable ProvNodeInfo capacity) := do
  let header ← readHeader
  match findProvNode table unicast with
  | none => return (-1, table)
  | some (index, node) =>
      if ← Reader.allocate then
        let elements ← (readElement header.companyId).times node.elementNum
        return (0, table.set index
          (some { node.withHeader header with elements := some elements }))
      else
        return (-1, table.set index (some { node.withHeader header with elements := none }))

/-- What a call does: the code and the table it returns with, unless an assertion
fails on the way, and the indices of `composition_data` it reads. -/
structure ParseResult (capacity : Nat) where
  returned : Option (Int × SlotTable ProvNodeInfo capacity)
  reads : List Nat

/-- `malloc` answers the allocations of the call, in the order in which they are
made. -/
def parseCompositionData (table : SlotTable ProvNodeInfo capacity) (malloc : Nat → Bool)
    (compositionBuffer : Option NetBufSimple) (unicast : UInt16) : ParseResult capacity :=
  match compositionBuffer with
  | none => { returned := some (-1, table), reads := [] }
  | some buffer =>
      if espBleMeshAddrIsUnicast unicast = false then
        { returned := some (-1, table), reads := [] }
      else if buffer.len < 7 then
        { returned := some (-1, table), reads := [] }
      else
        let source : Source := { byte := buffer.data, malloc }
        let result := (readComposition table unicast).run source Cursor.start
        { returned := result.1, reads := result.2.reads }

/-! ## What the readers compute -/

def headerAt (source : Source) (offset : Nat) : CompositionHeader where
  companyId := source.word offset
  productId := source.word (offset + 2)
  versionId := source.word (offset + 4)
  crpl := source.word (offset + 6)
  feature := source.word (offset + 8)

@[simp] theorem run_readHeader (source : Source) (cursor : Cursor) :
    readHeader.run source cursor =
      (some (headerAt source cursor.offset), cursor.advance 10) := by
  rw [readHeader, Reader.run_bind_some (Reader.run_readWord source _),
    Reader.run_bind_some (Reader.run_readWord source _),
    Reader.run_bind_some (Reader.run_readWord source _),
    Reader.run_bind_some (Reader.run_readWord source _),
    Reader.run_bind_some (Reader.run_readWord source _), Reader.run_pure]
  simp [headerAt]

def vndModelsAt (source : Source) (cid : UInt16) (offset count : Nat) :
    Option (List VndModelId) :=
  if count = 0 then none
  else some ((source.words offset count).map fun modelId => { companyId := cid, modelId })

def sigModelsAt (source : Source) (offset count : Nat) : Option (List UInt16) :=
  if count = 0 then none else some (source.words offset count)

def sigCountAt (source : Source) (offset : Nat) : Nat := (source.byte (offset + 2)).toNat

def vndCountAt (source : Source) (offset : Nat) : Nat := (source.byte (offset + 3)).toNat

/-- The record of the element whose first byte lies at `offset`. -/
def elementAt (source : Source) (cid : UInt16) (offset : Nat) : ElementInfo :=
  let sigCount := sigCountAt source offset
  let vndCount := vndCountAt source offset
  { elementId := source.word offset
    sigModelCount := sigCount
    vndModelCount := vndCount
    sigModels := sigModelsAt source (offset + 4) sigCount
    vndModels :=
      if sigCount = 0 then none
      else vndModelsAt source cid (offset + 4 + 2 * sigCount) vndCount }

/-- The allocations for the element at the cursor all succeed. -/
def elementAllocated (source : Source) (cursor : Cursor) : Bool :=
  sigCountAt source cursor.offset == 0 ||
    source.malloc cursor.mallocs &&
      (vndCountAt source cursor.offset == 0 || source.malloc (cursor.mallocs + 1))

/-- Where reading the element at the cursor ends: behind its models, or where an
allocation fails. -/
def afterElement (source : Source) (cursor : Cursor) : Cursor :=
  let sigCount := sigCountAt source cursor.offset
  let vndCount := vndCountAt source cursor.offset
  if sigCount = 0 then cursor.advance 4
  else if source.malloc cursor.mallocs = false then cursor.countMalloc.advance 4
  else if vndCount = 0 then cursor.countMalloc.advance (4 + 2 * sigCount)
  else if source.malloc (cursor.mallocs + 1) = false then
    cursor.countMalloc.countMalloc.advance (4 + 2 * sigCount)
  else cursor.countMalloc.countMalloc.advance (4 + 2 * sigCount + 2 * vndCount)

theorem run_readVndModels (source : Source) (cid : UInt16) (count : Nat) (cursor : Cursor) :
    (readVndModels cid count).run source cursor =
      if count = 0 then (some none, cursor)
      else if source.malloc cursor.mallocs = false then (none, cursor.countMalloc)
      else (some (vndModelsAt source cid cursor.offset count),
        cursor.countMalloc.advance (2 * count)) := by
  rw [readVndModels]
  by_cases absent : count = 0
  · simp [absent]
  · rw [if_pos (Nat.pos_of_ne_zero absent), if_neg absent]
    cases allocated : source.malloc cursor.mallocs with
    | false => exact Reader.run_bind_none (Reader.run_assertAllocated_of_failure allocated)
    | true =>
        rw [Reader.run_bind_some (Reader.run_assertAllocated_of_malloc allocated),
          Reader.run_bind_some (Reader.run_times_readWord count source _)]
        simp [vndModelsAt, absent]

theorem run_readModels (source : Source) (cid : UInt16) (sigCount vndCount : Nat)
    (cursor : Cursor) :
    (readModels cid sigCount vndCount).run source cursor =
      if sigCount = 0 then (some (none, none), cursor)
      else if source.malloc cursor.mallocs = false then (none, cursor.countMalloc)
      else if vndCount = 0 then
        (some (sigModelsAt source cursor.offset sigCount, none),
          cursor.countMalloc.advance (2 * sigCount))
      else if source.malloc (cursor.mallocs + 1) = false then
        (none, cursor.countMalloc.countMalloc.advance (2 * sigCount))
      else
        (some (sigModelsAt source cursor.offset sigCount,
            vndModelsAt source cid (cursor.offset + 2 * sigCount) vndCount),
          cursor.countMalloc.countMalloc.advance (2 * sigCount + 2 * vndCount)) := by
  rw [readModels]
  by_cases noSig : sigCount = 0
  · simp [noSig]
  · rw [if_pos (Nat.pos_of_ne_zero noSig), if_neg noSig]
    cases sigAllocated : source.malloc cursor.mallocs with
    | false => exact Reader.run_bind_none (Reader.run_assertAllocated_of_failure sigAllocated)
    | true =>
        rw [Reader.run_bind_some (Reader.run_assertAllocated_of_malloc sigAllocated),
          Reader.run_bind_some (Reader.run_times_readWord sigCount source _),
          Reader.run_bind, run_readVndModels]
        by_cases noVnd : vndCount = 0
        · simp [noVnd, noSig, sigModelsAt]
        · cases vndAllocated : source.malloc (cursor.mallocs + 1) <;>
            simp [noVnd, noSig, sigModelsAt, vndAllocated]

theorem run_readElement (source : Source) (cid : UInt16) (cursor : Cursor) :
    (readElement cid).run source cursor =
      (if elementAllocated source cursor then some (elementAt source cid cursor.offset)
        else none, afterElement source cursor) := by
  rw [readElement, Reader.run_bind_some (Reader.run_readWord source _),
    Reader.run_bind_some (Reader.run_readNext source _),
    Reader.run_bind_some (Reader.run_readNext source _)]
  simp only [Cursor.advance_advance, Cursor.advance_offset]
  rw [← sigCountAt, ← vndCountAt, Reader.run_bind, run_readModels]
  by_cases noSig : sigCountAt source cursor.offset = 0
  · simp [elementAllocated, afterElement, elementAt, sigModelsAt, noSig]
  · cases sigAllocated : source.malloc cursor.mallocs with
    | false => simp [elementAllocated, afterElement, noSig, sigAllocated]
    | true =>
        by_cases noVnd : vndCountAt source cursor.offset = 0
        · simp [elementAllocated, afterElement, elementAt, vndModelsAt, noSig, sigAllocated,
            noVnd]
        · cases vndAllocated : source.malloc (cursor.mallocs + 1) <;>
            simp [elementAllocated, afterElement, elementAt, noSig, sigAllocated, noVnd,
              vndAllocated, Nat.add_assoc]

def elementsAllocated (source : Source) (cursor : Cursor) : Nat → Bool
  | 0 => true
  | count + 1 =>
      elementAllocated source cursor &&
        elementsAllocated source (afterElement source cursor) count

def elementsAt (source : Source) (cid : UInt16) (cursor : Cursor) : Nat → List ElementInfo
  | 0 => []
  | count + 1 =>
      elementAt source cid cursor.offset ::
        elementsAt source cid (afterElement source cursor) count

def afterElements (source : Source) (cursor : Cursor) : Nat → Cursor
  | 0 => cursor
  | count + 1 =>
      if elementAllocated source cursor then
        afterElements source (afterElement source cursor) count
      else afterElement source cursor

theorem run_times_readElement (source : Source) (cid : UInt16) (count : Nat)
    (cursor : Cursor) :
    ((readElement cid).times count).run source cursor =
      (if elementsAllocated source cursor count then
          some (elementsAt source cid cursor count)
        else none, afterElements source cursor count) := by
  induction count generalizing cursor with
  | zero => rfl
  | succ count induction =>
      rw [Reader.times, Reader.run_bind, run_readElement]
      cases first : elementAllocated source cursor with
      | false => simp [elementsAllocated, afterElements, first]
      | true =>
          simp only [if_true, Reader.run_bind, induction]
          cases rest : elementsAllocated source (afterElement source cursor) count <;>
            simp [elementsAllocated, elementsAt, afterElements, first, rest]

/-- The cursor behind the header, once the element array has been asked for. -/
def elementsCursor : Cursor := Cursor.start.countMalloc.advance 10

theorem readComposition_of_unknown {table : SlotTable ProvNodeInfo capacity}
    {unicast : UInt16} (unknown : findProvNode table unicast = none) (source : Source) :
    (readComposition table unicast).run source Cursor.start =
      (some (-1, table), Cursor.start.advance 10) := by
  rw [readComposition, Reader.run_bind_some (run_readHeader source _), unknown,
    Reader.run_pure]

theorem readComposition_of_no_memory {table : SlotTable ProvNodeInfo capacity}
    {unicast : UInt16} {index : Nat} {node : ProvNodeInfo}
    (found : findProvNode table unicast = some (index, node)) {source : Source}
    (failed : source.malloc 0 = false) :
    (readComposition table unicast).run source Cursor.start =
      (some (-1, table.set index
        (some { node.withHeader (headerAt source 0) with elements := none })),
        elementsCursor) := by
  have allocation : Reader.allocate.run source (Cursor.start.advance 10) =
      (some false, elementsCursor) := by
    rw [Reader.run_allocate]
    exact congrArg (fun answer => (some answer, elementsCursor)) failed
  rw [readComposition, Reader.run_bind_some (run_readHeader source _), found]
  exact Reader.run_bind_some allocation

theorem readComposition_of_memory {table : SlotTable ProvNodeInfo capacity}
    {unicast : UInt16} {index : Nat} {node : ProvNodeInfo}
    (found : findProvNode table unicast = some (index, node)) {source : Source}
    (allocated : source.malloc 0 = true) :
    (readComposition table unicast).run source Cursor.start =
      (if elementsAllocated source elementsCursor node.elementNum then
          some (0, table.set index (some { node.withHeader (headerAt source 0) with
            elements := some (elementsAt source (source.word 0) elementsCursor
              node.elementNum) }))
        else none,
        afterElements source elementsCursor node.elementNum) := by
  have allocation : Reader.allocate.run source (Cursor.start.advance 10) =
      (some true, elementsCursor) := by
    rw [Reader.run_allocate]
    exact congrArg (fun answer => (some answer, elementsCursor)) allocated
  rw [readComposition, Reader.run_bind_some (run_readHeader source _), found]
  refine (Reader.run_bind_some allocation).trans ?_
  simp only [if_true, Reader.run_bind, run_times_readElement]
  cases elementsAllocated source elementsCursor node.elementNum <;> rfl

/-- A buffer that gets past the tests is read by `readComposition`. -/
theorem parseCompositionData_eq (table : SlotTable ProvNodeInfo capacity)
    (malloc : Nat → Bool) (buffer : NetBufSimple) {unicast : UInt16}
    (isUnicast : espBleMeshAddrIsUnicast unicast = true) (longEnough : 7 ≤ buffer.len) :
    parseCompositionData table malloc (some buffer) unicast =
      { returned := ((readComposition table unicast).run
          { byte := buffer.data, malloc } Cursor.start).1
        reads := ((readComposition table unicast).run
          { byte := buffer.data, malloc } Cursor.start).2.reads } := by
  rw [parseCompositionData, isUnicast, if_neg (by decide), if_neg (Nat.not_lt.mpr longEnough)]

/-! ## What a call leaves behind -/

/-- The model arrays of an element are allocated and filled as the parser does it. -/
structure ElementInfo.StoredModels (element : ElementInfo) : Prop where
  sig : (element.sigModels.getD []).length = element.sigModelCount
  vnd : (element.vndModels.getD []).length =
    if element.sigModelCount = 0 then 0 else element.vndModelCount

theorem elementAt_storedModels (source : Source) (cid : UInt16) (offset : Nat) :
    (elementAt source cid offset).StoredModels := by
  constructor
  · simp only [elementAt, sigModelsAt]
    split <;> simp_all
  · by_cases noSig : sigCountAt source offset = 0
    · simp [elementAt, noSig]
    · simp only [elementAt, vndModelsAt, noSig, if_false]
      split <;> simp_all

theorem elementsAt_length (source : Source) (cid : UInt16) (count : Nat) (cursor : Cursor) :
    (elementsAt source cid cursor count).length = count := by
  induction count generalizing cursor with
  | zero => rfl
  | succ count induction => simp [elementsAt, induction]

theorem elementsAt_storedModels (source : Source) (cid : UInt16) (count : Nat)
    (cursor : Cursor) :
    ∀ element ∈ elementsAt source cid cursor count, element.StoredModels := by
  induction count generalizing cursor with
  | zero => simp [elementsAt]
  | succ count induction =>
      rw [elementsAt, List.forall_mem_cons]
      exact ⟨elementAt_storedModels source cid _, induction _⟩

/-- What a call that returns has done to the table. -/
inductive ParseEffect (table : SlotTable ProvNodeInfo capacity) (unicast : UInt16) :
    Int → SlotTable ProvNodeInfo capacity → Prop
  | rejected : ParseEffect table unicast (-1) table
  | noMemory {index node} (header : CompositionHeader)
      (found : findProvNode table unicast = some (index, node)) :
      ParseEffect table unicast (-1)
        (table.set index (some { node.withHeader header with elements := none }))
  | stored {index node elements} (header : CompositionHeader)
      (found : findProvNode table unicast = some (index, node))
      (elements_length : elements.length = node.elementNum)
      (storedModels : ∀ element ∈ elements, element.StoredModels) :
      ParseEffect table unicast 0
        (table.set index (some { node.withHeader header with elements := some elements }))

theorem parseCompositionData_effect {table after : SlotTable ProvNodeInfo capacity}
    {malloc : Nat → Bool} {compositionBuffer : Option NetBufSimple} {unicast : UInt16}
    {code : Int}
    (returns : (parseCompositionData table malloc compositionBuffer unicast).returned =
      some (code, after)) : ParseEffect table unicast code after := by
  cases compositionBuffer with
  | none =>
      cases returns
      exact .rejected
  | some buffer =>
      cases isUnicast : espBleMeshAddrIsUnicast unicast with
      | false =>
          simp only [parseCompositionData, isUnicast, if_true] at returns
          cases returns
          exact .rejected
      | true =>
          by_cases short : buffer.len < 7
          · simp only [parseCompositionData, isUnicast, short, if_true] at returns
            cases returns
            exact .rejected
          · rw [parseCompositionData_eq table malloc buffer isUnicast (Nat.not_lt.mp short)]
              at returns
            cases found : findProvNode table unicast with
            | none =>
                rw [readComposition_of_unknown found] at returns
                cases returns
                exact .rejected
            | some record =>
                rcases record with ⟨index, node⟩
                cases allocated : malloc 0 with
                | false =>
                    rw [readComposition_of_no_memory found allocated] at returns
                    cases returns
                    exact .noMemory _ found
                | true =>
                    rw [readComposition_of_memory found allocated] at returns
                    simp only at returns
                    split at returns
                    · cases returns
                      exact .stored _ found (elementsAt_length _ _ _ _)
                        (elementsAt_storedModels _ _ _ _)
                    · cases returns

end BleMesh.Provisioner
