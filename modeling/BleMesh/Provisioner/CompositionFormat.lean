import BleMesh.Foundation.Insertion
import BleMesh.Provisioner.CompositionParser

/-! # Composition Data Page 0 and what the parser makes of it

The wire format is a sequence of 16-bit words. The parser reads two bytes for each
vendor model where the format has four, so it sees the word stream with the company
ids left in: it decodes a composition with vendor models only if all words from the
first vendor model on are equal.
-/

namespace BleMesh.Provisioner

open Foundation Foundation.Insertion

/-- An element of a composition. The counts are single bytes on the wire. -/
structure CompositionElement where
  location : UInt16
  sigModels : List UInt16
  vndModels : List VndModelId
  sigModels_length : sigModels.length ≤ 255
  vndModels_length : vndModels.length ≤ 255

structure Composition where
  cid : UInt16
  pid : UInt16
  vid : UInt16
  crpl : UInt16
  features : UInt16
  elements : List CompositionElement

def markedModels (models : List VndModelId) : List (UInt16 × Bool) :=
  models.map fun model => (model.modelId, true)

namespace CompositionElement

def numS (element : CompositionElement) : UInt8 := UInt8.ofNat element.sigModels.length

def numV (element : CompositionElement) : UInt8 := UInt8.ofNat element.vndModels.length

def encode (element : CompositionElement) : List UInt8 :=
  wordBytes element.location ++ [element.numS, element.numV] ++
    element.sigModels.flatMap wordBytes ++
    element.vndModels.flatMap fun model => wordBytes model.companyId ++ wordBytes model.modelId

/-- `NumS` and `NumV` seen as one word. -/
def counts (element : CompositionElement) : UInt16 := wordOf element.numS element.numV

def words (element : CompositionElement) : List UInt16 :=
  element.location :: element.counts :: element.sigModels ++
    element.vndModels.flatMap fun model => [model.companyId, model.modelId]

/-- The words of an element without the company ids, vendor model ids marked. -/
def markedWords (element : CompositionElement) : List (UInt16 × Bool) :=
  ((element.location :: element.counts :: element.sigModels).map fun word => (word, false)) ++
    markedModels element.vndModels

theorem numS_toNat (element : CompositionElement) :
    element.numS.toNat = element.sigModels.length := by
  have bound := element.sigModels_length
  rw [numS, UInt8.toNat_ofNat', Nat.mod_eq_of_lt (by omega)]

theorem numV_toNat (element : CompositionElement) :
    element.numV.toNat = element.vndModels.length := by
  have bound := element.vndModels_length
  rw [numV, UInt8.toNat_ofNat', Nat.mod_eq_of_lt (by omega)]

theorem encode_eq_words (element : CompositionElement) :
    element.encode = element.words.flatMap wordBytes := by
  have countBytes : wordBytes element.counts = [element.numS, element.numV] := by
    have halves := wordOf_inj.mp (wordOf_lowByte_highByte element.counts)
    rw [wordBytes, halves.1, halves.2]
  have vendorBytes : ∀ models : List VndModelId,
      (models.flatMap fun model => [model.companyId, model.modelId]).flatMap wordBytes =
        models.flatMap fun model => wordBytes model.companyId ++ wordBytes model.modelId := by
    intro models
    induction models with
    | nil => rfl
    | cons model models induction => simp [induction]
  simp [encode, words, countBytes, vendorBytes]

end CompositionElement

namespace Composition

def encode (composition : Composition) : List UInt8 :=
  wordBytes composition.cid ++ wordBytes composition.pid ++ wordBytes composition.vid ++
    wordBytes composition.crpl ++ wordBytes composition.features ++
    composition.elements.flatMap CompositionElement.encode

def header (composition : Composition) : List UInt16 :=
  [composition.cid, composition.pid, composition.vid, composition.crpl, composition.features]

/-- The header as the parser reads it. -/
def headerFields (composition : Composition) : CompositionHeader where
  companyId := composition.cid
  productId := composition.pid
  versionId := composition.vid
  crpl := composition.crpl
  feature := composition.features

def words (composition : Composition) : List UInt16 :=
  composition.header ++ composition.elements.flatMap CompositionElement.words

theorem encode_eq_words (composition : Composition) :
    composition.encode = composition.words.flatMap wordBytes := by
  have elementBytes : ∀ elements : List CompositionElement,
      elements.flatMap CompositionElement.encode =
        (elements.flatMap CompositionElement.words).flatMap wordBytes := by
    intro elements
    induction elements with
    | nil => rfl
    | cons element elements induction =>
        simp [CompositionElement.encode_eq_words, induction]
  simp [encode, words, header, elementBytes]

end Composition

/-- The bytes are the content of the buffer. -/
def NetBufSimple.Holds (buffer : NetBufSimple) (bytes : List UInt8) : Prop :=
  buffer.len = bytes.length ∧
    ∀ index byte, bytes[index]? = some byte → buffer.data index = byte

def NetBufSimple.ofBytes (bytes : List UInt8) : NetBufSimple where
  data index := bytes.getD index 0
  len := bytes.length

theorem NetBufSimple.holds_ofBytes (bytes : List UInt8) :
    (NetBufSimple.ofBytes bytes).Holds bytes := by
  refine ⟨rfl, ?_⟩
  intro index byte present
  simp [NetBufSimple.ofBytes, present]

/-! ## Decoding -/

/-- The record of an element holds its location, counts, SIG ids and vendor pairs. -/
structure StoresElement (element : CompositionElement) (info : ElementInfo) : Prop where
  elementId : info.elementId = element.location
  sigModelCount : info.sigModelCount = element.sigModels.length
  vndModelCount : info.vndModelCount = element.vndModels.length
  sigModels : info.sigModels.getD [] = element.sigModels
  vndModels : info.vndModels.getD [] = element.vndModels

structure StoresComposition (composition : Composition) (node : ProvNodeInfo) : Prop where
  cid : node.cid = composition.cid
  pid : node.pid = composition.pid
  vid : node.vid = composition.vid
  crpl : node.crpl = composition.crpl
  features : node.features = composition.features
  elements : ∃ infos, node.elements = some infos ∧
    List.Forall₂ StoresElement composition.elements infos

/-- The call returns 0, the record it selected holds the composition and no other
record has changed. -/
def DecodesInto {capacity : Nat} (composition : Composition)
    (table : SlotTable ProvNodeInfo capacity) (index : Nat)
    (returned : Option (Int × SlotTable ProvNodeInfo capacity)) : Prop :=
  ∃ after node, returned = some (0, after) ∧ after.get index = some node ∧
    StoresComposition composition node ∧
    ∀ other, other ≠ index → after.get other = table.get other

/-- Each element with vendor models has SIG models, its vendor models are all
`(CID, CID)`, and every word behind it in the composition is the CID too. Elements
without vendor models satisfy this. -/
def VendorWordsRepeat (cid : UInt16) (elements : List CompositionElement) : Prop :=
  ∀ before element after, elements = before ++ element :: after →
    element.vndModels ≠ [] →
      element.sigModels ≠ [] ∧ (∀ model ∈ element.vndModels, model = ⟨cid, cid⟩) ∧
      ∀ later ∈ after, later.location = cid ∧ later.counts = cid ∧
        ∀ sigModel ∈ later.sigModels, sigModel = cid

/-! ### From records to words -/

/-- What the parser's layout asks of the elements besides the words it reads. -/
def ReadableModels (cid : UInt16) (element : CompositionElement) : Prop :=
  (element.vndModels ≠ [] → element.sigModels ≠ []) ∧
    ∀ model ∈ element.vndModels, model.companyId = cid

def parsedWords (elements : List CompositionElement) : List UInt16 :=
  entries (elements.flatMap CompositionElement.markedWords)

theorem entries_markedWords (element : CompositionElement) :
    entries element.markedWords =
      element.location :: element.counts :: element.sigModels ++
        element.vndModels.map VndModelId.modelId := by
  simp [entries, CompositionElement.markedWords, markedModels, Function.comp_def]

theorem parsedWords_cons (element : CompositionElement) (elements : List CompositionElement) :
    parsedWords (element :: elements) =
      (element.location :: element.counts :: element.sigModels ++
        element.vndModels.map VndModelId.modelId) ++ parsedWords elements := by
  rw [← entries_markedWords]
  simp [parsedWords, entries]

theorem holdsWords_element_iff (source : Source) (offset : Nat)
    (element : CompositionElement) :
    source.HoldsWords offset (entries element.markedWords) ↔
      source.word offset = element.location ∧
      sigCountAt source offset = element.sigModels.length ∧
      vndCountAt source offset = element.vndModels.length ∧
      source.HoldsWords (offset + 4) element.sigModels ∧
      source.HoldsWords (offset + 4 + 2 * element.sigModels.length)
        (element.vndModels.map VndModelId.modelId) := by
  have counts : source.word (offset + 2) = element.counts ↔
      sigCountAt source offset = element.sigModels.length ∧
        vndCountAt source offset = element.vndModels.length := by
    rw [Source.word, CompositionElement.counts, wordOf_inj, ← UInt8.toNat_inj,
      ← UInt8.toNat_inj, element.numS_toNat, element.numV_toNat]
    rfl
  rw [entries_markedWords, Source.holdsWords_append]
  simp only [Source.HoldsWords, counts, List.length_cons, and_assoc]
  have position : offset + 2 * (element.sigModels.length + 1 + 1) =
      offset + 4 + 2 * element.sigModels.length := by omega
  rw [position, Nat.add_assoc offset 2 2]

theorem sigModelsAt_getD (source : Source) (offset count : Nat) :
    (sigModelsAt source offset count).getD [] = source.words offset count := by
  rw [sigModelsAt]
  split
  · next absent => rw [absent]; rfl
  · rfl

theorem vndModelsAt_getD (source : Source) (cid : UInt16) (offset count : Nat) :
    (vndModelsAt source cid offset count).getD [] =
      (source.words offset count).map fun modelId => { companyId := cid, modelId } := by
  rw [vndModelsAt]
  split
  · next absent => rw [absent]; rfl
  · rfl

theorem vendorModels_eq_iff (source : Source) (cid : UInt16) (offset : Nat)
    (models : List VndModelId) :
    ((source.words offset models.length).map fun modelId =>
        ({ companyId := cid, modelId } : VndModelId)) = models ↔
      source.HoldsWords offset (models.map VndModelId.modelId) ∧
        ∀ model ∈ models, model.companyId = cid := by
  induction models generalizing offset with
  | nil => simp [Source.words, Source.HoldsWords]
  | cons model models induction =>
      rcases model with ⟨companyId, modelId⟩
      simp only [List.length_cons, Source.words, List.map_cons, List.cons.injEq, induction,
        VndModelId.mk.injEq, Source.HoldsWords, List.forall_mem_cons]
      constructor
      · intro both
        rcases both with ⟨⟨rfl, rfl⟩, holds, companies⟩
        exact ⟨⟨rfl, holds⟩, rfl, companies⟩
      · intro both
        rcases both with ⟨⟨rfl, holds⟩, rfl, companies⟩
        exact ⟨⟨rfl, rfl⟩, holds, companies⟩

/-- The record the parser makes of the bytes at an offset is the element's exactly
if the parser's words of the element lie there. -/
theorem storesElement_elementAt_iff (source : Source) (cid : UInt16) (offset : Nat)
    (element : CompositionElement) :
    StoresElement element (elementAt source cid offset) ↔
      ReadableModels cid element ∧ source.HoldsWords offset (entries element.markedWords) := by
  rw [holdsWords_element_iff]
  constructor
  · intro stores
    have sigCount : sigCountAt source offset = element.sigModels.length := stores.sigModelCount
    have vndCount : vndCountAt source offset = element.vndModels.length := stores.vndModelCount
    have sigModels := stores.sigModels
    have vndModels := stores.vndModels
    simp only [elementAt, sigCount, vndCount, sigModelsAt_getD, Source.words_eq_iff]
      at sigModels vndModels
    by_cases noSig : element.sigModels.length = 0
    · rw [if_pos noSig] at vndModels
      have noVnd : element.vndModels = [] := vndModels.symm
      refine ⟨⟨fun present => absurd noVnd present, ?_⟩,
        stores.elementId, sigCount, vndCount, sigModels, ?_⟩
      · simp [noVnd]
      · simp [noVnd, Source.HoldsWords]
    · rw [if_neg noSig, vndModelsAt_getD, vendorModels_eq_iff] at vndModels
      exact ⟨⟨fun _ => List.ne_nil_of_length_pos (Nat.pos_of_ne_zero noSig), vndModels.2⟩,
        stores.elementId, sigCount, vndCount, sigModels, vndModels.1⟩
  · intro stores
    rcases stores with ⟨⟨sigPresent, companies⟩, location, sigCount, vndCount, sigModels, vndModels⟩
    refine ⟨location, sigCount, vndCount, ?_, ?_⟩
    · simp only [elementAt, sigCount, sigModelsAt_getD, Source.words_eq_iff]
      exact sigModels
    · simp only [elementAt, sigCount, vndCount]
      by_cases noSig : element.sigModels.length = 0
      · have noVnd : element.vndModels = [] := by
          by_contra present
          exact sigPresent present (List.eq_nil_of_length_eq_zero noSig)
        simp [noSig, noVnd]
      · rw [if_neg noSig, vndModelsAt_getD, vendorModels_eq_iff]
        exact ⟨vndModels, companies⟩

theorem length_entries_markedWords (element : CompositionElement) :
    (entries element.markedWords).length =
      element.sigModels.length + element.vndModels.length + 2 := by
  rw [entries_markedWords]
  simp only [List.length_append, List.length_cons, List.length_map]
  omega

theorem elementAllocated_of_malloc {source : Source} (allocated : ∀ call, source.malloc call = true)
    (cursor : Cursor) : elementAllocated source cursor = true := by
  simp [elementAllocated, allocated]

theorem elementsAllocated_of_malloc {source : Source}
    (allocated : ∀ call, source.malloc call = true) (count : Nat) (cursor : Cursor) :
    elementsAllocated source cursor count = true := by
  induction count generalizing cursor with
  | zero => rfl
  | succ count induction =>
      rw [elementsAllocated, elementAllocated_of_malloc allocated, induction]
      rfl

theorem afterElement_offset_of_stores {source : Source}
    (allocated : ∀ call, source.malloc call = true) {cid : UInt16} {cursor : Cursor}
    {element : CompositionElement}
    (stores : StoresElement element (elementAt source cid cursor.offset)) :
    (afterElement source cursor).offset =
      cursor.offset + 2 * (entries element.markedWords).length := by
  have sigCount : sigCountAt source cursor.offset = element.sigModels.length :=
    stores.sigModelCount
  have vndCount : vndCountAt source cursor.offset = element.vndModels.length :=
    stores.vndModelCount
  have readable := ((storesElement_elementAt_iff source cid cursor.offset element).mp stores).1
  rw [length_entries_markedWords, afterElement, sigCount, vndCount]
  simp only [allocated, Bool.true_eq_false, if_false]
  by_cases noSig : element.sigModels.length = 0
  · have noVnd : element.vndModels = [] := by
      by_contra present
      exact readable.1 present (List.eq_nil_of_length_eq_zero noSig)
    simp [noSig, noVnd]
  · by_cases noVnd : element.vndModels.length = 0
    · simp only [noSig, noVnd, if_true, if_false, Cursor.advance_offset,
        Cursor.countMalloc_offset]
      omega
    · simp only [noSig, noVnd, if_false, Cursor.advance_offset, Cursor.countMalloc_offset]
      omega

theorem storesElements_elementsAt_iff {source : Source}
    (allocated : ∀ call, source.malloc call = true) (cid : UInt16)
    (elements : List CompositionElement) (cursor : Cursor) :
    List.Forall₂ StoresElement elements (elementsAt source cid cursor elements.length) ↔
      (∀ element ∈ elements, ReadableModels cid element) ∧
        source.HoldsWords cursor.offset (parsedWords elements) := by
  induction elements generalizing cursor with
  | nil => simp [elementsAt, parsedWords, entries, Source.HoldsWords]
  | cons element elements induction =>
      rw [List.length_cons, elementsAt, List.forall₂_cons, induction, parsedWords_cons,
        ← entries_markedWords, Source.holdsWords_append, List.forall_mem_cons,
        storesElement_elementAt_iff]
      constructor
      · intro both
        rcases both with ⟨⟨readable, holds⟩, readableRest, holdsRest⟩
        have stores := (storesElement_elementAt_iff source cid _ element).mpr ⟨readable, holds⟩
        rw [afterElement_offset_of_stores allocated stores] at holdsRest
        exact ⟨⟨readable, readableRest⟩, holds, holdsRest⟩
      · intro both
        rcases both with ⟨⟨readable, readableRest⟩, holds, holdsRest⟩
        have stores := (storesElement_elementAt_iff source cid _ element).mpr ⟨readable, holds⟩
        rw [afterElement_offset_of_stores allocated stores]
        exact ⟨⟨readable, holds⟩, readableRest, holdsRest⟩

/-! ### From words to the composition -/

theorem insertBefore_markedModels {cid : UInt16} {models : List VndModelId}
    (companies : ∀ model ∈ models, model.companyId = cid) :
    insertBefore cid (markedModels models) =
      models.flatMap fun model => [model.companyId, model.modelId] := by
  induction models with
  | nil => rfl
  | cons model models induction =>
      rw [List.forall_mem_cons] at companies
      rw [List.flatMap_cons, ← induction companies.2, ← companies.1]
      rfl

theorem words_eq_insertBefore {cid : UInt16} {element : CompositionElement}
    (readable : ReadableModels cid element) :
    element.words = insertBefore cid element.markedWords := by
  have unmarked : ∀ words : List UInt16,
      insertBefore cid (words.map fun word => (word, false)) = words := by
    intro words
    induction words with
    | nil => rfl
    | cons word words induction => simp [insertBefore, induction]
  rw [CompositionElement.markedWords, insertBefore_append, unmarked,
    insertBefore_markedModels readable.2]
  rfl

theorem flatMap_words_eq_insertBefore {cid : UInt16} {elements : List CompositionElement}
    (readable : ∀ element ∈ elements, ReadableModels cid element) :
    elements.flatMap CompositionElement.words =
      insertBefore cid (elements.flatMap CompositionElement.markedWords) := by
  induction elements with
  | nil => rfl
  | cons element elements induction =>
      rw [List.forall_mem_cons] at readable
      rw [List.flatMap_cons, List.flatMap_cons, insertBefore_append,
        words_eq_insertBefore readable.1, induction readable.2]

theorem parsedWords_length_le {cid : UInt16} {elements : List CompositionElement}
    (readable : ∀ element ∈ elements, ReadableModels cid element) :
    (parsedWords elements).length ≤ (elements.flatMap CompositionElement.words).length := by
  rw [flatMap_words_eq_insertBefore readable]
  exact length_entries_le cid _

theorem vendorWordsRepeat_cons_iff (cid : UInt16) (element : CompositionElement)
    (elements : List CompositionElement) :
    VendorWordsRepeat cid (element :: elements) ↔
      (element.vndModels ≠ [] →
        element.sigModels ≠ [] ∧ (∀ model ∈ element.vndModels, model = ⟨cid, cid⟩) ∧
        ∀ later ∈ elements, later.location = cid ∧ later.counts = cid ∧
          ∀ sigModel ∈ later.sigModels, sigModel = cid) ∧
      VendorWordsRepeat cid elements := by
  constructor
  · intro repeats
    refine ⟨repeats [] element elements rfl, ?_⟩
    intro before selected after split
    exact repeats (element :: before) selected after (by rw [split]; rfl)
  · intro both before selected after split
    rcases both with ⟨first, rest⟩
    cases before with
    | nil =>
        cases split
        exact first
    | cons head before =>
        cases split
        exact rest before selected after rfl

theorem readable_of_vendorWordsRepeat {cid : UInt16} {elements : List CompositionElement}
    (repeats : VendorWordsRepeat cid elements) :
    ∀ element ∈ elements, ReadableModels cid element := by
  intro element member
  rcases List.append_of_mem member with ⟨before, after, split⟩
  refine ⟨fun present => (repeats before element after split present).1, ?_⟩
  intro model modelMember
  have present : element.vndModels ≠ [] := List.ne_nil_of_mem modelMember
  rw [(repeats before element after split present).2.1 model modelMember]

/-- All words the parser reads for the elements are equal to the CID. -/
theorem forall_parsedWords_iff (cid : UInt16) (elements : List CompositionElement) :
    (∀ word ∈ parsedWords elements, word = cid) ↔
      ∀ element ∈ elements, element.location = cid ∧ element.counts = cid ∧
        (∀ sigModel ∈ element.sigModels, sigModel = cid) ∧
        ∀ model ∈ element.vndModels, model.modelId = cid := by
  induction elements with
  | nil => simp [parsedWords, entries]
  | cons element elements induction =>
      rw [parsedWords_cons, List.forall_mem_append, induction, List.forall_mem_cons]
      refine and_congr_left fun _ => ?_
      simp [or_imp, forall_and]

theorem vendorModels_eq_pair_iff {cid : UInt16} {element : CompositionElement}
    (readable : ReadableModels cid element) :
    (∀ model ∈ element.vndModels, model = ⟨cid, cid⟩) ↔
      ∀ model ∈ element.vndModels, model.modelId = cid := by
  refine forall₂_congr fun model member => ?_
  have company := readable.2 model member
  rcases model with ⟨companyId, modelId⟩
  simp only [VndModelId.mk.injEq]
  exact and_iff_right company

theorem forall_parsedWords_iff_repeat {cid : UInt16} {elements : List CompositionElement}
    (readable : ∀ element ∈ elements, ReadableModels cid element) :
    (∀ word ∈ parsedWords elements, word = cid) ↔
      (∀ later ∈ elements, later.location = cid ∧ later.counts = cid ∧
        ∀ sigModel ∈ later.sigModels, sigModel = cid) ∧ VendorWordsRepeat cid elements := by
  rw [forall_parsedWords_iff]
  constructor
  · intro equal
    have plain : ∀ later ∈ elements, later.location = cid ∧ later.counts = cid ∧
        ∀ sigModel ∈ later.sigModels, sigModel = cid := fun later member =>
      ⟨(equal later member).1, (equal later member).2.1, (equal later member).2.2.1⟩
    refine ⟨plain, ?_⟩
    intro before element after split present
    subst split
    have member : element ∈ before ++ element :: after := by simp
    refine ⟨(readable element member).1 present, ?_, ?_⟩
    · exact (vendorModels_eq_pair_iff (readable element member)).mpr (equal element member).2.2.2
    · intro later laterMember
      exact plain later (List.mem_append_right _ (List.mem_cons_of_mem _ laterMember))
  · intro both element member
    rcases both with ⟨plain, repeats⟩
    have location := plain element member
    refine ⟨location.1, location.2.1, location.2.2, ?_⟩
    intro model modelMember
    rcases List.append_of_mem member with ⟨before, after, split⟩
    have pair := (repeats before element after split (List.ne_nil_of_mem modelMember)).2.1
    rw [pair model modelMember]

/-- The words the parser reads are the words that lie in the buffer exactly if the
company ids cannot be told from the words around them. -/
theorem parsedWords_prefix_iff {cid : UInt16} {elements : List CompositionElement}
    (readable : ∀ element ∈ elements, ReadableModels cid element) :
    parsedWords elements <+: elements.flatMap CompositionElement.words ↔
      VendorWordsRepeat cid elements := by
  rw [flatMap_words_eq_insertBefore readable]
  induction elements with
  | nil =>
      refine iff_of_true (List.prefix_refl _) ?_
      intro before element after split
      simp at split
  | cons element elements induction =>
      have rest := (List.forall_mem_cons.mp readable).2
      have first := (List.forall_mem_cons.mp readable).1
      rw [vendorWordsRepeat_cons_iff, parsedWords_cons, List.flatMap_cons,
        insertBefore_append, ← words_eq_insertBefore first, CompositionElement.words]
      cases vndModels : element.vndModels with
      | nil =>
          simp only [List.map_nil, List.flatMap_nil, List.append_nil, ne_eq,
            not_true_eq_false, false_implies, true_and]
          rw [List.prefix_append_right_inj, induction rest]
      | cons model models =>
          have companies : ∀ other ∈ model :: models, other.companyId = cid :=
            vndModels ▸ first.2
          have present : element.sigModels ≠ [] := first.1 (by simp [vndModels])
          have pairs := vendorModels_eq_pair_iff first
          rw [vndModels] at pairs
          have vendorWords : ((model :: models).flatMap fun model =>
                [model.companyId, model.modelId]) ++
              insertBefore cid (elements.flatMap CompositionElement.markedWords) =
              insertBefore cid ((model.modelId, true) :: (markedModels models ++
                elements.flatMap CompositionElement.markedWords)) := by
            rw [← insertBefore_markedModels companies, ← insertBefore_append]
            rfl
          have vendorEntries : (model :: models).map VndModelId.modelId ++
              parsedWords elements =
              entries ((model.modelId, true) :: (markedModels models ++
                elements.flatMap CompositionElement.markedWords)) := by
            simp [entries, markedModels, parsedWords, Function.comp_def]
          rw [List.append_assoc, List.append_assoc, List.prefix_append_right_inj,
            vendorWords, vendorEntries, entries_prefix_iff_of_marked, ← vendorEntries,
            List.forall_mem_append, forall_parsedWords_iff_repeat rest, pairs]
          simp [present, and_assoc]

/-! ### The law -/

theorem length_encode_ge (composition : Composition) : 10 ≤ composition.encode.length := by
  simp [Composition.encode, wordBytes]

/-- The header of a buffer that holds a composition, and the words behind it. -/
theorem header_of_holds {buffer : NetBufSimple} {composition : Composition}
    (holds : buffer.Holds composition.encode) (malloc : Nat → Bool) :
    headerAt { byte := buffer.data, malloc } 0 = composition.headerFields ∧
      Source.HoldsWords { byte := buffer.data, malloc } 10
        (composition.elements.flatMap CompositionElement.words) := by
  have words : Source.HoldsWords { byte := buffer.data, malloc } 0 composition.words := by
    apply Source.holdsWords_of_bytes
    intro index byte present
    rw [Nat.zero_add]
    exact holds.2 index byte (by rwa [Composition.encode_eq_words])
  rw [Composition.words, Source.holdsWords_append] at words
  rcases words with ⟨⟨cid, pid, vid, crpl, features, -⟩, elements⟩
  refine ⟨?_, elements⟩
  rw [headerAt, cid, pid, vid, crpl, features, Composition.headerFields]

/-- A record with the right header decodes a composition exactly if its elements do. -/
theorem decodesInto_set_iff {capacity : Nat} {composition : Composition}
    (table : SlotTable ProvNodeInfo capacity) {index : Nat} (inside : index < capacity)
    {source : Source} (header : headerAt source 0 = composition.headerFields)
    {node : ProvNodeInfo} {infos : List ElementInfo} :
    DecodesInto composition table index
        (some (0, table.set index (some { node.withHeader (headerAt source 0) with
          elements := some infos }))) ↔
      List.Forall₂ StoresElement composition.elements infos := by
  constructor
  · intro decodes
    rcases decodes with ⟨after, stored, equal, held, stores, -⟩
    cases equal
    rw [SlotTable.get_set_same table inside] at held
    cases held
    rcases stores.elements with ⟨infos, present, forall₂⟩
    cases present
    exact forall₂
  · intro forall₂
    refine ⟨_, _, rfl, SlotTable.get_set_same table inside _, ?_, ?_⟩
    · simp only [ProvNodeInfo.withHeader]
      refine ⟨?_, ?_, ?_, ?_, ?_, _, rfl, forall₂⟩
      · exact congrArg CompositionHeader.companyId header
      · exact congrArg CompositionHeader.productId header
      · exact congrArg CompositionHeader.versionId header
      · exact congrArg CompositionHeader.crpl header
      · exact congrArg CompositionHeader.feature header
    · intro other different
      exact SlotTable.get_set_other table different _

/-- For a composition in the buffer, a record with the right element count and
memory for everything, the parser decodes the composition exactly if its vendor
words repeat the CID. -/
theorem parseCompositionData_encode_iff {capacity : Nat}
    (table : SlotTable ProvNodeInfo capacity) (composition : Composition)
    (buffer : NetBufSimple) (unicast : UInt16) (malloc : Nat → Bool) (index : Nat)
    (node : ProvNodeInfo) (isUnicast : espBleMeshAddrIsUnicast unicast = true)
    (found : findProvNode table unicast = some (index, node))
    (elementNum : node.elementNum = composition.elements.length)
    (allocated : ∀ call, malloc call = true) (holds : buffer.Holds composition.encode) :
    DecodesInto composition table index
        (parseCompositionData table malloc (some buffer) unicast).returned ↔
      VendorWordsRepeat composition.cid composition.elements := by
  let source : Source := { byte := buffer.data, malloc }
  have longEnough : 7 ≤ buffer.len := by
    have bound := length_encode_ge composition
    rw [holds.1]
    omega
  rcases header_of_holds holds malloc with ⟨header, elementWords⟩
  have memory : ∀ call, source.malloc call = true := allocated
  have cid : source.word 0 = composition.cid := congrArg CompositionHeader.companyId header
  have inside : index < capacity :=
    SlotTable.index_lt_of_get (SlotTable.find_some found).1
  -- The call stores the elements it makes of the buffer, whatever they are.
  have returned : (parseCompositionData table malloc (some buffer) unicast).returned =
      some (0, table.set index (some { node.withHeader (headerAt source 0) with
        elements := some (elementsAt source composition.cid elementsCursor
          composition.elements.length) })) := by
    rw [parseCompositionData_eq table malloc buffer isUnicast longEnough,
      readComposition_of_memory found (memory 0),
      elementsAllocated_of_malloc memory, elementNum, cid]
    rfl
  rw [returned, decodesInto_set_iff table inside header, storesElements_elementsAt_iff memory]
  constructor
  · intro both
    rcases both with ⟨readable, parsed⟩
    rw [← parsedWords_prefix_iff readable,
      ← Source.holdsWords_iff_prefix elementWords (parsedWords_length_le readable)]
    exact parsed
  · intro repeats
    have readable := readable_of_vendorWordsRepeat repeats
    refine ⟨readable, ?_⟩
    have isPrefix := (parsedWords_prefix_iff readable).mpr repeats
    exact (Source.holdsWords_iff_prefix elementWords (parsedWords_length_le readable)).mpr
      isPrefix

/-- A record of a node, as it is before the node has replied. -/
def newNode (elementNum : Nat) : ProvNodeInfo where
  name := "Node-0"
  uuid := 1
  cid := 0
  pid := 0
  vid := 0
  crpl := 0
  features := 0
  unicastAddress := 5
  elementNum
  elements := none

def newNodeTable (elementNum : Nat) : SlotTable ProvNodeInfo provMaxProvDevCnt :=
  SlotTable.empty.set 0 (some (newNode elementNum))

/-- Three elements, of which two have a vendor model. Behind the first vendor model all words
are the CID, 0x0101, which as counts stands for one model of each kind. -/
def threeElements : Composition where
  cid := 0x0101
  pid := 1
  vid := 2
  crpl := 10
  features := 3
  elements := [
    { location := 0x0100
      sigModels := [0x0000, 0x0002]
      vndModels := []
      sigModels_length := by decide
      vndModels_length := by decide },
    { location := 0x0100
      sigModels := [0x1000]
      vndModels := [⟨0x0101, 0x0101⟩, ⟨0x0101, 0x0101⟩]
      sigModels_length := by decide
      vndModels_length := by decide },
    { location := 0x0101
      sigModels := [0x0101]
      vndModels := [⟨0x0101, 0x0101⟩]
      sigModels_length := by decide
      vndModels_length := by decide }]

theorem vendorWordsRepeat_threeElements : VendorWordsRepeat 0x0101 threeElements.elements := by
  have none : VendorWordsRepeat 0x0101 [] := by
    intro before element after split
    simp at split
  rw [threeElements, vendorWordsRepeat_cons_iff, vendorWordsRepeat_cons_iff,
    vendorWordsRepeat_cons_iff]
  refine ⟨by simp, ?_, by simp, none⟩
  intro _
  refine ⟨by simp, by simp, ?_⟩
  rw [List.forall_mem_singleton]
  exact ⟨rfl, rfl, by simp⟩

theorem parseCompositionData_three_elements :
    DecodesInto threeElements (newNodeTable 3) 0
      (parseCompositionData (newNodeTable 3) (fun _ => true)
        (some (.ofBytes threeElements.encode)) 5).returned :=
  (parseCompositionData_encode_iff (newNodeTable 3) threeElements _ 5 (fun _ => true) 0
    (newNode 3) rfl rfl rfl (fun _ => rfl) (NetBufSimple.holds_ofBytes _)).mpr
    vendorWordsRepeat_threeElements

/-- A composition with one element that has a SIG model and the given vendor models. -/
def oneElement (vndModels : List VndModelId) (bound : vndModels.length ≤ 255) : Composition where
  cid := 0x02E5
  pid := 1
  vid := 2
  crpl := 10
  features := 3
  elements := [{
    location := 0x0100
    sigModels := [0x1000]
    vndModels
    sigModels_length := by decide
    vndModels_length := bound }]

/-- The two company id bytes of a vendor model are taken for the model id. -/
theorem parseCompositionData_misreads_vendor_model :
    ¬ ∀ (table : SlotTable ProvNodeInfo provMaxProvDevCnt) (composition : Composition)
      (buffer : NetBufSimple) (unicast : UInt16) (malloc : Nat → Bool) (index : Nat)
      (node : ProvNodeInfo), espBleMeshAddrIsUnicast unicast = true →
      findProvNode table unicast = some (index, node) →
      node.elementNum = composition.elements.length → (∀ call, malloc call = true) →
      buffer.Holds composition.encode →
      DecodesInto composition table index
        (parseCompositionData table malloc (some buffer) unicast).returned := by
  intro always
  let composition := oneElement [⟨0x1234, 0x0001⟩] (by decide)
  rcases always (newNodeTable 1) composition (.ofBytes composition.encode) 5 (fun _ => true) 0
    (newNode 1) rfl rfl rfl (fun _ => rfl) (NetBufSimple.holds_ofBytes _) with
    ⟨after, stored, returned, held, stores, -⟩
  rcases stores.elements with ⟨infos, present, forall₂⟩
  have parsed : ((parseCompositionData (newNodeTable 1) (fun _ => true)
      (some (.ofBytes composition.encode)) 5).returned.bind fun result =>
        (result.2.get 0).bind ProvNodeInfo.elements) =
      some [⟨0x0100, 1, 1, some [0x1000], some [⟨0x02E5, 0x1234⟩]⟩] := by decide
  rw [returned, Option.bind_some, held, Option.bind_some, present] at parsed
  cases parsed
  cases forall₂ with
  | cons first _ => exact absurd first.vndModels (by decide)

end BleMesh.Provisioner
