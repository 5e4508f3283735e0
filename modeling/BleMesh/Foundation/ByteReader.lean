import Mathlib.Data.List.Basic

/-! # Reading bytes through a running offset

C code that decodes a buffer reads `data[offset++]` again and again and allocates
memory on the way. A `Reader` is such a piece of code: it knows the bytes behind
the pointer and which allocations succeed, and it keeps the offset, the indices it
has read and the number of allocations it has asked for. Nothing stops a reader at
the end of the buffer; the indices it reads are there to be compared with it.
-/

namespace Foundation

/-- What a reader runs against: the bytes in memory from the data pointer on, and
the answer to each allocation, numbered in the order in which they are made. -/
structure Source where
  byte : Nat → UInt8
  malloc : Nat → Bool

structure Cursor where
  offset : Nat
  reads : List Nat
  mallocs : Nat
  deriving DecidableEq

namespace Cursor

/-- Nothing read yet. -/
def start : Cursor where
  offset := 0
  reads := []
  mallocs := 0

/-- Read the next `count` bytes. -/
def advance (cursor : Cursor) (count : Nat) : Cursor :=
  { cursor with
    offset := cursor.offset + count
    reads := cursor.reads ++ List.range' cursor.offset count }

def countMalloc (cursor : Cursor) : Cursor :=
  { cursor with mallocs := cursor.mallocs + 1 }

@[simp] theorem advance_offset (cursor : Cursor) (count : Nat) :
    (cursor.advance count).offset = cursor.offset + count := rfl

@[simp] theorem advance_mallocs (cursor : Cursor) (count : Nat) :
    (cursor.advance count).mallocs = cursor.mallocs := rfl

@[simp] theorem advance_reads (cursor : Cursor) (count : Nat) :
    (cursor.advance count).reads = cursor.reads ++ List.range' cursor.offset count := rfl

@[simp] theorem countMalloc_offset (cursor : Cursor) :
    cursor.countMalloc.offset = cursor.offset := rfl

@[simp] theorem countMalloc_mallocs (cursor : Cursor) :
    cursor.countMalloc.mallocs = cursor.mallocs + 1 := rfl

@[simp] theorem countMalloc_reads (cursor : Cursor) :
    cursor.countMalloc.reads = cursor.reads := rfl

@[simp] theorem advance_zero (cursor : Cursor) : cursor.advance 0 = cursor := by
  simp [advance]

@[simp] theorem advance_advance (cursor : Cursor) (first second : Nat) :
    (cursor.advance first).advance second = cursor.advance (first + second) := by
  simp [advance, List.append_assoc, Nat.add_assoc, List.range'_append_1]

/-- Allocations are counted before reads. -/
@[simp] theorem countMalloc_advance (cursor : Cursor) (count : Nat) :
    (cursor.advance count).countMalloc = cursor.countMalloc.advance count := rfl

/-- Every index below the offset has been read, once and in order. -/
def Sequential (cursor : Cursor) : Prop :=
  cursor.reads = List.range cursor.offset

theorem sequential_start : Sequential start := rfl

theorem Sequential.advance {cursor : Cursor} (sequential : cursor.Sequential)
    (count : Nat) : (cursor.advance count).Sequential := by
  simp only [Sequential, Cursor.advance] at sequential ⊢
  have appended := List.range'_append_1 (s := 0) (m := cursor.offset) (n := count)
  rw [Nat.zero_add] at appended
  rw [sequential, List.range_eq_range', List.range_eq_range', appended]

theorem Sequential.countMalloc {cursor : Cursor} (sequential : cursor.Sequential) :
    cursor.countMalloc.Sequential := sequential

theorem Sequential.reads_lt_iff {cursor : Cursor} (sequential : cursor.Sequential)
    (limit : Nat) : (∀ index ∈ cursor.reads, index < limit) ↔ cursor.offset ≤ limit := by
  rw [sequential]
  constructor
  · intro inBounds
    by_contra beyond
    have last := inBounds limit (List.mem_range.mpr (by omega))
    omega
  · intro bound index member
    exact Nat.lt_of_lt_of_le (List.mem_range.mp member) bound

/-- Every index that has been read lies below the limit. -/
def Within (cursor : Cursor) (limit : Nat) : Prop := ∀ index ∈ cursor.reads, index < limit

theorem within_start (limit : Nat) : start.Within limit := by
  intro index member
  cases member

/-- A range of reads stays below the limit exactly if it ends there or earlier. -/
theorem within_append_range' {cursor after : Cursor} {first count : Nat}
    (appended : after.reads = cursor.reads ++ List.range' first count) (limit : Nat) :
    after.Within limit ↔ cursor.Within limit ∧ (0 < count → first + count ≤ limit) := by
  simp only [Within, appended, List.mem_append, List.mem_range'_1]
  constructor
  · intro within
    refine ⟨fun index member => within index (Or.inl member), ?_⟩
    intro positive
    have last := within (first + count - 1) (Or.inr (by omega))
    omega
  · intro both index member
    rcases member with before | inRange
    · exact both.1 index before
    · have bound := both.2 (by omega)
      omega

end Cursor

/-- Code that reads bytes. It answers `none` when an assertion fails. -/
def Reader (α : Type) : Type := Source → Cursor → Option α × Cursor

namespace Reader

variable {α β : Type}

def run (reader : Reader α) (source : Source) (cursor : Cursor) : Option α × Cursor :=
  reader source cursor

instance : Monad Reader where
  pure value := fun _ cursor => (some value, cursor)
  bind first next := fun source cursor =>
    match first source cursor with
    | (some value, after) => next value source after
    | (none, after) => (none, after)

/-- `data[offset++]`. -/
def readNext : Reader UInt8 := fun source cursor =>
  (some (source.byte cursor.offset), cursor.advance 1)

/-- `data[index]`, which leaves the offset alone. -/
def readAt (index : Nat) : Reader UInt8 := fun source cursor =>
  (some (source.byte index), { cursor with reads := cursor.reads ++ [index] })

/-- The `count` bytes from `start` on, which leaves the offset alone. -/
def readRange (start count : Nat) : Reader (List UInt8) := fun source cursor =>
  (some ((List.range' start count).map source.byte),
    { cursor with reads := cursor.reads ++ List.range' start count })

/-- A `memcpy` of the next `count` bytes, which leaves the offset alone. -/
def copyNext (count : Nat) : Reader (List UInt8) := fun source cursor =>
  readRange cursor.offset count source cursor

/-- A read through a NULL pointer. -/
def readNull : Reader α := fun _ cursor => (none, cursor)

/-- Whether the next allocation succeeds. -/
def allocate : Reader Bool := fun source cursor =>
  (some (source.malloc cursor.mallocs), cursor.countMalloc)

def assert (condition : Bool) : Reader Unit := fun _ cursor =>
  if condition then (some (), cursor) else (none, cursor)

/-- An allocation whose result is asserted not to be NULL. -/
def assertAllocated : Reader Unit := do
  assert (← allocate)

/-- Two bytes, the low one first: `(high << 8) | low`. -/
def readWord : Reader UInt16 := do
  let low ← readNext
  let high ← readNext
  return (high.toUInt16 <<< 8) ||| low.toUInt16

/-- The body of a counted loop, with the values it stores. -/
def times (reader : Reader α) : Nat → Reader (List α)
  | 0 => pure []
  | count + 1 => do
      let first ← reader
      let rest ← reader.times count
      return first :: rest

@[simp] theorem run_pure (value : α) (source : Source) (cursor : Cursor) :
    (pure value : Reader α).run source cursor = (some value, cursor) := rfl

theorem run_bind (first : Reader α) (next : α → Reader β) (source : Source)
    (cursor : Cursor) :
    (first >>= next).run source cursor =
      match first.run source cursor with
      | (some value, after) => (next value).run source after
      | (none, after) => (none, after) := rfl

theorem run_bind_some {first : Reader α} {next : α → Reader β} {source : Source}
    {cursor after : Cursor} {value : α}
    (returns : first.run source cursor = (some value, after)) :
    (first >>= next).run source cursor = (next value).run source after := by
  rw [run_bind, returns]

theorem run_bind_none {first : Reader α} {next : α → Reader β} {source : Source}
    {cursor after : Cursor} (fails : first.run source cursor = (none, after)) :
    (first >>= next).run source cursor = (none, after) := by
  rw [run_bind, fails]

/-- A sequence answers exactly if both parts do. -/
theorem run_bind_returns_iff {first : Reader α} {next : α → Reader β} {source : Source}
    {cursor : Cursor} {answer : β} :
    ((first >>= next).run source cursor).1 = some answer ↔
      ∃ value after, first.run source cursor = (some value, after) ∧
        ((next value).run source after).1 = some answer := by
  rw [run_bind]
  rcases first.run source cursor with ⟨result, after⟩
  cases result with
  | none => simp
  | some value => simp

@[simp] theorem run_readNext (source : Source) (cursor : Cursor) :
    readNext.run source cursor = (some (source.byte cursor.offset), cursor.advance 1) := rfl

@[simp] theorem run_readAt (index : Nat) (source : Source) (cursor : Cursor) :
    (readAt index).run source cursor =
      (some (source.byte index), { cursor with reads := cursor.reads ++ [index] }) := rfl

@[simp] theorem run_readRange (start count : Nat) (source : Source) (cursor : Cursor) :
    (readRange start count).run source cursor =
      (some ((List.range' start count).map source.byte),
        { cursor with reads := cursor.reads ++ List.range' start count }) := rfl

@[simp] theorem run_copyNext (count : Nat) (source : Source) (cursor : Cursor) :
    (copyNext count).run source cursor =
      (some ((List.range' cursor.offset count).map source.byte),
        { cursor with reads := cursor.reads ++ List.range' cursor.offset count }) := rfl

@[simp] theorem run_readNull (source : Source) (cursor : Cursor) :
    (readNull : Reader α).run source cursor = (none, cursor) := rfl

@[simp] theorem run_allocate (source : Source) (cursor : Cursor) :
    allocate.run source cursor = (some (source.malloc cursor.mallocs), cursor.countMalloc) :=
  rfl

theorem run_assertAllocated_of_malloc {source : Source} {cursor : Cursor}
    (allocated : source.malloc cursor.mallocs = true) :
    assertAllocated.run source cursor = (some (), cursor.countMalloc) := by
  rw [assertAllocated, run_bind_some (run_allocate source cursor), allocated]
  rfl

theorem run_assertAllocated_of_failure {source : Source} {cursor : Cursor}
    (failed : source.malloc cursor.mallocs = false) :
    assertAllocated.run source cursor = (none, cursor.countMalloc) := by
  rw [assertAllocated, run_bind_some (run_allocate source cursor), failed]
  rfl

end Reader

/-! ## Little-endian words -/

/-- The 16-bit word with the given low and high byte. -/
def wordOf (low high : UInt8) : UInt16 :=
  (high.toUInt16 <<< 8) ||| low.toUInt16

def lowByte (word : UInt16) : UInt8 := word.toUInt8

def highByte (word : UInt16) : UInt8 := (word >>> 8).toUInt8

/-- A word as it lies in a buffer. -/
def wordBytes (word : UInt16) : List UInt8 := [lowByte word, highByte word]

theorem wordOf_toNat (low high : UInt8) :
    (wordOf low high).toNat = high.toNat * 256 + low.toNat := by
  have lowBound := UInt8.toNat_lt low
  have highBound := UInt8.toNat_lt high
  simp only [wordOf, UInt16.toNat_or, UInt16.toNat_shiftLeft, UInt8.toNat_toUInt16]
  have shiftAmount : (8 : UInt16).toNat % 16 = 8 := rfl
  have shifted : high.toNat <<< 8 = high.toNat * 256 := by rw [Nat.shiftLeft_eq]
  rw [shiftAmount, Nat.mod_eq_of_lt (by rw [shifted]; omega),
    ← Nat.shiftLeft_add_eq_or_of_lt lowBound, shifted]

theorem wordOf_lowByte_highByte (word : UInt16) :
    wordOf (lowByte word) (highByte word) = word := by
  apply UInt16.toNat_inj.mp
  have bound := UInt16.toNat_lt word
  rw [wordOf_toNat]
  simp only [lowByte, highByte, UInt16.toNat_toUInt8, UInt16.toNat_shiftRight]
  have shiftAmount : (8 : UInt16).toNat % 16 = 8 := rfl
  rw [shiftAmount, Nat.shiftRight_eq_div_pow]
  omega

theorem wordOf_inj {low high otherLow otherHigh : UInt8} :
    wordOf low high = wordOf otherLow otherHigh ↔ low = otherLow ∧ high = otherHigh := by
  constructor
  · intro equal
    have values := congrArg UInt16.toNat equal
    rw [wordOf_toNat, wordOf_toNat] at values
    have lowBound := UInt8.toNat_lt low
    have otherBound := UInt8.toNat_lt otherLow
    constructor <;> apply UInt8.toNat_inj.mp <;> omega
  · intro both
    rcases both with ⟨rfl, rfl⟩
    rfl

namespace Source

/-- The word at an offset. -/
def word (source : Source) (offset : Nat) : UInt16 :=
  wordOf (source.byte offset) (source.byte (offset + 1))

/-- The `count` words from an offset on. -/
def words (source : Source) (offset : Nat) : Nat → List UInt16
  | 0 => []
  | count + 1 => source.word offset :: source.words (offset + 2) count

/-- The words lie in the buffer from an offset on. -/
def HoldsWords (source : Source) : Nat → List UInt16 → Prop
  | _, [] => True
  | offset, word :: rest => source.word offset = word ∧ source.HoldsWords (offset + 2) rest

theorem words_eq_iff (source : Source) (offset : Nat) (expected : List UInt16) :
    source.words offset expected.length = expected ↔ source.HoldsWords offset expected := by
  induction expected generalizing offset with
  | nil => simp [words, HoldsWords]
  | cons word rest induction => simp [words, HoldsWords, induction]

@[simp] theorem words_length (source : Source) (offset count : Nat) :
    (source.words offset count).length = count := by
  induction count generalizing offset with
  | zero => rfl
  | succ count induction => simp [words, induction]

theorem holdsWords_append (source : Source) (offset : Nat) (left right : List UInt16) :
    source.HoldsWords offset (left ++ right) ↔
      source.HoldsWords offset left ∧
        source.HoldsWords (offset + 2 * left.length) right := by
  induction left generalizing offset with
  | nil => simp [HoldsWords]
  | cons word rest induction =>
      have position : offset + 2 + 2 * rest.length = offset + 2 * (rest.length + 1) := by
        omega
      simp [HoldsWords, induction, position, and_assoc]

/-- Of the words that lie at an offset, the shorter lists are the prefixes. -/
theorem holdsWords_iff_prefix {source : Source} {offset : Nat} {all : List UInt16}
    (holds : source.HoldsWords offset all) {front : List UInt16}
    (shorter : front.length ≤ all.length) :
    source.HoldsWords offset front ↔ front <+: all := by
  induction front generalizing offset all with
  | nil => simp [HoldsWords]
  | cons word front induction =>
      cases all with
      | nil => simp at shorter
      | cons first all =>
          have rest := induction holds.2 (Nat.le_of_succ_le_succ shorter)
          rw [List.cons_prefix_cons, ← rest, HoldsWords, holds.1]
          constructor <;> rintro ⟨rfl, later⟩ <;> exact ⟨rfl, later⟩

/-- A buffer that starts with the bytes of some words holds the words. -/
theorem holdsWords_of_bytes {source : Source} {words : List UInt16} {offset : Nat}
    (bytes : ∀ index byte, (words.flatMap wordBytes)[index]? = some byte →
      source.byte (offset + index) = byte) :
    source.HoldsWords offset words := by
  induction words generalizing offset with
  | nil => trivial
  | cons word rest induction =>
      have low := bytes 0 (lowByte word) rfl
      have high := bytes 1 (highByte word) rfl
      refine ⟨?_, induction ?_⟩
      · rw [Source.word, ← wordOf_lowByte_highByte word, ← low, ← high]
        rfl
      · intro index byte present
        rw [Nat.add_assoc, Nat.add_comm 2 index]
        exact bytes (index + 2) byte (by simpa [wordBytes] using present)

/-- The bytes lie in memory from an offset on. -/
def HoldsBytes (source : Source) (offset : Nat) (bytes : List UInt8) : Prop :=
  (List.range' offset bytes.length).map source.byte = bytes

@[simp] theorem holdsBytes_nil (source : Source) (offset : Nat) :
    source.HoldsBytes offset [] := rfl

@[simp] theorem holdsBytes_cons (source : Source) (offset : Nat) (byte : UInt8)
    (rest : List UInt8) :
    source.HoldsBytes offset (byte :: rest) ↔
      source.byte offset = byte ∧ source.HoldsBytes (offset + 1) rest := by
  simp [HoldsBytes, List.range'_succ]

theorem holdsBytes_iff (source : Source) (offset : Nat) (bytes : List UInt8) :
    source.HoldsBytes offset bytes ↔
      ∀ index byte, bytes[index]? = some byte → source.byte (offset + index) = byte := by
  induction bytes generalizing offset with
  | nil => simp
  | cons first rest induction =>
      rw [holdsBytes_cons, induction]
      constructor
      · intro holds index byte present
        cases index with
        | zero =>
            cases present
            exact holds.1
        | succ index =>
            rw [Nat.add_comm index 1, ← Nat.add_assoc]
            exact holds.2 index byte present
      · intro holds
        refine ⟨holds 0 first rfl, ?_⟩
        intro index byte present
        rw [Nat.add_assoc, Nat.add_comm 1 index]
        exact holds (index + 1) byte present

end Source

/-- Memory that starts with the given bytes. -/
def overlay (bytes : List UInt8) (behind : Nat → UInt8) (index : Nat) : UInt8 :=
  bytes[index]?.getD (behind index)

namespace Source

theorem holdsBytes_of_prefix {source : Source} {bytes front : List UInt8}
    {behind : Nat → UInt8} (memory : source.byte = overlay bytes behind)
    (starts : front <+: bytes) : source.HoldsBytes 0 front := by
  rw [holdsBytes_iff]
  intro index byte present
  rcases starts with ⟨rest, rfl⟩
  have within : index < front.length := (List.getElem?_eq_some_iff.mp present).1
  rw [memory, overlay, Nat.zero_add, List.getElem?_append_left within, present]
  rfl

/-- What lies at the start of memory, whatever is behind the bytes, is in the bytes. -/
theorem prefix_of_holdsBytes {bytes front : List UInt8}
    (holds : ∀ behind, ∃ source : Source,
      source.byte = overlay bytes behind ∧ source.HoldsBytes 0 front) : front <+: bytes := by
  -- Behind the bytes, every byte differs from the one that is expected there.
  let behind : Nat → UInt8 := fun index => front[index]?.getD 0 + 1
  rcases holds behind with ⟨source, memory, held⟩
  rw [holdsBytes_iff] at held
  rw [List.prefix_iff_getElem?]
  intro index within
  have expected := held index front[index] (List.getElem?_eq_getElem within)
  rw [memory, overlay, Nat.zero_add] at expected
  cases present : bytes[index]? with
  | some byte =>
      rw [present] at expected
      exact congrArg some expected
  | none =>
      have differs : behind index = front[index] := by
        rw [present] at expected
        exact expected
      simp [behind, List.getElem?_eq_getElem within] at differs

end Source

namespace Reader

@[simp] theorem run_readWord (source : Source) (cursor : Cursor) :
    readWord.run source cursor = (some (source.word cursor.offset), cursor.advance 2) := by
  rw [readWord, run_bind_some (run_readNext source cursor),
    run_bind_some (run_readNext source _), run_pure, Cursor.advance_advance]
  rfl

theorem run_times_readWord (count : Nat) (source : Source) (cursor : Cursor) :
    (readWord.times count).run source cursor =
      (some (source.words cursor.offset count), cursor.advance (2 * count)) := by
  induction count generalizing cursor with
  | zero => simp [times, Source.words]
  | succ count induction =>
      rw [times, run_bind_some (run_readWord source cursor),
        run_bind_some (induction (cursor.advance 2)), run_pure, Cursor.advance_advance,
        Cursor.advance_offset, Source.words]
      congr 2
      omega

end Reader

end Foundation
