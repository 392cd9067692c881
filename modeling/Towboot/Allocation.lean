import Towboot.Firmware
import Towboot.MemoryMap

/-!
# Tracked page allocations

`Allocation` owns pages that `allocate_pages` handed out, possibly not at the
address they were wanted at: `new_at` falls back to pages below 4 GiB and
remembers the wanted address in `should_be_at`, and
`move_to_where_it_should_be` later copies the bytes there. The relocation looks
for an entry of the Multiboot memory map that contains the target, lazily and in
map order, exactly as `filter(..).next()` does, so a later entry is examined
only after the copy.
-/

namespace Towboot

open Multiboot PanicM BootM

/-- `config::Quirk`, declared in `config.rs`, which is not among the sources: the
one quirk the loader's code names, `Quirk::ModulesBelow200Mb`. -/
inductive Quirk where
  /-- Place modules below 200 MiB. -/
  | modulesBelow200Mb
  deriving DecidableEq, Repr

/-- `Allocation`. -/
structure Allocation where
  /-- Where the pages are. -/
  ptr : UInt64
  /-- The number of bytes asked for. -/
  len : UInt64
  /-- The number of pages allocated. -/
  pages : UInt64
  /-- Where the memory should have been allocated, when that differs from `ptr`. -/
  shouldBeAt : Option UInt64
  deriving DecidableEq, Repr

/-- The firmware's answers to the calls that one constructor of `Allocation` makes. -/
structure AllocationAnswers where
  /-- To `allocate_pages` at the wanted address (`new_at` only). -/
  atAddress : Except Status UInt64
  /-- To `memory_map` after that allocation failed. -/
  atAddressMap : Except Status Unit
  /-- To `allocate_pages` below the ceiling. -/
  belowCeiling : Except Status UInt64
  /-- To `memory_map` after that allocation failed. -/
  belowCeilingMap : Except Status Unit

namespace Allocation

/-- `calculate_page_count`: full pages, and one more for a remainder. -/
def calculatePageCount (size : UInt64) : UInt64 :=
  size / pageSize + if size % pageSize = 0 then 0 else 1

/-- `new_under_4gb`: pages below 4 GiB, or below 200 MiB with the quirk. -/
def newUnder4gb (size : UInt64) (quirks : List Quirk) (answers : AllocationAnswers) :
    BootM (Except Status Allocation) := do
  let countPages := calculatePageCount size
  let ceiling : UInt64 :=
    if Quirk.modulesBelow200Mb ∈ quirks then 200 * 1024 * 1024 else 4294967295
  match ← allocatePages (.maxAddress ceiling) countPages answers.belowCeiling with
  | .ok ptr => pure (.ok ⟨ptr, size, countPages, none⟩)
  | .error _ => do
    dumpMemoryMap answers.belowCeilingMap
    pure (.error .loadError)

/-- `new_at`: pages at `address`, or else pages below 4 GiB that should be at `address`. -/
def newAt (address size : UInt64) (answers : AllocationAnswers) :
    BootM (Except Status Allocation) := do
  let countPages := calculatePageCount size
  match ← allocatePages (.address address) countPages answers.atAddress with
  | .ok ptr => pure (.ok ⟨ptr, size, countPages, none⟩)
  | .error _ => do
    dumpMemoryMap answers.atAddressMap
    match ← newUnder4gb size [] answers with
    | .ok allocation => pure (.ok { allocation with shouldBeAt := some address })
    | .error e => pure (.error e)

/-- `as_mut_slice`: the pointer and length of the slice over all the pages. -/
def asMutSlice (self : Allocation) : Except Panic (UInt64 × UInt64) := do
  let length ← mulU64 self.pages pageSize
  pure (self.ptr, length)

/-- `contains`: `ptr <= begin && ptr + pages * PAGE_SIZE >= begin + length`. -/
def contains (self : Allocation) (begin length : UInt64) : Except Panic Bool :=
  if self.ptr ≤ begin then do
    let size ← mulU64 self.pages pageSize
    let top ← addU64 self.ptr size
    let want ← addU64 begin length
    pure (decide (want ≤ top))
  else pure false

end Allocation

/-- The filter of `move_to_where_it_should_be`:
`e.base_address() <= a && e.base_address() + e.length() >= a + len`. -/
def relocationFilter (a len : UInt64) (e : MemoryEntry) : Except Panic Bool :=
  if e.baseAddress ≤ a then do
    let top ← addU64 e.baseAddress e.length
    let want ← addU64 a len
    pure (decide (want ≤ top))
  else pure false

/-- `filter.next()`: the first entry that passes the filter, with the entries
after it, which are where the filter resumes. -/
def filterNext (a len : UInt64) :
    List MemoryEntry → Except Panic (Option (MemoryEntry × List MemoryEntry))
  | [] => pure none
  | e :: es => do
    if ← relocationFilter a len e then pure (some (e, es)) else filterNext a len es

namespace Allocation

/-- `move_to_where_it_should_be`: copy the bytes to `should_be_at` when the first
map entry containing the target is available, then assert that no later entry
contains it. -/
def moveToWhereItShouldBe (self : Allocation) (memoryMap : List MemoryEntry) :
    BootM Allocation :=
  match self.shouldBeAt with
  | none => pure self
  | some a => do
    let rest ← match ← MonadExcept.ofExcept (filterNext a self.len memoryMap) with
      | none => throw (.message "no memory map entry contains the place we want to write to")
      | some (entry, rest) =>
        match entry.memoryType with
        | .available => do
          copyMemory self.ptr a self.len
          pure rest
        | _ => throw (.message "would overwrite")
    if (← MonadExcept.ofExcept (filterNext a self.len rest)).isSome then throw .assertion
    pure { self with ptr := a, shouldBeAt := none }

/-- `drop`: free the pages at `ptr`, panicking when the firmware refuses. -/
def drop (self : Allocation) : BootM Unit := do
  let r ← freePages self.ptr self.pages
  expect "failed to free the allocated memory" r

end Allocation

end Towboot
