import Towboot.Machine

/-!
# The memory map handed to the kernel

`prepare_information` turns the firmware's memory descriptors into Multiboot
memory-map entries. Each descriptor is classified under a Multiboot type and is
either joined to the running entry or written to the next slot of a buffer the
caller supplies, since nothing may be allocated once boot services are gone.
The lower and upper memory bounds are then read off that buffer.
-/

namespace Towboot

/-- `PAGE_SIZE`. -/
def pageSize : UInt64 := 4096

@[simp] theorem pageSize_toNat : pageSize.toNat = 4096 := rfl

namespace Uefi

/-- A UEFI memory type: a `u32`, of which the specification names the first
fifteen values. -/
structure MemoryType where
  /-- The value the firmware reports. -/
  raw : UInt32
  deriving DecidableEq, Repr

namespace MemoryType

def reserved : MemoryType := ⟨0⟩
def loaderCode : MemoryType := ⟨1⟩
def loaderData : MemoryType := ⟨2⟩
def bootServicesCode : MemoryType := ⟨3⟩
def bootServicesData : MemoryType := ⟨4⟩
def runtimeServicesCode : MemoryType := ⟨5⟩
def runtimeServicesData : MemoryType := ⟨6⟩
def conventional : MemoryType := ⟨7⟩
def unusable : MemoryType := ⟨8⟩
def acpiReclaim : MemoryType := ⟨9⟩
def acpiNonVolatile : MemoryType := ⟨10⟩
def mmio : MemoryType := ⟨11⟩
def mmioPortSpace : MemoryType := ⟨12⟩
def palCode : MemoryType := ⟨13⟩
def persistentMemory : MemoryType := ⟨14⟩

end MemoryType

/-- A UEFI memory descriptor. The virtual start and the attributes are not read
by the loader and are left out. -/
structure MemoryDescriptor where
  /-- The kind of memory. -/
  ty : MemoryType
  /-- The first physical address of the region. -/
  physStart : UInt64
  /-- The length of the region in 4096-byte pages. -/
  pageCount : UInt64
  deriving DecidableEq, Repr

end Uefi

namespace Multiboot

/-- The Multiboot memory types. -/
inductive MemoryType where
  | available
  | reserved
  | acpi
  | nvs
  | defect
  deriving DecidableEq, Repr

/-- A Multiboot memory-map entry, through its accessors `base_address`,
`length` and `memory_type`; the constant `size` field is left out. -/
structure MemoryEntry where
  new ::
  /-- The first address of the region. -/
  baseAddress : UInt64
  /-- The length of the region in bytes. -/
  length : UInt64
  /-- The kind of memory. -/
  memoryType : MemoryType
  deriving DecidableEq, Repr

/-- The fields of the crate's `Multiboot` information that
`prepare_information` sets; its flag bits and other fields are left out. -/
structure Info where
  /-- Lower and upper memory in KiB, set by `set_memory_bounds`. -/
  memoryBounds : Option (UInt32 × UInt32)
  /-- `mmap_addr` and `mmap_length`: the memory map's address and its length in
  bytes, set by `set_memory_regions`. -/
  memoryRegions : Option (UInt32 × UInt32)
  deriving DecidableEq, Repr

/-- `set_memory_bounds`. -/
def Info.setMemoryBounds (info : Info) (bounds : Option (UInt32 × UInt32)) : Info :=
  { info with memoryBounds := bounds }

/-- `set_memory_regions`: the address and the byte length of `count` entries of
24 bytes each (`count * size_of::<MemoryEntry>()`, a `usize` product) go into the
`u32` fields of the information with `try_into().unwrap()`. -/
def Info.setMemoryRegions (info : Info) (regions : Option (UInt64 × ℕ)) : Except Panic Info :=
  match regions with
  | none => .ok { info with memoryRegions := none }
  | some (addr, count) => do
    let mmapAddr ← toU32 addr
    let length ← (if count * 24 < 2 ^ 64 then .ok (UInt64.ofNat (count * 24))
      else .error .overflow : Except Panic UInt64)
    let mmapLength ← toU32 length
    pure { info with memoryRegions := some (mmapAddr, mmapLength) }

/-- The memory map of a buffer below 4 GiB whose entries fit `u32` bytes is stored. -/
theorem Info.setMemoryRegions_of_lt (info : Info) {addr : UInt64} {count : ℕ}
    (haddr : addr.toNat < 2 ^ 32) (hcount : count * 24 < 2 ^ 32) :
    ∃ mmapAddr mmapLength, info.setMemoryRegions (some (addr, count)) =
        .ok { info with memoryRegions := some (mmapAddr, mmapLength) } ∧
      mmapAddr.toNat = addr.toNat ∧ mmapLength.toNat = count * 24 := by
  have hlength : (UInt64.ofNat (count * 24)).toNat = count * 24 :=
    UInt64.toNat_ofNat_of_lt (by show count * 24 < 2 ^ 64; omega)
  obtain ⟨mmapAddr, haddr', haddrNat⟩ := toU32_of_lt haddr
  obtain ⟨mmapLength, hlength', hlengthNat⟩ := toU32_of_lt (hlength ▸ hcount)
  refine ⟨mmapAddr, mmapLength, ?_, haddrNat, hlengthNat.trans hlength⟩
  simp only [setMemoryRegions, haddr', if_pos (show count * 24 < 2 ^ 64 by omega), hlength',
    Except.ok_bind, Except.pure_eq_ok]

/-- `set_memory_regions` of a buffer returns only when the address and the byte
length fit a `u32`. -/
theorem Info.setMemoryRegions_lt_of_eq_ok {info info' : Info} {addr : UInt64} {count : ℕ}
    (h : info.setMemoryRegions (some (addr, count)) = .ok info') :
    addr.toNat < 2 ^ 32 ∧ count * 24 < 2 ^ 32 := by
  obtain ⟨mmapAddr, haddr, h⟩ := Except.bind_eq_ok.mp h
  obtain ⟨length, hlength, h⟩ := Except.bind_eq_ok.mp h
  obtain ⟨mmapLength, hmmapLength, -⟩ := Except.bind_eq_ok.mp h
  split_ifs at hlength with hfit
  cases hlength
  have hfits := toU32_eq_ok hmmapLength
  rw [UInt64.toNat_ofNat_of_lt (by show count * 24 < 2 ^ 64; omega)] at hfits
  exact ⟨toU32_eq_ok haddr, hfits⟩

/-- A `set_memory_regions` that returns: the address and the byte length fit a
`u32` and are stored. -/
theorem Info.setMemoryRegions_eq_ok {info info' : Info} {addr : UInt64} {count : ℕ}
    (h : info.setMemoryRegions (some (addr, count)) = .ok info') :
    addr.toNat < 2 ^ 32 ∧ count * 24 < 2 ^ 32 ∧ ∃ mmapAddr mmapLength,
      info' = { info with memoryRegions := some (mmapAddr, mmapLength) } ∧
        mmapAddr.toNat = addr.toNat ∧ mmapLength.toNat = count * 24 := by
  obtain ⟨haddr, hcount⟩ := setMemoryRegions_lt_of_eq_ok h
  obtain ⟨mmapAddr, mmapLength, hset, hfields⟩ := info.setMemoryRegions_of_lt haddr hcount
  rw [hset, Except.ok.injEq] at h
  exact ⟨haddr, hcount, mmapAddr, mmapLength, h.symm, hfields⟩

end Multiboot

open Uefi Multiboot

/-- The `match descriptor.ty` of `prepare_information`, arm by arm. -/
def multibootType (ty : Uefi.MemoryType) : Multiboot.MemoryType :=
  if ty = .loaderCode ∨ ty = .loaderData ∨ ty = .bootServicesCode ∨ ty = .bootServicesData then
    .available
  else if ty = .runtimeServicesCode ∨ ty = .runtimeServicesData then .reserved
  else if ty = .conventional then .available
  else if ty = .unusable then .defect
  else if ty = .acpiReclaim then .acpi
  else if ty = .acpiNonVolatile then .nvs
  else if ty = .mmio ∨ ty = .mmioPortSpace ∨ ty = .palCode then .reserved
  else if ty = .persistentMemory then .available
  else .reserved

/-- The descriptor types that the match makes Available: the loader's and the
boot services' code and data, conventional and persistent memory. Runtime
services, ACPI, MMIO, PAL code, unusable and unrecognised types are not. -/
theorem multibootType_eq_available_iff (ty : Uefi.MemoryType) :
    multibootType ty = .available ↔
      ty ∈ [.loaderCode, .loaderData, .bootServicesCode, .bootServicesData, .conventional,
        .persistentMemory] := by
  by_cases h : ty ∈ [.loaderCode, .loaderData, .bootServicesCode, .bootServicesData,
    .conventional, .persistentMemory]
  · simp only [List.mem_cons, List.mem_singleton, List.not_mem_nil, or_false] at h
    rcases h with rfl | rfl | rfl | rfl | rfl | rfl <;> decide
  · simp only [List.mem_cons, List.not_mem_nil, or_false, not_or] at h
    obtain ⟨h₁, h₂, h₃, h₄, h₅, h₆⟩ := h
    simp only [multibootType, h₁, h₂, h₃, h₄, h₅, h₆, or_self, if_false, List.mem_cons,
      List.not_mem_nil, or_false, iff_false]
    split_ifs <;> exact nofun

/-- `next_entry`: the entry a descriptor becomes, before any joining. -/
def entryOf (descriptor : MemoryDescriptor) : Except Panic MemoryEntry := do
  let length ← mulU64 descriptor.pageCount pageSize
  pure (.new descriptor.physStart length (multibootType descriptor.ty))

/-- The state of the loop of `prepare_information`: `count`, the buffer slots
before `current_entry`, `current_entry` itself, and the slots `entry_iter` has
not handed out yet. -/
structure MergeState where
  /-- The number of entries written so far. -/
  count : ℕ
  /-- The slots before `current_entry`. -/
  written : List MemoryEntry
  /-- The slot `current_entry` points to. -/
  current : MemoryEntry
  /-- The slots after `current_entry`. -/
  rest : List MemoryEntry
  deriving DecidableEq, Repr

namespace MergeState

/-- The whole of `mb_mmap_buf`. -/
def buffer (s : MergeState) : List MemoryEntry := s.written ++ s.current :: s.rest

/-- `entry_iter.next().unwrap()` before the loop. -/
def start : List MemoryEntry → Except Panic MergeState
  | [] => .error .unwrap
  | e :: rest => .ok ⟨0, [], e, rest⟩

/-- The branch that starts a new entry: `current_entry = entry_iter.next().unwrap()`,
then `*current_entry = next_entry` and `count += 1`. -/
def advance (s : MergeState) (next : MemoryEntry) : Except Panic MergeState :=
  match s.rest with
  | [] => .error .unwrap
  | _ :: rest => .ok ⟨s.count + 1, s.written ++ [s.current], next, rest⟩

end MergeState

/-- One iteration of the loop over the descriptors. The `&&` of the join test
evaluates the sum only when the types agree. -/
def mergeStep (s : MergeState) (descriptor : MemoryDescriptor) : Except Panic MergeState := do
  let next ← entryOf descriptor
  if s.count = 0 then
    pure { s with current := next, count := s.count + 1 }
  else if next.memoryType = s.current.memoryType then do
    let top ← addU64 s.current.baseAddress s.current.length
    if next.baseAddress = top then do
      let length ← addU64 s.current.length next.length
      pure { s with current := .new s.current.baseAddress length s.current.memoryType }
    else s.advance next
  else s.advance next

/-- `for descriptor in mmap_iter`. -/
def mergeLoop (s : MergeState) : List MemoryDescriptor → Except Panic MergeState
  | [] => .ok s
  | d :: ds => mergeStep s d >>= (mergeLoop · ds)

/-- Lower memory is fixed at 640 KiB; upper memory is the length in KiB of the
first slot of the whole buffer whose base is 1 MiB. -/
def memoryBounds (mbMmapBuf : List MemoryEntry) : Except Panic (UInt32 × UInt32) :=
  match mbMmapBuf.find? (fun e => e.baseAddress = 1024 * 1024) with
  | none => .error .unwrap
  | some e => do
    let upper ← toU32 (e.length / 1024)
    pure (640, upper)

/-- `prepare_information`: the Multiboot information it leaves, the contents of
`mb_mmap_buf` after the call, and the slice it returns. `bufferAddress` is
`mb_mmap_buf.as_ptr()`. -/
def prepareInformation (multiboot : Multiboot.Info) (mmapIter : List MemoryDescriptor)
    (bufferAddress : UInt64) (mbMmapBuf : List MemoryEntry) :
    Except Panic (Multiboot.Info × List MemoryEntry × List MemoryEntry) := do
  let s ← MergeState.start mbMmapBuf >>= (mergeLoop · mmapIter)
  let bounds ← memoryBounds s.buffer
  let multiboot ← (multiboot.setMemoryBounds (some bounds)).setMemoryRegions
    (some (bufferAddress, s.count))
  pure (multiboot, s.buffer, s.buffer.take s.count)

end Towboot
