import Towboot.Machine
import Mathlib.Data.List.AList

/-!
# The allocator handed to the multiboot crate

`MultibootAllocator` proxies the global heap to the multiboot crate, which knows
blocks only by their physical address. A table from address to `Layout` records
every block it handed out, so that `paddr_to_slice` and `deallocate` can find the
layout again. The heap is shared with the rest of the loader: it is modelled by
the blocks it has handed out and not taken back, and by its answer to each
`alloc`, which is null or a block overlapping none of those.

The allocator's contract is stated over a ghost list of the addresses that
successful `allocate` calls returned and no `deallocate` has taken back, each with
the length that was asked for; it holds in every state a run of the three
operations reaches.
-/

namespace Towboot

open PanicM

/-- `multiboot::information::PAddr`. -/
abbrev PAddr := UInt64

/-- `core::alloc::Layout` of a `[u8]` array. The alignment is always 1 and is
left out. -/
structure Layout where
  /-- The size in bytes. -/
  size : UInt64
  deriving DecidableEq, Repr

/-- `Layout::array::<u8>(length)`, which fails when the size exceeds `isize::MAX`. -/
def Layout.array (length : UInt64) : Option Layout :=
  if length.toNat ≤ 9223372036854775807 then some ⟨length⟩ else none

theorem Layout.array_of_le {length : UInt64} (h : length.toNat ≤ 9223372036854775807) :
    Layout.array length = some ⟨length⟩ :=
  if_pos h

theorem Layout.array_of_not_le {length : UInt64} (h : ¬length.toNat ≤ 9223372036854775807) :
    Layout.array length = none :=
  if_neg h

/-- A slice `from_raw_parts(ptr, len)`. -/
structure RawSlice where
  /-- The first byte. -/
  ptr : UInt64
  /-- The number of bytes. -/
  len : UInt64
  deriving DecidableEq, Repr

/-- `MultibootAllocator`. The `BTreeMap` is a finite map. -/
structure MultibootAllocator where
  /-- The layout of each block handed out, by address. -/
  allocations : AList (fun _ : PAddr => Layout)

/-- The allocator and the global heap behind it. -/
structure AllocatorState where
  /-- The multiboot crate's allocator. -/
  allocator : MultibootAllocator
  /-- The blocks the global heap has handed out and not taken back, whoever asked. -/
  heap : List (PAddr × Layout)

/-- The allocator's computations. -/
abbrev AllocM := PanicM AllocatorState

/-- `alloc(layout)` when the global heap answers `answer`; null is 0. -/
def alloc (layout : Layout) (answer : UInt64) : AllocM UInt64 := fun s =>
  .ok answer (if answer = 0 then s else { s with heap := (answer, layout) :: s.heap })

/-- `dealloc(ptr, layout)`. -/
def dealloc (ptr : UInt64) (layout : Layout) : AllocM Unit := fun s =>
  .ok () { s with heap := s.heap.erase (ptr, layout) }

/-- The heap answers null or a block of `size` bytes that overlaps none it holds. -/
def Fresh (heap : List (PAddr × Layout)) (answer size : UInt64) : Prop :=
  answer = 0 ∨ ∀ b ∈ heap,
    answer.toNat + size.toNat ≤ b.1.toNat ∨ b.1.toNat + b.2.size.toNat ≤ answer.toNat

namespace MultibootAllocator

/-- `MultibootAllocator::new`. -/
def new : MultibootAllocator := ⟨∅⟩

/-- `self.allocations.insert(addr, layout)`. -/
def insert (addr : PAddr) (layout : Layout) : AllocM Unit := fun s =>
  .ok () { s with allocator := ⟨s.allocator.allocations.insert addr layout⟩ }

/-- `self.allocations.remove(&addr)`. -/
def remove (addr : PAddr) : AllocM (Option Layout) := fun s =>
  .ok (s.allocator.allocations.lookup addr)
    { s with allocator := ⟨s.allocator.allocations.erase addr⟩ }

/-- `paddr_to_slice`: the block at `addr`, with the size of its layout rather than
the length the caller asks for. -/
def paddrToSlice (addr : PAddr) (_length : UInt64) : AllocM (Option RawSlice) := fun s =>
  .ok ((s.allocator.allocations.lookup addr).map fun layout => ⟨addr, layout.size⟩) s

/-- `allocate`: a block from the global heap, refused when it is not below
`u32::MAX` or is null. -/
def allocate (length answer : UInt64) : AllocM (Option (PAddr × RawSlice)) :=
  match Layout.array length with
  | none => throw (.expect "tried to allocate more than usize")
  | some layout => do
    let ptr ← alloc layout answer
    if ptr ≥ 4294967295 then pure none
    else if ptr = 0 then pure none
    else do
      insert ptr layout
      pure (some (ptr, ⟨ptr, length⟩))

/-- `deallocate`: give a block back to the global heap with the layout it was
allocated with; null is ignored, and any other unknown address panics. -/
def deallocate (addr : PAddr) : AllocM Unit :=
  if addr = 0 then pure ()
  else do
    match ← remove addr with
    | none => throw (.message "couldn't free memory that has not been previously allocated")
    | some layout => dealloc addr layout

/-! ## What each operation does -/

theorem allocate_of_accepted {length answer : UInt64} {s : AllocatorState}
    (hlen : length.toNat ≤ 9223372036854775807) (hnull : answer ≠ 0) (h4gb : answer.toNat < 4294967295) :
    allocate length answer s =
      .ok (some (answer, ⟨answer, length⟩))
        ⟨⟨s.allocator.allocations.insert answer ⟨length⟩⟩, (answer, ⟨length⟩) :: s.heap⟩ := by
  have hlt : ¬answer ≥ 4294967295 := by
    rw [ge_iff_le, UInt64.le_iff_toNat_le]
    simpa using h4gb
  simp [allocate, Layout.array_of_le hlen, alloc, hnull, hlt, insert]

theorem allocate_of_refused {length answer : UInt64} {s : AllocatorState}
    (hlen : length.toNat ≤ 9223372036854775807) (hrefused : answer = 0 ∨ 4294967295 ≤ answer.toNat) :
    allocate length answer s =
      .ok none (if answer = 0 then s else { s with heap := (answer, ⟨length⟩) :: s.heap }) := by
  rcases hrefused with rfl | h4gb
  · simp [allocate, Layout.array_of_le hlen, alloc]
  · have hge : answer ≥ 4294967295 := by
      rw [ge_iff_le, UInt64.le_iff_toNat_le]
      simpa using h4gb
    simp [allocate, Layout.array_of_le hlen, alloc, hge]

/-- `allocate` panics exactly when the length does not fit a `Layout`. -/
theorem allocate_too_large {length answer : UInt64} {s : AllocatorState}
    (hlen : ¬length.toNat ≤ 9223372036854775807) :
    allocate length answer s = .error (.expect "tried to allocate more than usize") s := by
  simp [allocate, Layout.array, hlen]

/-- Everything a returning `allocate` does, exactly: record a block below 4 GiB
that the heap handed out, or refuse with the table untouched and the block the
heap handed out, if any, still on the heap. -/
theorem allocate_eq_ok {length answer : UInt64} {s s' : AllocatorState}
    {r : Option (PAddr × RawSlice)} (h : allocate length answer s = .ok r s') :
    (answer ≠ 0 ∧ answer.toNat < 4294967295 ∧ r = some (answer, ⟨answer, length⟩) ∧
      s' = ⟨⟨s.allocator.allocations.insert answer ⟨length⟩⟩, (answer, ⟨length⟩) :: s.heap⟩) ∨
    (r = none ∧ (answer = 0 ∨ 4294967295 ≤ answer.toNat) ∧
      s' = if answer = 0 then s else { s with heap := (answer, ⟨length⟩) :: s.heap }) := by
  by_cases hfits : length.toNat ≤ 9223372036854775807
  · by_cases hacc : answer ≠ 0 ∧ answer.toNat < 4294967295
    · rw [allocate_of_accepted hfits hacc.1 hacc.2] at h
      cases h
      exact .inl ⟨hacc.1, hacc.2, rfl, rfl⟩
    · rw [not_and_or, not_not, not_lt] at hacc
      rw [allocate_of_refused hfits hacc] at h
      cases h
      exact .inr ⟨rfl, hacc, rfl⟩
  · rw [allocate_too_large hfits] at h
    cases h

/-- Everything a returning `allocate` can do: record a block below 4 GiB that the
heap handed out, or refuse, leaving the table alone and the heap's blocks in place. -/
theorem allocate_ok_cases {length answer : UInt64} {s s' : AllocatorState}
    {r : Option (PAddr × RawSlice)} (h : allocate length answer s = .ok r s') :
    (answer ≠ 0 ∧ answer.toNat < 4294967295 ∧ r = some (answer, ⟨answer, length⟩) ∧
      s' = ⟨⟨s.allocator.allocations.insert answer ⟨length⟩⟩, (answer, ⟨length⟩) :: s.heap⟩) ∨
    (r = none ∧ s'.allocator = s.allocator ∧ ∀ b ∈ s.heap, b ∈ s'.heap) := by
  rcases allocate_eq_ok h with haccepted | ⟨hr, -, rfl⟩
  · exact .inl haccepted
  · refine .inr ⟨hr, ?_, fun b hb => ?_⟩ <;> split
    exacts [rfl, rfl, hb, .tail _ hb]

theorem deallocate_null (s : AllocatorState) : deallocate 0 s = .ok () s := rfl

theorem deallocate_of_lookup {addr : PAddr} {layout : Layout} {s : AllocatorState}
    (hnull : addr ≠ 0) (h : s.allocator.allocations.lookup addr = some layout) :
    deallocate addr s =
      .ok () ⟨⟨s.allocator.allocations.erase addr⟩, s.heap.erase (addr, layout)⟩ := by
  simp [deallocate, hnull, remove, h, dealloc]

theorem deallocate_of_lookup_none {addr : PAddr} {s : AllocatorState}
    (hnull : addr ≠ 0) (h : s.allocator.allocations.lookup addr = none) :
    deallocate addr s = .error
      (.message "couldn't free memory that has not been previously allocated")
      ⟨⟨s.allocator.allocations.erase addr⟩, s.heap⟩ := by
  simp [deallocate, hnull, remove, h]

/-- Everything a returning `deallocate` can do: ignore null, or forget a recorded
address and give its block back to the heap with the recorded layout. -/
theorem deallocate_ok_cases {addr : PAddr} {s s' : AllocatorState}
    (h : deallocate addr s = .ok () s') :
    (addr = 0 ∧ s' = s) ∨ ∃ layout, s.allocator.allocations.lookup addr = some layout ∧
      s' = ⟨⟨s.allocator.allocations.erase addr⟩, s.heap.erase (addr, layout)⟩ := by
  by_cases hnull : addr = 0
  · subst hnull
    cases h
    exact .inl ⟨rfl, rfl⟩
  · cases hl : s.allocator.allocations.lookup addr with
    | none =>
      rw [deallocate_of_lookup_none hnull hl] at h
      cases h
    | some layout =>
      rw [deallocate_of_lookup hnull hl] at h
      cases h
      exact .inr ⟨layout, rfl, rfl⟩

/-- Erasing a key just inserted, that was not there before, gives the table back. -/
theorem erase_insert_of_not_mem {t : AList (fun _ : PAddr => Layout)} {a : PAddr} {l : Layout}
    (h : a ∉ t) : (t.insert a l).erase a = t :=
  AList.ext (by
    show List.kerase a (t.insert a l).entries = t.entries
    rw [AList.insert_entries_of_neg h]
    exact List.kerase_cons_eq (s := (⟨a, l⟩ : Sigma fun _ : PAddr => Layout)) rfl)

/-- `deallocate` undoes `allocate`. Giving back the address a successful `allocate`
returned restores the table and the heap exactly as they were before the
`allocate`, and giving it back a second time panics: a double free is caught. -/
theorem deallocate_after_allocate {length answer : UInt64} {s s' : AllocatorState} {a : PAddr}
    {slice : RawSlice} (hnew : answer ∉ s.allocator.allocations)
    (h : allocate length answer s = .ok (some (a, slice)) s') :
    deallocate a s' = .ok () s ∧
      deallocate a s =
        .error (.message "couldn't free memory that has not been previously allocated")
          ⟨⟨s.allocator.allocations.erase a⟩, s.heap⟩ := by
  rcases allocate_ok_cases h with ⟨hnull, -, hr, rfl⟩ | ⟨hr, -⟩
  · obtain ⟨rfl, -⟩ := Prod.mk.inj (Option.some.inj hr)
    refine ⟨?_, deallocate_of_lookup_none hnull (AList.lookup_eq_none.mpr hnew)⟩
    rw [deallocate_of_lookup hnull (AList.lookup_insert _), erase_insert_of_not_mem hnew,
      List.erase_cons_head]
  · cases hr

theorem deallocate_after_allocate_first_block :
    (65536 : PAddr) ∉ MultibootAllocator.new.allocations ∧
    allocate 16 65536 ⟨MultibootAllocator.new, []⟩ =
      .ok (some (65536, ⟨65536, 16⟩)) ⟨⟨(∅ : AList _).insert 65536 ⟨16⟩⟩, [(65536, ⟨16⟩)]⟩ ∧
    deallocate 65536 ⟨⟨(∅ : AList _).insert 65536 ⟨16⟩⟩, [(65536, ⟨16⟩)]⟩ =
      .ok () ⟨MultibootAllocator.new, []⟩ ∧
    deallocate 65536 ⟨MultibootAllocator.new, []⟩ =
      .error (.message "couldn't free memory that has not been previously allocated")
        ⟨⟨MultibootAllocator.new.allocations.erase 65536⟩, []⟩ := by
  refine ⟨?fresh, ?run, deallocate_after_allocate ?fresh ?run⟩
  exacts [AList.not_mem_empty _, rfl]

/-- A block the heap hands out at 4 GiB is refused and never given back: `allocate`
returns `None` and the block stays on the heap, in no table. -/
theorem allocate_leaks_block_at_4gb :
    allocate 16 4294967296 ⟨MultibootAllocator.new, []⟩ =
      .ok none ⟨MultibootAllocator.new, [(4294967296, ⟨16⟩)]⟩ :=
  rfl

/-- A request for zero bytes reaches the heap as an `alloc` of a zero-size layout,
and a block that starts just below `u32::MAX` is accepted though it runs past
4 GiB. -/
theorem allocate_zero_size_or_past_4gb :
    allocate 0 65536 ⟨MultibootAllocator.new, []⟩ =
      .ok (some (65536, ⟨65536, 0⟩)) ⟨⟨(∅ : AList _).insert 65536 ⟨0⟩⟩, [(65536, ⟨0⟩)]⟩ ∧
    allocate 16 4294967294 ⟨MultibootAllocator.new, []⟩ =
      .ok (some (4294967294, ⟨4294967294, 16⟩))
        ⟨⟨(∅ : AList _).insert 4294967294 ⟨16⟩⟩, [(4294967294, ⟨16⟩)]⟩ ∧
    2 ^ 32 < (4294967294 : UInt64).toNat + (16 : UInt64).toNat :=
  ⟨rfl, rfl, by decide⟩

end MultibootAllocator

open MultibootAllocator

/-! ## Runs -/

/-- The states a run of `allocate`, `deallocate` and `paddr_to_slice` reaches from
`MultibootAllocator::new`, beside the ghost list of the addresses handed out and
not taken back, each with the length asked for. Every `allocate` asks for at
least one byte and the heap answers it freshly. -/
inductive Reachable : AllocatorState → List (PAddr × UInt64) → Prop
  | new (heap : List (PAddr × Layout)) : Reachable ⟨MultibootAllocator.new, heap⟩ []
  | allocated {s live length answer a slice s'} : Reachable s live → 1 ≤ length.toNat →
      Fresh s.heap answer length → allocate length answer s = .ok (some (a, slice)) s' →
      Reachable s' ((a, length) :: live)
  | refused {s live length answer s'} : Reachable s live →
      allocate length answer s = .ok none s' → Reachable s' live
  | deallocated {s live addr s'} : Reachable s live → deallocate addr s = .ok () s' →
      Reachable s' (live.filter (·.1 != addr))
  | translated {s live addr length r s'} : Reachable s live →
      paddrToSlice addr length s = .ok r s' → Reachable s' live

/-- The invariant of the table: it maps exactly the live addresses, each to the
length asked for, and each live block is a block of the heap, not empty, not null
and below 4 GiB. -/
structure TableInv (s : AllocatorState) (live : List (PAddr × UInt64)) : Prop where
  table : ∀ a l, s.allocator.allocations.lookup a = some l ↔ (a, l.size) ∈ live
  nodup : (live.map Prod.fst).Nodup
  inHeap : ∀ a n, (a, n) ∈ live → (a, ⟨n⟩) ∈ s.heap
  nonempty : ∀ a n, (a, n) ∈ live → 1 ≤ n.toNat
  below4gb : ∀ a n, (a, n) ∈ live → 0 < a.toNat ∧ a.toNat < 4294967295

namespace TableInv

variable {s : AllocatorState} {live : List (PAddr × UInt64)}

theorem init (heap : List (PAddr × Layout)) : TableInv ⟨MultibootAllocator.new, heap⟩ [] where
  table a l := by simp [MultibootAllocator.new]
  nodup := List.nodup_nil
  inHeap _ _ h := absurd h (List.not_mem_nil _)
  nonempty _ _ h := absurd h (List.not_mem_nil _)
  below4gb _ _ h := absurd h (List.not_mem_nil _)

theorem lookup_of_mem (h : TableInv s live) {a n : UInt64} (hmem : (a, n) ∈ live) :
    s.allocator.allocations.lookup a = some ⟨n⟩ :=
  (h.table a ⟨n⟩).mpr hmem

theorem lookup_eq_none (h : TableInv s live) {a : UInt64} (hdead : ∀ n, (a, n) ∉ live) :
    s.allocator.allocations.lookup a = none := by
  cases hl : s.allocator.allocations.lookup a with
  | none => rfl
  | some l => exact absurd ((h.table a l).mp hl) (hdead l.size)

/-- A fresh block does not start at a live address. -/
theorem not_mem_of_fresh (h : TableInv s live) {answer length : UInt64} (hnull : answer ≠ 0)
    (hlen : 1 ≤ length.toNat) (hfresh : Fresh s.heap answer length) (n : UInt64) :
    (answer, n) ∉ live := by
  intro hmem
  rcases hfresh with hzero | hfree
  · exact hnull hzero
  · have hn := h.nonempty _ _ hmem
    rcases hfree _ (h.inHeap _ _ hmem) with hle | hle <;> simp only at hle <;> omega

/-- A step that leaves the table alone and only adds heap blocks keeps the invariant. -/
theorem of_heap_sub (h : TableInv s live) {s' : AllocatorState} (htable : s'.allocator = s.allocator)
    (hheap : ∀ b ∈ s.heap, b ∈ s'.heap) : TableInv s' live where
  table := htable ▸ h.table
  nodup := h.nodup
  inHeap a n hmem := hheap _ (h.inHeap a n hmem)
  nonempty := h.nonempty
  below4gb := h.below4gb

theorem allocated (h : TableInv s live) {length answer a : UInt64} {slice : RawSlice}
    {s' : AllocatorState} (hlen : 1 ≤ length.toNat) (hfresh : Fresh s.heap answer length)
    (hstep : allocate length answer s = .ok (some (a, slice)) s') :
    TableInv s' ((a, length) :: live) := by
  rcases allocate_ok_cases hstep with ⟨hnull, h4gb, hr, rfl⟩ | ⟨hr, -⟩
  · obtain ⟨rfl, -⟩ := Prod.mk.inj (Option.some.inj hr)
    have hfree := h.not_mem_of_fresh hnull hlen hfresh
    refine ⟨fun b l => ?_, ?_, ?_, ?_, ?_⟩
    · by_cases hb : b = a
      · subst hb
        simp only [AList.lookup_insert, Option.some.injEq, List.mem_cons, Prod.mk.injEq,
          true_and, hfree, or_false]
        exact ⟨fun h => h ▸ rfl, fun h => by rw [← h]⟩
      · simp [AList.lookup_insert_ne hb, hb, h.table]
    · simp only [List.map_cons, List.nodup_cons, List.mem_map, not_exists, not_and]
      exact ⟨fun ⟨b, n⟩ hmem hb => hfree n (hb ▸ hmem), h.nodup⟩
    · rintro b n (⟨⟩ | ⟨_, hmem⟩)
      · exact .head _
      · exact .tail _ (h.inHeap _ _ hmem)
    · rintro b n (⟨⟩ | ⟨_, hmem⟩)
      · exact hlen
      · exact h.nonempty _ _ hmem
    · rintro b n (⟨⟩ | ⟨_, hmem⟩)
      · exact ⟨UInt64.toNat_pos_iff.mpr hnull, h4gb⟩
      · exact h.below4gb _ _ hmem
  · cases hr

theorem refused (h : TableInv s live) {length answer : UInt64} {s' : AllocatorState}
    (hstep : allocate length answer s = .ok none s') : TableInv s' live := by
  rcases allocate_ok_cases hstep with ⟨-, -, hr, -⟩ | ⟨-, htable, hheap⟩
  · cases hr
  · exact h.of_heap_sub htable hheap

theorem deallocated (h : TableInv s live) {addr : PAddr} {s' : AllocatorState}
    (hstep : deallocate addr s = .ok () s') : TableInv s' (live.filter (·.1 != addr)) := by
  rcases deallocate_ok_cases hstep with ⟨rfl, rfl⟩ | ⟨layout, -, rfl⟩
  · have hkeep : live.filter (·.1 != 0) = live :=
      List.filter_eq_self.mpr fun ⟨a, n⟩ hmem => by
        simpa using UInt64.toNat_pos_iff.mp (h.below4gb a n hmem).1
    rwa [hkeep]
  · refine ⟨fun b l => ?_, (List.filter_sublist live).map Prod.fst |>.nodup h.nodup,
      fun b n hmem => ?_, fun b n hmem => h.nonempty _ _ (List.mem_filter.mp hmem).1,
      fun b n hmem => h.below4gb _ _ (List.mem_filter.mp hmem).1⟩
    · by_cases hb : b = addr
      · subst hb
        simp [AList.lookup_erase]
      · simp [AList.lookup_erase_ne hb, hb, h.table]
    · simp only [List.mem_filter, bne_iff_ne, ne_eq] at hmem
      exact (List.mem_erase_of_ne fun heq => hmem.2 (Prod.mk.inj heq).1).mpr
        (h.inHeap _ _ hmem.1)

theorem translated (h : TableInv s live) {addr length : UInt64} {r : Option RawSlice}
    {s' : AllocatorState} (hstep : paddrToSlice addr length s = .ok r s') : TableInv s' live := by
  cases hstep
  exact h

end TableInv

/-- The run lemma: every reachable state tracks its ghost list. -/
theorem Reachable.tableInv {s : AllocatorState} {live : List (PAddr × UInt64)}
    (h : Reachable s live) : TableInv s live := by
  induction h with
  | new heap => exact TableInv.init heap
  | allocated _ hlen hfresh hstep ih => exact ih.allocated hlen hfresh hstep
  | refused _ hstep ih => exact ih.refused hstep
  | deallocated _ hstep ih => exact ih.deallocated hstep
  | translated _ hstep ih => exact ih.translated hstep

/-- What the allocator promises the multiboot crate in a state, for the ghost
list of the addresses handed out and not taken back. -/
structure Contract (s : AllocatorState) (live : List (PAddr × UInt64)) : Prop where
  /-- The table maps exactly the live addresses, each to the length asked for. -/
  table : ∀ a l, s.allocator.allocations.lookup a = some l ↔ (a, l.size) ∈ live
  /-- A live address is live with one length. -/
  unique : ∀ a n m, (a, n) ∈ live → (a, m) ∈ live → n = m
  /-- `paddr_to_slice` of a live address is its block, whatever length is asked for. -/
  translateLive : ∀ a n k, (a, n) ∈ live → paddrToSlice a k s = .ok (some ⟨a, n⟩) s
  /-- `paddr_to_slice` of any other address is `None`. -/
  translateDead : ∀ a k, (∀ n, (a, n) ∉ live) → paddrToSlice a k s = .ok none s
  /-- `deallocate(0)` changes nothing. -/
  deallocateNull : deallocate 0 s = .ok () s
  /-- `deallocate` of a live address gives its block back to the heap with the
  layout it was allocated with and forgets it. -/
  deallocateLive : ∀ a n, (a, n) ∈ live → (a, ⟨n⟩) ∈ s.heap ∧
    deallocate a s = .ok () ⟨⟨s.allocator.allocations.erase a⟩, s.heap.erase (a, ⟨n⟩)⟩
  /-- `deallocate` of any other non-null address panics. -/
  deallocateDead : ∀ a, a ≠ 0 → (∀ n, (a, n) ∉ live) → ∃ s',
    deallocate a s =
      .error (.message "couldn't free memory that has not been previously allocated") s'

theorem TableInv.toContract {s : AllocatorState} {live : List (PAddr × UInt64)}
    (h : TableInv s live) : Contract s live where
  table := h.table
  unique a n m hn hm := by
    have := (h.lookup_of_mem hn).symm.trans (h.lookup_of_mem hm)
    simpa using this
  translateLive a n k hmem := by simp [paddrToSlice, h.lookup_of_mem hmem]
  translateDead a k hdead := by simp [paddrToSlice, h.lookup_eq_none hdead]
  deallocateNull := deallocate_null s
  deallocateLive a n hmem := by
    have hnull : a ≠ 0 := fun h0 => by simpa [h0] using (h.below4gb a n hmem).1
    exact ⟨h.inHeap a n hmem, deallocate_of_lookup hnull (h.lookup_of_mem hmem)⟩
  deallocateDead a hnull hdead := ⟨_, deallocate_of_lookup_none hnull (h.lookup_eq_none hdead)⟩

/-- The allocator keeps its contract in every state a run reaches. -/
theorem Reachable.keeps_contract {s : AllocatorState} {live : List (PAddr × UInt64)}
    (h : Reachable s live) : Contract s live :=
  h.tableInv.toContract

theorem Reachable.keeps_contract_after_allocate :
    Reachable ⟨⟨(∅ : AList _).insert 65536 ⟨16⟩⟩, [(65536, ⟨16⟩)]⟩ [(65536, 16)] ∧
      Contract ⟨⟨(∅ : AList _).insert 65536 ⟨16⟩⟩, [(65536, ⟨16⟩)]⟩ [(65536, 16)] :=
  have h : Reachable ⟨⟨(∅ : AList _).insert 65536 ⟨16⟩⟩, [(65536, ⟨16⟩)]⟩ [(65536, 16)] :=
    .allocated (.new []) (by decide) (.inr fun _ hb => absurd hb (List.not_mem_nil _))
      (allocate_of_accepted (by decide) (by decide) (by decide))
  ⟨h, Reachable.keeps_contract h⟩

/-- What the multiboot crate's table holds in every state a run reaches: each
address is non-null and below `u32::MAX`, so a 32-bit kernel can reach it, each
layout is nonempty, and each block is one the global heap handed out and has not
taken back. -/
theorem Reachable.table_below_4gb {s : AllocatorState} {live : List (PAddr × UInt64)}
    (h : Reachable s live) :
    ∀ a l, s.allocator.allocations.lookup a = some l →
      0 < a.toNat ∧ a.toNat < 4294967295 ∧ 1 ≤ l.size.toNat ∧ (a, l) ∈ s.heap := by
  intro a l hl
  have hinv := h.tableInv
  have hlive : (a, l.size) ∈ live := (hinv.table a l).mp hl
  exact ⟨(hinv.below4gb _ _ hlive).1, (hinv.below4gb _ _ hlive).2, hinv.nonempty _ _ hlive,
    hinv.inHeap _ _ hlive⟩

theorem Reachable.table_below_4gb_after_allocate :
    Reachable ⟨⟨(∅ : AList _).insert 65536 ⟨16⟩⟩, [(65536, ⟨16⟩)]⟩ [(65536, 16)] ∧
    ∀ (a : PAddr) (l : Layout),
      ((∅ : AList fun _ : PAddr => Layout).insert 65536 ⟨16⟩).lookup a = some l →
      0 < a.toNat ∧ a.toNat < 4294967295 ∧ 1 ≤ l.size.toNat ∧
        (a, l) ∈ [((65536 : PAddr), (⟨16⟩ : Layout))] := by
  refine ⟨?run, Reachable.table_below_4gb ?run⟩
  exact .allocated (.new []) (by decide) (.inr fun _ hb => absurd hb (List.not_mem_nil _))
    (allocate_of_accepted (by decide) (by decide) (by decide))

end Towboot
