import Towboot.Machine
import Mathlib.Data.List.Perm.Subperm

/-!
# Boot services

The part of the UEFI boot services the loader calls: allocating pages at an
address or below a ceiling, freeing them, reading the memory map, and physical
memory itself. Whether an allocation succeeds, and where it lands, is the
firmware's choice: every call takes the firmware's answer as an argument, so a
theorem about the loader holds whatever the firmware answers. A computation of
the loader runs in `BootM`, where a panic keeps the machine state of the moment
it happened.
-/

namespace Towboot

/-- A UEFI status code. -/
structure Status where
  /-- The code as the firmware returns it. -/
  code : UInt64
  deriving DecidableEq, Repr

namespace Status

def loadError : Status := ⟨0x8000000000000001⟩
def invalidParameter : Status := ⟨0x8000000000000002⟩
def notFound : Status := ⟨0x800000000000000E⟩

end Status

/-- Pages as `allocate_pages` hands them out: the first address and the count. -/
structure PageRange where
  /-- The first address. -/
  base : UInt64
  /-- The number of 4096-byte pages. -/
  pages : UInt64
  deriving DecidableEq, Repr

/-- The machine as the loader sees it before boot services are exited. -/
structure Firmware where
  /-- The page ranges the firmware has allocated, the most recent first. -/
  allocated : List PageRange
  /-- Physical memory. -/
  memory : Memory

/-- The loader's computations before boot services are exited. -/
abbrev BootM := PanicM Firmware

/-- `AllocateType`. -/
inductive AllocateType where
  /-- `AllocateType::Address`: exactly at this address. -/
  | address (addr : UInt64)
  /-- `AllocateType::MaxAddress`: anywhere below this address. -/
  | maxAddress (addr : UInt64)
  deriving DecidableEq, Repr

namespace BootM

variable {α : Type}

/-- `expect` on a firmware result: the value, or a panic with the message. -/
def expect (message : String) (r : Except Status α) : BootM α :=
  match r with
  | .ok a => pure a
  | .error _ => throw (.expect message)

@[simp] theorem expect_ok (message : String) (a : α) (fw : Firmware) :
    expect message (.ok a : Except Status α) fw = .ok a fw := rfl

@[simp] theorem expect_error (message : String) (s : Status) (fw : Firmware) :
    expect message (.error s : Except Status α) fw = .error (.expect message) fw := rfl

end BootM

open PanicM BootM

/-- `allocate_pages(ty, LOADER_DATA, count)` when the firmware answers `answer`.
A granted `AllocateType::Address` allocation starts at the requested address. -/
def allocatePages (ty : AllocateType) (count : UInt64) (answer : Except Status UInt64) :
    BootM (Except Status UInt64) := fun fw =>
  match answer with
  | .error e => .ok (.error e) fw
  | .ok granted =>
    let base := match ty with
      | .address a => a
      | .maxAddress _ => granted
    .ok (.ok base) { fw with allocated := ⟨base, count⟩ :: fw.allocated }

/-! ## Pages held and freed -/

/-- The run of `n` pages from `base`, by address. -/
def pagesFrom (base : UInt64) : ℕ → List UInt64
  | 0 => []
  | n + 1 => base :: pagesFrom (base + 4096) n

/-- The pages of a range, by address. -/
def PageRange.pageList (r : PageRange) : List UInt64 := pagesFrom r.base r.pages.toNat

/-- The pages the firmware holds, range by range, the most recent first: a page
granted twice is there twice. -/
def pagesHeld (allocated : List PageRange) : List UInt64 := allocated.flatMap PageRange.pageList

/-- The ranges after the firmware frees the page at `p`: it comes out of the most
recent range that holds it, whose other pages stay held as ranges of one page;
`none` when no range holds it. -/
def takePage (p : UInt64) : List PageRange → Option (List PageRange)
  | [] => none
  | r :: rs =>
    if p ∈ r.pageList then some ((r.pageList.erase p).map (fun q => ⟨q, 1⟩) ++ rs)
    else (takePage p rs).map (r :: ·)

/-- The ranges after the firmware frees the `n` pages from `base`, page after
page; `none` when one of them is not held. -/
def freeRun (base : UInt64) : ℕ → List PageRange → Option (List PageRange)
  | 0, allocated => some allocated
  | n + 1, allocated => (takePage base allocated).bind (freeRun (base + 4096) n)

/-- `free_pages(base, count)`: the firmware frees the `count` pages from `base`
when it holds every one of them, so a run may span several allocations or part
of one, and otherwise reports `NOT_FOUND` and frees nothing. The alignment check
is left out, as in `allocatePages`, whose answer is the firmware's choice. -/
def freePages (base count : UInt64) : BootM (Except Status Unit) := fun fw =>
  match freeRun base count.toNat fw.allocated with
  | some allocated => .ok (.ok ()) { fw with allocated := allocated }
  | none => .ok (.error .notFound) fw

/-- The machine after `core::ptr::copy(src, dest, count)`. -/
def Firmware.copy (fw : Firmware) (src dest count : UInt64) : Firmware :=
  { fw with memory := fw.memory.copy src.toNat dest.toNat count.toNat }

/-- `core::ptr::copy(src, dest, count)` on physical memory. -/
def copyMemory (src dest count : UInt64) : BootM Unit := fun fw =>
  .ok () (fw.copy src dest count)

/-- `dump_memory_map`: the map is only logged; reading it panics when the firmware
refuses with `answer`. -/
def dumpMemoryMap (answer : Except Status Unit) : BootM Unit :=
  expect "failed to get memory map" answer

theorem allocatePages_ok {ty : AllocateType} {count : UInt64} {answer : Except Status UInt64}
    {fw fw' : Firmware} {r : Except Status UInt64} (h : allocatePages ty count answer fw = .ok r fw') :
    (∀ e, r = .error e → fw' = fw) ∧
      ∀ base, r = .ok base → fw' = { fw with allocated := ⟨base, count⟩ :: fw.allocated } := by
  unfold allocatePages at h
  split at h <;> cases h <;> simp

/-! ## What `free_pages` frees -/

@[simp] theorem pagesHeld_nil : pagesHeld [] = [] := rfl

@[simp] theorem pagesHeld_cons (r : PageRange) (rs : List PageRange) :
    pagesHeld (r :: rs) = r.pageList ++ pagesHeld rs :=
  List.flatMap_cons _ _ _

@[simp] theorem pagesHeld_append (rs rs' : List PageRange) :
    pagesHeld (rs ++ rs') = pagesHeld rs ++ pagesHeld rs' :=
  List.flatMap_append _ _ _

/-- Ranges of one page hold exactly the pages they are made of. -/
@[simp] theorem pagesHeld_single_pages (ps : List UInt64) :
    pagesHeld (ps.map fun q => ⟨q, 1⟩) = ps := by
  induction ps with
  | nil => rfl
  | cons q ps ih => simp [ih, PageRange.pageList, pagesFrom]

/-- Taking a page removes its first occurrence among the pages held. -/
theorem pagesHeld_takePage {p : UInt64} :
    ∀ {allocated allocated' : List PageRange}, takePage p allocated = some allocated' →
      pagesHeld allocated' = (pagesHeld allocated).erase p
  | [], _, h => by cases h
  | r :: rs, _, h => by
    unfold takePage at h
    split_ifs at h with hp
    · cases h
      simp [List.erase_append_left _ hp]
    · obtain ⟨rs', hrs, rfl⟩ := Option.map_eq_some'.mp h
      simp [List.erase_append_right _ hp, pagesHeld_takePage hrs]

theorem takePage_eq_none_iff {p : UInt64} :
    ∀ {allocated : List PageRange}, takePage p allocated = none ↔ p ∉ pagesHeld allocated
  | [] => by simp [takePage]
  | r :: rs => by
    unfold takePage
    split_ifs with hp
    · simp [hp]
    · simp [hp, takePage_eq_none_iff]

theorem cons_subperm_iff_mem_erase {α : Type} [DecidableEq α] {a : α} {l₁ l₂ : List α} :
    (a :: l₁).Subperm l₂ ↔ a ∈ l₂ ∧ l₁.Subperm (l₂.erase a) := by
  refine ⟨fun h => ⟨h.subset (List.mem_cons_self _ _), by simpa using h.erase a⟩,
    fun ⟨ha, h⟩ => ?_⟩
  exact ((List.subperm_cons a).mpr h).trans (List.perm_cons_erase ha).symm.subperm

theorem append_diff_cancel_left {α : Type} [DecidableEq α] (l₁ l₂ : List α) :
    (l₁ ++ l₂).diff l₁ = l₂ := by
  induction l₁ with
  | nil => rfl
  | cons a l₁ ih => simpa using ih

/-- Freeing a run fails exactly when the pages held do not include the run's
pages, counted with repeats. -/
theorem freeRun_eq_none_iff {base : UInt64} {n : ℕ} {allocated : List PageRange} :
    freeRun base n allocated = none ↔ ¬(pagesFrom base n).Subperm (pagesHeld allocated) := by
  induction n generalizing base allocated with
  | zero => simp [freeRun, pagesFrom]
  | succ n ih =>
    rw [freeRun, pagesFrom, cons_subperm_iff_mem_erase]
    cases htake : takePage base allocated with
    | none => simp [takePage_eq_none_iff.mp htake]
    | some allocated' =>
      have hmem : base ∈ pagesHeld allocated :=
        Decidable.of_not_not fun h => by simp [takePage_eq_none_iff.mpr h] at htake
      simp [ih, pagesHeld_takePage htake, hmem]

/-- A run that is freed leaves the pages held without the run's pages, one
occurrence each. -/
theorem pagesHeld_freeRun {base : UInt64} {n : ℕ} {allocated allocated' : List PageRange}
    (h : freeRun base n allocated = some allocated') :
    pagesHeld allocated' = (pagesHeld allocated).diff (pagesFrom base n) := by
  induction n generalizing base allocated with
  | zero =>
    cases h
    rfl
  | succ n ih =>
    obtain ⟨allocated1, htake, hrest⟩ := Option.bind_eq_some.mp h
    rw [ih hrest, pagesHeld_takePage htake, pagesFrom, List.diff_cons]

/-- Pages held as ranges of one page, in their order, are freed as a run. -/
theorem freeRun_single_pages (base : UInt64) (n : ℕ) (rest : List PageRange) :
    freeRun base n ((pagesFrom base n).map (fun q => ⟨q, 1⟩) ++ rest) = some rest := by
  induction n generalizing base with
  | zero => rfl
  | succ n ih => simp [freeRun, pagesFrom, takePage, PageRange.pageList, ih]

/-- Freeing the most recent range exactly gives back the ranges before it. -/
theorem freeRun_cons_self {r : PageRange} (rs : List PageRange) (hr : r.pages ≠ 0) :
    freeRun r.base r.pages.toNat (r :: rs) = some rs := by
  obtain ⟨n, hn⟩ : ∃ n, r.pages.toNat = n + 1 :=
    Nat.exists_eq_succ_of_ne_zero fun h => hr (UInt64.toNat.inj h)
  have hlist : r.pageList = r.base :: pagesFrom (r.base + 4096) n := by
    rw [PageRange.pageList, hn, pagesFrom]
  rw [hn, freeRun, takePage, if_pos (by simp [hlist]), hlist, List.erase_cons_head,
    Option.some_bind, freeRun_single_pages]

/-- Freeing the most recent range exactly gives back the ranges before it. -/
theorem freePages_of_head {r : PageRange} {rs : List PageRange} {fw : Firmware}
    (h : fw.allocated = r :: rs) (hr : r.pages ≠ 0) :
    freePages r.base r.pages fw = .ok (.ok ()) { fw with allocated := rs } := by
  simp only [freePages, h, freeRun_cons_self rs hr]

/-- `free_pages` of a run the firmware holds frees it: the pages held lose the
run's pages, and memory is untouched. -/
theorem freePages_of_subperm {base count : UInt64} {fw : Firmware}
    (h : (pagesFrom base count.toNat).Subperm (pagesHeld fw.allocated)) :
    ∃ allocated, freePages base count fw = .ok (.ok ()) { fw with allocated := allocated } ∧
      pagesHeld allocated = (pagesHeld fw.allocated).diff (pagesFrom base count.toNat) := by
  cases hrun : freeRun base count.toNat fw.allocated with
  | none => exact absurd h (freeRun_eq_none_iff.mp hrun)
  | some allocated => exact ⟨allocated, by simp only [freePages, hrun], pagesHeld_freeRun hrun⟩

/-- `free_pages` of a run the firmware does not hold reports `NOT_FOUND` and
changes nothing. -/
theorem freePages_of_not_subperm {base count : UInt64} {fw : Firmware}
    (h : ¬(pagesFrom base count.toNat).Subperm (pagesHeld fw.allocated)) :
    freePages base count fw = .ok (.error .notFound) fw := by
  simp only [freePages, freeRun_eq_none_iff.mpr h]

end Towboot
