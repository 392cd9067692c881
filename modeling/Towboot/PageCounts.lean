import Towboot.AllocationLifecycle
import Towboot.Boot
import Mathlib.Order.Bounds.Defs

/-!
# Page counts

Two formulas turn a byte length into a count of 4096-byte pages. Every
`Allocation` takes its count from `calculate_page_count`, which adds a page only
for a remainder: the ceiling of the length over the page size, the least count
that covers the length. `prepare_entry` takes the kernel's count from
`kernel_length / 4096 + 1`, which adds a page always. Its comment says that this
may allocate a page too much; it does exactly when the kernel's length is a
multiple of the page size, zero included.
-/

namespace Towboot

open PanicM BootM

namespace Allocation

/-- `calculate_page_count` is the ceiling of the length over the page size. -/
theorem toNat_calculatePageCount (size : UInt64) :
    (calculatePageCount size).toNat = (size.toNat + 4095) / 4096 := by
  have hsize := size.toNat_lt
  have hrem : size % pageSize = 0 ↔ size.toNat % 4096 = 0 :=
    ⟨fun h => by simpa using congrArg UInt64.toNat h, fun h => UInt64.toNat.inj (by simpa using h)⟩
  have hone : (1 : UInt64).toNat = 1 := rfl
  unfold calculatePageCount
  split_ifs with hzero
  · have h0 := hrem.mp hzero
    simp only [UInt64.toNat_add, UInt64.toNat_div, pageSize_toNat, UInt64.toNat_zero, UInt64.size]
    omega
  · have h1 := mt hrem.mpr hzero
    simp only [UInt64.toNat_add, UInt64.toNat_div, pageSize_toNat, hone, UInt64.size]
    omega

/-- The ceiling is the least count of pages that covers the length. -/
theorem calculatePageCount_isLeast (size : UInt64) :
    IsLeast {n : ℕ | size.toNat ≤ n * 4096} (calculatePageCount size).toNat := by
  rw [toNat_calculatePageCount]
  refine ⟨show size.toNat ≤ (size.toNat + 4095) / 4096 * 4096 by omega, fun m hm => ?_⟩
  have hm : size.toNat ≤ m * 4096 := hm
  omega

/-- An allocation that `new_at` or `new_under_4gb` created keeps the length it
was asked for, and `calculate_page_count` of it as its pages, through every run
of operations. -/
theorem run_pages_of_created {address size : UInt64} {quirks : List Quirk}
    {answers : AllocationAnswers} {fw fw1 fw2 : Firmware} {a0 a : Allocation}
    {ops : List AllocationOp}
    (hcreate : newAt address size answers fw = .ok (.ok a0) fw1 ∨
      newUnder4gb size quirks answers fw = .ok (.ok a0) fw1)
    (hrun : a0.run ops fw1 = .ok a fw2) :
    a.len = size ∧ a.pages = calculatePageCount size := by
  obtain ⟨hlen0, hpages0⟩ : a0.len = size ∧ a0.pages = calculatePageCount size :=
    hcreate.elim (fun h => (newAt_ok h).2.2) (fun h => (newUnder4gb_ok h).2.2)
  obtain ⟨-, hpages, hlen, -⟩ := run_keeps hrun
  exact ⟨hlen.trans hlen0, hpages.trans hpages0⟩

/-- Every allocation that `new_at` or `new_under_4gb` created for `size` bytes
holds, through any run of operations, the ceiling of `size` over the page size
in pages, and keeps `size` as its length. -/
theorem pages_eq_ceil_of_created {address size : UInt64} {quirks : List Quirk}
    {answers : AllocationAnswers} {fw fw1 fw2 : Firmware} {a0 a : Allocation}
    {ops : List AllocationOp}
    (hcreate : newAt address size answers fw = .ok (.ok a0) fw1 ∨
      newUnder4gb size quirks answers fw = .ok (.ok a0) fw1)
    (hrun : a0.run ops fw1 = .ok a fw2) :
    a.len = size ∧ a.pages.toNat = (size.toNat + 4095) / 4096 := by
  obtain ⟨hlen, hpages⟩ := run_pages_of_created hcreate hrun
  exact ⟨hlen, by rw [hpages, toNat_calculatePageCount]⟩

theorem pages_eq_ceil_of_created_relocated :
    (newAt 1048576 4097 ⟨.error .notFound, .ok (), .ok 2097152, .ok ()⟩ ⟨[], fun _ => 0⟩ =
        .ok (.ok ⟨2097152, 4097, 2, some 1048576⟩) ⟨[⟨2097152, 2⟩], fun _ => 0⟩ ∨
      newUnder4gb 4097 [] ⟨.error .notFound, .ok (), .ok 2097152, .ok ()⟩ ⟨[], fun _ => 0⟩ =
        .ok (.ok ⟨2097152, 4097, 2, some 1048576⟩) ⟨[⟨2097152, 2⟩], fun _ => 0⟩) ∧
    (⟨2097152, 4097, 2, some 1048576⟩ : Allocation).run
        [.moveToWhereItShouldBe [⟨0, 16777216, .available⟩]] ⟨[⟨2097152, 2⟩], fun _ => 0⟩ =
      .ok ⟨1048576, 4097, 2, none⟩
        (Firmware.copy ⟨[⟨2097152, 2⟩], fun _ => 0⟩ 2097152 1048576 4097) ∧
    (⟨1048576, 4097, 2, none⟩ : Allocation).len = 4097 ∧
    (⟨1048576, 4097, 2, none⟩ : Allocation).pages.toNat = ((4097 : UInt64).toNat + 4095) / 4096 := by
  refine ⟨?create, ?run, pages_eq_ceil_of_created ?create ?run⟩
  exacts [.inl rfl, rfl]

/-- The slice `as_mut_slice` hands out for an allocation that `new_at` or
`new_under_4gb` created for `size` bytes, after any run of operations: it starts
at the allocation's pointer and covers the `size` bytes with less than a page to
spare. It panics, with an overflow, exactly when `size` is within a page of
`2 ^ 64`, where the byte count of the pages no longer fits a `usize`. -/
theorem asMutSlice_covers_created {address size : UInt64} {quirks : List Quirk}
    {answers : AllocationAnswers} {fw fw1 fw2 : Firmware} {a0 a : Allocation}
    {ops : List AllocationOp}
    (hcreate : newAt address size answers fw = .ok (.ok a0) fw1 ∨
      newUnder4gb size quirks answers fw = .ok (.ok a0) fw1)
    (hrun : a0.run ops fw1 = .ok a fw2) :
    (∀ ptr length, a.asMutSlice = .ok (ptr, length) →
      ptr = a.ptr ∧ size.toNat ≤ length.toNat ∧ length.toNat < size.toNat + 4096) ∧
    (∀ p, a.asMutSlice = .error p ↔ p = .overflow ∧ 2 ^ 64 - 4096 < size.toNat) := by
  obtain ⟨-, hpages⟩ := run_pages_of_created hcreate hrun
  have hceil : a.pages.toNat = (size.toNat + 4095) / 4096 := by
    rw [hpages, toNat_calculatePageCount]
  by_cases hfit : a.pages.toNat * pageSize.toNat < 2 ^ 64
  · obtain ⟨c, hc, hcv⟩ := mulU64_of_lt hfit
    rw [pageSize_toNat] at hcv hfit
    simp only [asMutSlice, hc, Except.ok_bind, Except.pure_eq_ok, Except.ok.injEq, Prod.mk.injEq,
      reduceCtorEq, false_iff, not_and]
    refine ⟨?_, fun _ => by omega⟩
    rintro ptr length ⟨rfl, rfl⟩
    exact ⟨rfl, by omega, by omega⟩
  · have herr := mulU64_eq_error.mpr ⟨Nat.not_lt.mp hfit, rfl⟩
    rw [pageSize_toNat] at hfit
    simp only [asMutSlice, herr, Except.error_bind, reduceCtorEq, false_implies, implies_true,
      Except.error.injEq, true_and]
    exact fun p => ⟨fun h => ⟨h.symm, by omega⟩, fun h => h.1.symm⟩

theorem asMutSlice_covers_created_one_page :
    (newAt 1048576 4096 ⟨.ok 1048576, .ok (), .ok 0, .ok ()⟩ ⟨[], fun _ => 0⟩ =
        .ok (.ok ⟨1048576, 4096, 1, none⟩) ⟨[⟨1048576, 1⟩], fun _ => 0⟩ ∨
      newUnder4gb 4096 [] ⟨.ok 1048576, .ok (), .ok 0, .ok ()⟩ ⟨[], fun _ => 0⟩ =
        .ok (.ok ⟨1048576, 4096, 1, none⟩) ⟨[⟨1048576, 1⟩], fun _ => 0⟩) ∧
    (⟨1048576, 4096, 1, none⟩ : Allocation).run [.asMutSlice] ⟨[⟨1048576, 1⟩], fun _ => 0⟩ =
      .ok ⟨1048576, 4096, 1, none⟩ ⟨[⟨1048576, 1⟩], fun _ => 0⟩ ∧
    (∀ ptr length, (⟨1048576, 4096, 1, none⟩ : Allocation).asMutSlice = .ok (ptr, length) →
      ptr = (⟨1048576, 4096, 1, none⟩ : Allocation).ptr ∧ (4096 : UInt64).toNat ≤ length.toNat ∧
        length.toNat < (4096 : UInt64).toNat + 4096) ∧
    (∀ p, (⟨1048576, 4096, 1, none⟩ : Allocation).asMutSlice = .error p ↔
      p = .overflow ∧ 2 ^ 64 - 4096 < (4096 : UInt64).toNat) := by
  refine ⟨?create, ?run, asMutSlice_covers_created ?create ?run⟩
  exacts [.inl rfl, rfl]

end Allocation

/-- `kernel_pages` of a successful `prepare_entry`: one page more than the whole
pages of the kernel's length. -/
theorem prepareEntry_ok_kernelPages {ε : Type} {entry : Entry} {volume : Volume}
    {parse : List UInt8 → Except ε Metadata} {answer : Except Status UInt64} {fw fw' : Firmware}
    {p : PreparedEntry} (h : prepareEntry entry volume parse answer fw = .ok (.ok p) fw') :
    ∃ addresses length, p.metadata.addresses = .multiboot addresses ∧
      kernelLength addresses = .ok length ∧ p.kernelPages = length.toUInt64 / 4096 + 1 := by
  rcases prepareEntry_ok_cases h with ⟨-, e, he⟩ |
    ⟨-, metadata, addresses, -, length, -, -, hmd, -, hlength, -, hr⟩
  · cases he
  · rcases hmods : readModules volume entry.modules with e | modulesVec <;>
      rw [hmods] at hr <;> cases hr
    exact ⟨addresses, length, hmd, hlength, rfl⟩

/-- `kernel_length / 4096 + 1` is the ceiling, and one page more at a multiple of
the page size. -/
theorem toNat_kernelPages_eq_ceil (length : UInt32) :
    (length.toUInt64 / 4096 + 1).toNat =
      (length.toNat + 4095) / 4096 + if length.toNat % 4096 = 0 then 1 else 0 := by
  rw [toNat_kernelPages]
  split_ifs <;> omega

/-- The two page counts of the loader side by side. The `kernel_pages` that a
successful `prepare_entry` allocates, and `PreparedEntry::drop` frees, is
`calculate_page_count` of the kernel's length when that length is not a multiple
of the page size, and one page more when it is, zero included. -/
theorem prepareEntry_kernelPages_eq_calculatePageCount {ε : Type} {entry : Entry}
    {volume : Volume} {parse : List UInt8 → Except ε Metadata} {answer : Except Status UInt64}
    {fw fw' : Firmware} {p : PreparedEntry}
    (h : prepareEntry entry volume parse answer fw = .ok (.ok p) fw') :
    ∃ addresses length, p.metadata.addresses = .multiboot addresses ∧
      kernelLength addresses = .ok length ∧
      p.kernelPages.toNat = (Allocation.calculatePageCount length.toUInt64).toNat +
        if length.toNat % 4096 = 0 then 1 else 0 := by
  obtain ⟨addresses, length, hmd, hlength, hkernel⟩ := prepareEntry_ok_kernelPages h
  refine ⟨addresses, length, hmd, hlength, ?_⟩
  rw [hkernel, toNat_kernelPages_eq_ceil, Allocation.toNat_calculatePageCount,
    UInt32.toUInt64_toNat]

theorem prepareEntry_kernelPages_eq_calculatePageCount_four_byte_kernel :
    prepareEntry ⟨"kernel", none⟩ (fun _ => .ok [1, 2, 3, 4])
        (fun _ => (.ok ⟨.multiboot ⟨1048576, 1048580, 0, 1048576, 0⟩⟩ : Except Unit Metadata))
        (.ok 1048576) ⟨[], fun _ => 0⟩ =
      .ok (.ok ⟨⟨"kernel", none⟩, 1048576, 1, ⟨.multiboot ⟨1048576, 1048580, 0, 1048576, 0⟩⟩, []⟩)
        (Firmware.write ⟨[⟨1048576, 1⟩], fun _ => 0⟩ 1048576 (segment [1, 2, 3, 4] 0 4 4)) ∧
    ∃ addresses length,
      (⟨.multiboot ⟨1048576, 1048580, 0, 1048576, 0⟩⟩ : Metadata).addresses = .multiboot addresses ∧
      kernelLength addresses = .ok length ∧
      (1 : UInt64).toNat = (Allocation.calculatePageCount length.toUInt64).toNat +
        if length.toNat % 4096 = 0 then 1 else 0 := by
  refine ⟨?prepare, prepareEntry_kernelPages_eq_calculatePageCount ?prepare⟩
  rfl

/-- A kernel of exactly one page, 4096 bytes, gets two: `calculate_page_count`
of its length is 1, and `prepare_entry` allocates and hands over `kernel_pages = 2`. -/
theorem prepareEntry_allocates_page_too_many :
    kernelLength ⟨1048576, 1052672, 0, 1048576, 0⟩ = .ok 4096 ∧
    Allocation.calculatePageCount 4096 = 1 ∧
    ∃ fw', prepareEntry ⟨"kernel", none⟩ (fun _ => .ok [1, 2, 3, 4])
        (fun _ => (.ok ⟨.multiboot ⟨1048576, 1052672, 0, 1048576, 0⟩⟩ : Except Unit Metadata))
        (.ok 1048576) ⟨[], fun _ => 0⟩ =
      .ok (.ok ⟨⟨"kernel", none⟩, 1048576, 2, ⟨.multiboot ⟨1048576, 1052672, 0, 1048576, 0⟩⟩, []⟩)
        fw' ∧
      fw'.allocated = [⟨1048576, 2⟩] :=
  ⟨rfl, rfl, _, rfl, rfl⟩

end Towboot
