import Towboot.Relocation

/-!
# The life of an allocation

An `Allocation` is created by `new_at` or `new_under_4gb`, used through
`as_mut_slice`, `contains` and `move_to_where_it_should_be`, and dropped. No
operation allocates or frees pages, and only a relocation changes where the
allocation points: it moves `ptr` to `should_be_at` and keeps `pages`. So `drop`
frees exactly the range the constructor obtained unless a relocation happened,
and then it frees the pages at the wanted address, which the constructor did not
allocate.
-/

namespace Towboot

open Multiboot PanicM BootM

/-- What a caller does with an allocation between creating and dropping it. -/
inductive AllocationOp where
  | asMutSlice
  | contains (begin length : UInt64)
  | moveToWhereItShouldBe (memoryMap : List MemoryEntry)

namespace Allocation

/-- One operation; the slice and the answer of `contains` go to the caller. -/
def apply (self : Allocation) : AllocationOp → BootM Allocation
  | .asMutSlice => do
    let _ ← MonadExcept.ofExcept self.asMutSlice
    pure self
  | .contains begin length => do
    let _ ← MonadExcept.ofExcept (self.contains begin length)
    pure self
  | .moveToWhereItShouldBe memoryMap => self.moveToWhereItShouldBe memoryMap

/-- A sequence of operations. -/
def run (self : Allocation) : List AllocationOp → BootM Allocation
  | [] => pure self
  | op :: ops => self.apply op >>= (·.run ops)

/-- `a` is `a0` or `a0` relocated: the same length and pages, and either the same
pointer and pending move, or the pointer at `a0`'s wanted address with nothing
pending. -/
def Keeps (a0 a : Allocation) : Prop :=
  a.pages = a0.pages ∧ a.len = a0.len ∧
    ((a.ptr = a0.ptr ∧ a.shouldBeAt = a0.shouldBeAt) ∨
      (a0.shouldBeAt = some a.ptr ∧ a.shouldBeAt = none))

theorem Keeps.refl (a : Allocation) : Keeps a a := ⟨rfl, rfl, .inl ⟨rfl, rfl⟩⟩

/-- Relocating twice is relocating once: a relocated allocation has nothing pending. -/
theorem Keeps.trans {a0 a a' : Allocation} (h : Keeps a0 a) (h' : Keeps a a') : Keeps a0 a' := by
  obtain ⟨hp, hl, hs⟩ := h
  obtain ⟨hp', hl', hs'⟩ := h'
  refine ⟨hp'.trans hp, hl'.trans hl, ?_⟩
  rcases hs with ⟨hptr, hsba⟩ | ⟨hsba0, hsba⟩ <;> rcases hs' with ⟨hptr', hsba'⟩ | ⟨hsba', hnone⟩
  · exact .inl ⟨hptr'.trans hptr, hsba'.trans hsba⟩
  · exact .inr ⟨hsba ▸ hsba', hnone⟩
  · exact .inr ⟨hptr' ▸ hsba0, hsba'.trans hsba⟩
  · simp [hsba] at hsba'

/-- `as_mut_slice` and `contains` hand the allocation back as it was and change
nothing, or panic. -/
theorem query_keeps {β : Type} {self a : Allocation} {x : Except Panic β} {fw fw' : Firmware}
    (h : (MonadExcept.ofExcept x >>= fun _ => pure self : BootM Allocation) fw = .ok a fw') :
    fw'.allocated = fw.allocated ∧ Keeps self a := by
  cases x <;> simp only [bind_apply, ofExcept_error, ofExcept_ok, pure_apply,
    EStateM.Result.ok.injEq, reduceCtorEq] at h
  obtain ⟨rfl, rfl⟩ := h
  exact ⟨rfl, Keeps.refl _⟩

/-- One operation allocates and frees nothing, and at most relocates. -/
theorem apply_keeps {self a : Allocation} {op : AllocationOp} {fw fw' : Firmware}
    (h : self.apply op fw = .ok a fw') : fw'.allocated = fw.allocated ∧ Keeps self a := by
  cases op with
  | asMutSlice => exact query_keeps h
  | contains begin length => exact query_keeps h
  | moveToWhereItShouldBe memoryMap =>
    cases hsba : self.shouldBeAt with
    | none =>
      simp only [apply, moveToWhereItShouldBe, hsba, pure_apply, EStateM.Result.ok.injEq] at h
      obtain ⟨rfl, rfl⟩ := h
      exact ⟨rfl, Keeps.refl _⟩
    | some target =>
      obtain ⟨-, -, hptr, hnone, hlen, hpages, halloc, -⟩ := moveToWhereItShouldBe_of_ok hsba h
      exact ⟨halloc, hpages, hlen, .inr ⟨hptr ▸ hsba, hnone⟩⟩

/-- The run lemma: operations allocate and free nothing, and at most relocate. -/
theorem run_keeps {ops : List AllocationOp} :
    ∀ {self a : Allocation} {fw fw' : Firmware}, self.run ops fw = .ok a fw' →
      fw'.allocated = fw.allocated ∧ Keeps self a := by
  induction ops with
  | nil =>
    intro self a fw fw' h
    simp only [run, pure_apply, EStateM.Result.ok.injEq] at h
    obtain ⟨rfl, rfl⟩ := h
    exact ⟨rfl, Keeps.refl _⟩
  | cons op ops ih =>
    intro self a fw fw' h
    simp only [run, bind_apply] at h
    rcases hop : self.apply op fw with ⟨b, fw1⟩ | ⟨p, fw1⟩ <;> rw [hop] at h
    · obtain ⟨halloc, hkeeps⟩ := apply_keeps hop
      obtain ⟨halloc', hkeeps'⟩ := ih h
      exact ⟨halloc'.trans halloc, hkeeps.trans hkeeps'⟩
    · cases h

/-- `new_under_4gb` that succeeds has allocated exactly the allocation's pages,
`calculate_page_count` of the length. -/
theorem newUnder4gb_ok {size : UInt64} {quirks : List Quirk} {answers : AllocationAnswers}
    {fw fw' : Firmware} {a : Allocation}
    (h : newUnder4gb size quirks answers fw = .ok (.ok a) fw') :
    fw'.allocated = ⟨a.ptr, a.pages⟩ :: fw.allocated ∧ a.shouldBeAt = none ∧
      a.len = size ∧ a.pages = calculatePageCount size := by
  unfold newUnder4gb allocatePages dumpMemoryMap at h
  rcases hb : answers.belowCeiling with e | ptr
  · rcases hm : answers.belowCeilingMap with e' | _ <;> simp [hb, hm, expect] at h
  · simp only [hb, bind_apply, pure_apply, EStateM.Result.ok.injEq, Except.ok.injEq] at h
    obtain ⟨rfl, rfl⟩ := h
    exact ⟨rfl, rfl, rfl, rfl⟩

/-- `new_at` that succeeds has allocated exactly the allocation's pages,
`calculate_page_count` of the length, which should be at `address` when they are
elsewhere. -/
theorem newAt_ok {address size : UInt64} {answers : AllocationAnswers} {fw fw' : Firmware}
    {a : Allocation} (h : newAt address size answers fw = .ok (.ok a) fw') :
    fw'.allocated = ⟨a.ptr, a.pages⟩ :: fw.allocated ∧
      (a.shouldBeAt = none ∨ a.shouldBeAt = some address) ∧
      a.len = size ∧ a.pages = calculatePageCount size := by
  unfold newAt at h
  rcases ha : answers.atAddress with e | ptr
  · rcases hm : answers.atAddressMap with e' | _ <;>
      simp only [ha, hm, allocatePages, dumpMemoryMap, expect, bind_apply, pure_apply,
        throw_apply] at h
    · cases h
    · rcases hu : newUnder4gb size [] answers fw with ⟨r, fw1⟩ | ⟨p, fw1⟩ <;> rw [hu] at h
      · rcases r with e | b <;> simp only [pure_apply, EStateM.Result.ok.injEq,
          Except.ok.injEq, reduceCtorEq, false_and] at h
        obtain ⟨rfl, rfl⟩ := h
        obtain ⟨halloc, -, hlen, hpages⟩ := newUnder4gb_ok hu
        exact ⟨halloc, .inr rfl, hlen, hpages⟩
      · cases h
  · simp only [ha, allocatePages, bind_apply, pure_apply, EStateM.Result.ok.injEq,
      Except.ok.injEq] at h
    obtain ⟨rfl, rfl⟩ := h
    exact ⟨rfl, .inl rfl, rfl, rfl⟩

/-- `drop` frees the allocation's run of pages when the firmware holds it. -/
theorem drop_of_subperm {a : Allocation} {fw : Firmware}
    (h : (pagesFrom a.ptr a.pages.toNat).Subperm (pagesHeld fw.allocated)) :
    ∃ allocated, a.drop fw = .ok () { fw with allocated := allocated } ∧
      pagesHeld allocated = (pagesHeld fw.allocated).diff (pagesFrom a.ptr a.pages.toNat) := by
  obtain ⟨allocated, hfree, hheld⟩ := freePages_of_subperm h
  exact ⟨allocated, by simp only [drop, bind_apply, hfree, expect_ok], hheld⟩

/-- `drop` of a run the firmware does not hold panics and changes nothing. -/
theorem drop_of_not_subperm {a : Allocation} {fw : Firmware}
    (h : ¬(pagesFrom a.ptr a.pages.toNat).Subperm (pagesHeld fw.allocated)) :
    a.drop fw = .error (.expect "failed to free the allocated memory") fw := by
  simp only [drop, bind_apply, freePages_of_not_subperm h, expect_error]

/-- Drop after creation and any run of operations. `new_at` or `new_under_4gb`
has allocated `(ptr, pages)`, and the operations allocate and free nothing. The
allocation keeps `pages`, and its pointer stays the constructor's or, only when a
move was pending, becomes the wanted address. With the pointer unchanged, `drop`
frees the constructor's pages, and the firmware holds again the pages it held
before. After a relocation `drop` frees the run of `pages` pages at the wanted
address: when the firmware holds those pages, among the constructor's and those
allocated before it, it frees exactly them; otherwise it refuses and `drop`
panics. -/
theorem drop_frees_created_range {address size : UInt64} {quirks : List Quirk}
    {answers : AllocationAnswers} {fw fw1 fw2 : Firmware} {a0 a : Allocation}
    {ops : List AllocationOp}
    (hcreate : newAt address size answers fw = .ok (.ok a0) fw1 ∨
      newUnder4gb size quirks answers fw = .ok (.ok a0) fw1)
    (hrun : a0.run ops fw1 = .ok a fw2) :
    fw1.allocated = ⟨a0.ptr, a0.pages⟩ :: fw.allocated ∧ fw2.allocated = fw1.allocated ∧
      a.pages = a0.pages ∧ (a.ptr = a0.ptr ∨ a0.shouldBeAt = some a.ptr) ∧
      (a0.shouldBeAt = none → a.ptr = a0.ptr) ∧
      (a.ptr = a0.ptr → ∃ allocated, a.drop fw2 = .ok () { fw2 with allocated := allocated } ∧
        pagesHeld allocated = pagesHeld fw.allocated) ∧
      (a.ptr ≠ a0.ptr →
        ((pagesFrom a.ptr a0.pages.toNat).Subperm
            (pagesFrom a0.ptr a0.pages.toNat ++ pagesHeld fw.allocated) →
          ∃ allocated, a.drop fw2 = .ok () { fw2 with allocated := allocated } ∧
            pagesHeld allocated = (pagesFrom a0.ptr a0.pages.toNat ++ pagesHeld fw.allocated).diff
              (pagesFrom a.ptr a0.pages.toNat)) ∧
        (¬(pagesFrom a.ptr a0.pages.toNat).Subperm
            (pagesFrom a0.ptr a0.pages.toNat ++ pagesHeld fw.allocated) →
          a.drop fw2 = .error (.expect "failed to free the allocated memory") fw2)) := by
  have hcreated : fw1.allocated = ⟨a0.ptr, a0.pages⟩ :: fw.allocated :=
    hcreate.elim (fun h => (newAt_ok h).1) (fun h => (newUnder4gb_ok h).1)
  obtain ⟨halloc, hpages, -, hptr⟩ := run_keeps hrun
  have hheld : pagesHeld fw2.allocated = pagesFrom a0.ptr a0.pages.toNat ++ pagesHeld fw.allocated := by
    rw [halloc, hcreated, pagesHeld_cons]
    rfl
  refine ⟨hcreated, halloc, hpages, hptr.imp And.left And.left,
    fun hnone => (hptr.resolve_right fun h => by simp [hnone] at h).1, fun hsame => ?_,
    fun _ => ⟨fun h => ?_, fun h => ?_⟩⟩
  · obtain ⟨allocated, hdrop, hfreed⟩ := @drop_of_subperm a fw2
      (by rw [hheld, hsame, hpages]; exact (List.sublist_append_left _ _).subperm)
    exact ⟨allocated, hdrop, by rw [hfreed, hheld, hsame, hpages, append_diff_cancel_left]⟩
  · obtain ⟨allocated, hdrop, hfreed⟩ := @drop_of_subperm a fw2
      (by rwa [hheld, hpages])
    exact ⟨allocated, hdrop, by rw [hfreed, hheld, hpages]⟩
  · exact drop_of_not_subperm (by rwa [hheld, hpages])

theorem drop_frees_created_range_below_4gb :
    (newAt 0 4096 ⟨.error .notFound, .ok (), .ok 2097152, .ok ()⟩ ⟨[], fun _ => 0⟩ =
        .ok (.ok ⟨2097152, 4096, 1, none⟩) ⟨[⟨2097152, 1⟩], fun _ => 0⟩ ∨
      newUnder4gb 4096 [] ⟨.error .notFound, .ok (), .ok 2097152, .ok ()⟩ ⟨[], fun _ => 0⟩ =
        .ok (.ok ⟨2097152, 4096, 1, none⟩) ⟨[⟨2097152, 1⟩], fun _ => 0⟩) ∧
    (⟨2097152, 4096, 1, none⟩ : Allocation).run [.asMutSlice, .contains 2097152 4096]
        ⟨[⟨2097152, 1⟩], fun _ => 0⟩ =
      .ok ⟨2097152, 4096, 1, none⟩ ⟨[⟨2097152, 1⟩], fun _ => 0⟩ ∧
    [(⟨2097152, 1⟩ : PageRange)] = [⟨2097152, 1⟩] ∧
      [(⟨2097152, 1⟩ : PageRange)] = [⟨2097152, 1⟩] ∧ (1 : UInt64) = 1 ∧
      ((2097152 : UInt64) = 2097152 ∨ (none : Option UInt64) = some 2097152) ∧
      ((none : Option UInt64) = none → (2097152 : UInt64) = 2097152) ∧
      ((2097152 : UInt64) = 2097152 → ∃ allocated,
        (⟨2097152, 4096, 1, none⟩ : Allocation).drop ⟨[⟨2097152, 1⟩], fun _ => 0⟩ =
          .ok () ⟨allocated, fun _ => 0⟩ ∧ pagesHeld allocated = pagesHeld []) ∧
      ((2097152 : UInt64) ≠ 2097152 →
        ((pagesFrom 2097152 (1 : UInt64).toNat).Subperm
            (pagesFrom 2097152 (1 : UInt64).toNat ++ pagesHeld []) →
          ∃ allocated, (⟨2097152, 4096, 1, none⟩ : Allocation).drop ⟨[⟨2097152, 1⟩], fun _ => 0⟩ =
              .ok () ⟨allocated, fun _ => 0⟩ ∧
            pagesHeld allocated = (pagesFrom 2097152 (1 : UInt64).toNat ++ pagesHeld []).diff
              (pagesFrom 2097152 (1 : UInt64).toNat)) ∧
        (¬(pagesFrom 2097152 (1 : UInt64).toNat).Subperm
            (pagesFrom 2097152 (1 : UInt64).toNat ++ pagesHeld []) →
          (⟨2097152, 4096, 1, none⟩ : Allocation).drop ⟨[⟨2097152, 1⟩], fun _ => 0⟩ =
            .error (.expect "failed to free the allocated memory") ⟨[⟨2097152, 1⟩], fun _ => 0⟩)) :=
  ⟨.inr rfl, rfl, @drop_frees_created_range 0 4096 [] ⟨.error .notFound, .ok (), .ok 2097152, .ok ()⟩
    ⟨[], fun _ => 0⟩ ⟨[⟨2097152, 1⟩], fun _ => 0⟩ ⟨[⟨2097152, 1⟩], fun _ => 0⟩
    ⟨2097152, 4096, 1, none⟩ ⟨2097152, 4096, 1, none⟩ [.asMutSlice, .contains 2097152 4096]
    (.inr rfl) rfl⟩

/-- `new_at` falls back below 4 GiB and a relocation moves the allocation to the
wanted address 1 MiB, so `drop` frees the page at 1 MiB, not the fallback page.
When nothing held that page before, the firmware refuses and `drop` panics; when
another owner's page was there, `drop` frees it. Either way the fallback page
stays allocated. -/
theorem drop_after_relocation :
    (newAt 1048576 4096 ⟨.error .notFound, .ok (), .ok 2097152, .ok ()⟩ ⟨[], fun _ => 0⟩ =
        .ok (.ok ⟨2097152, 4096, 1, some 1048576⟩) ⟨[⟨2097152, 1⟩], fun _ => 0⟩ ∧
      ∃ fw2, (⟨2097152, 4096, 1, some 1048576⟩ : Allocation).run
          [.moveToWhereItShouldBe [⟨0, 16777216, .available⟩]] ⟨[⟨2097152, 1⟩], fun _ => 0⟩ =
          .ok ⟨1048576, 4096, 1, none⟩ fw2 ∧ fw2.allocated = [⟨2097152, 1⟩] ∧
        (⟨1048576, 4096, 1, none⟩ : Allocation).drop fw2 =
          .error (.expect "failed to free the allocated memory") fw2) ∧
    (newAt 1048576 4096 ⟨.error .notFound, .ok (), .ok 2097152, .ok ()⟩
        ⟨[⟨1048576, 1⟩], fun _ => 0⟩ =
        .ok (.ok ⟨2097152, 4096, 1, some 1048576⟩) ⟨[⟨2097152, 1⟩, ⟨1048576, 1⟩], fun _ => 0⟩ ∧
      ∃ fw2, (⟨2097152, 4096, 1, some 1048576⟩ : Allocation).run
          [.moveToWhereItShouldBe [⟨0, 16777216, .available⟩]]
          ⟨[⟨2097152, 1⟩, ⟨1048576, 1⟩], fun _ => 0⟩ =
          .ok ⟨1048576, 4096, 1, none⟩ fw2 ∧
        (⟨1048576, 4096, 1, none⟩ : Allocation).drop fw2 =
          .ok () { fw2 with allocated := [⟨2097152, 1⟩] }) :=
  ⟨⟨rfl, _, rfl, rfl, rfl⟩, ⟨rfl, _, rfl, rfl⟩⟩

end Allocation

end Towboot
