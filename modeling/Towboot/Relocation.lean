import Towboot.Allocation

/-!
# Relocation safety

`move_to_where_it_should_be` copies only after it has found an entry of the
memory map containing the whole target range, in map order and in exact
arithmetic, and only when that first entry is available; otherwise it panics
with the machine untouched. Entries that merely overlap the target are never
examined, and a second containing entry is noticed only after the copy.

`Allocation::contains` and the filter ask whether one range lies inside another,
with `u64` sums on both sides. Each answers as the same test in unbounded
integers does, or panics on an overflow: no sum wraps, so no range outside is
ever reported inside. Nothing rules the overflow out beforehand, though: a range
that reaches `2 ^ 64` makes either test panic.
-/

namespace Towboot

open Multiboot PanicM BootM

/-- The entry contains all of `[a, a + len)`, in exact arithmetic. -/
def Multiboot.MemoryEntry.ContainsRange (e : MemoryEntry) (a len : UInt64) : Prop :=
  e.baseAddress.toNat ≤ a.toNat ∧ a.toNat + len.toNat ≤ e.baseAddress.toNat + e.length.toNat

instance (e : MemoryEntry) (a len : UInt64) : Decidable (e.ContainsRange a len) :=
  inferInstanceAs (Decidable (_ ∧ _))

/-! ## Range tests

`contains` and the relocation filter share one shape once their sums are
evaluated: `false` for a range that starts too low, else the comparison in exact
arithmetic, or an overflow. -/

section RangeTest

variable {low fits : Prop} [Decidable low] [Decidable fits] {want top : ℕ}

theorem rangeTest_eq_ok {b : Bool}
    (h : (if low then if fits then .ok (decide (want ≤ top)) else .error .overflow else .ok false :
      Except Panic Bool) = .ok b) : b = true ↔ low ∧ want ≤ top := by
  split_ifs at h with hlow <;> cases h <;> simp [hlow]

theorem rangeTest_eq_error_iff {p : Panic} :
    (if low then if fits then .ok (decide (want ≤ top)) else .error .overflow else .ok false :
      Except Panic Bool) = .error p ↔ p = .overflow ∧ low ∧ ¬fits := by
  split_ifs with hlow hfits
  · simp [hlow, hfits]
  · simp [hlow, hfits, eq_comm]
  · simp [hlow]

end RangeTest

/-- The relocation filter, evaluated. -/
theorem relocationFilter_eq (a len : UInt64) (e : MemoryEntry) :
    relocationFilter a len e =
      if e.baseAddress.toNat ≤ a.toNat then
        if e.baseAddress.toNat + e.length.toNat < 2 ^ 64 ∧ a.toNat + len.toNat < 2 ^ 64 then
          .ok (decide (a.toNat + len.toNat ≤ e.baseAddress.toNat + e.length.toNat))
        else .error .overflow
      else .ok false := by
  unfold relocationFilter
  by_cases hle : e.baseAddress.toNat ≤ a.toNat
  · rw [if_pos (show e.baseAddress ≤ a from hle), if_pos hle, addU64_compare]
  · rw [if_neg (show ¬e.baseAddress ≤ a from hle), if_neg hle]; rfl

/-- `contains`, evaluated: the exact test, an overflow, or `false` for a range
that starts below the allocation. -/
theorem Allocation.contains_eq (self : Allocation) (begin length : UInt64) :
    self.contains begin length =
      if self.ptr.toNat ≤ begin.toNat then
        if self.ptr.toNat + self.pages.toNat * 4096 < 2 ^ 64 ∧
            begin.toNat + length.toNat < 2 ^ 64 then
          .ok (decide (begin.toNat + length.toNat ≤ self.ptr.toNat + self.pages.toNat * 4096))
        else .error .overflow
      else .ok false := by
  unfold contains
  by_cases hle : self.ptr.toNat ≤ begin.toNat
  · rw [if_pos (show self.ptr ≤ begin from hle), if_pos hle]
    by_cases hmul : self.pages.toNat * 4096 < 2 ^ 64
    · obtain ⟨size, hsize, hsizev⟩ := mulU64_of_lt (a := self.pages) (b := pageSize) hmul
      rw [hsize, Except.ok_bind, addU64_compare, hsizev, pageSize_toNat]
    · rw [mulU64_eq_error.mpr ⟨Nat.not_lt.mp hmul, rfl⟩, Except.error_bind,
        if_neg fun h => by omega]
  · rw [if_neg (show ¬self.ptr ≤ begin from hle), if_neg hle]; rfl

/-- When the filter does not overflow, it passes exactly the entries that contain
the target. -/
theorem relocationFilter_eq_ok {a len : UInt64} {e : MemoryEntry} {b : Bool}
    (h : relocationFilter a len e = .ok b) : b = true ↔ e.ContainsRange a len := by
  rw [relocationFilter_eq] at h
  exact rangeTest_eq_ok h

/-- `filter.next()` stops at the first containing entry; those before it do not
contain the target. -/
theorem filterNext_eq_some {a len : UInt64} :
    ∀ {l : List MemoryEntry} {e : MemoryEntry} {rest : List MemoryEntry},
      filterNext a len l = .ok (some (e, rest)) →
      ∃ pre, l = pre ++ e :: rest ∧ (∀ x ∈ pre, ¬x.ContainsRange a len) ∧ e.ContainsRange a len
  | [], _, _, h => by cases h
  | x :: xs, e, rest, h => by
    obtain ⟨b, hb, h⟩ := Except.bind_eq_ok.mp h
    have hiff := relocationFilter_eq_ok hb
    cases b with
    | true =>
      simp only [if_true, Except.pure_eq_ok, Except.ok.injEq, Option.some.injEq,
        Prod.mk.injEq] at h
      obtain ⟨rfl, rfl⟩ := h
      exact ⟨[], rfl, by simp, hiff.mp rfl⟩
    | false =>
      obtain ⟨pre, rfl, hpre, he⟩ := filterNext_eq_some h
      exact ⟨x :: pre, rfl, List.forall_mem_cons.mpr
        ⟨fun hx => Bool.false_ne_true (hiff.mpr hx), hpre⟩, he⟩

/-- When `filter.next()` finds nothing, no entry contains the target. -/
theorem filterNext_eq_none {a len : UInt64} :
    ∀ {l : List MemoryEntry}, filterNext a len l = .ok none → ∀ x ∈ l, ¬x.ContainsRange a len
  | [], _ => by simp
  | x :: xs, h => by
    obtain ⟨b, hb, h⟩ := Except.bind_eq_ok.mp h
    have hiff := relocationFilter_eq_ok hb
    cases b with
    | true => cases h
    | false =>
      exact List.forall_mem_cons.mpr
        ⟨fun hx => Bool.false_ne_true (hiff.mpr hx), filterNext_eq_none h⟩

/-- The filter panics exactly when the entry starts at or below the target and
one of its two sums overflows, and then with an overflow. -/
theorem relocationFilter_eq_error_iff {a len : UInt64} {e : MemoryEntry} {p : Panic} :
    relocationFilter a len e = .error p ↔ p = .overflow ∧ e.baseAddress.toNat ≤ a.toNat ∧
      (2 ^ 64 ≤ e.baseAddress.toNat + e.length.toNat ∨ 2 ^ 64 ≤ a.toNat + len.toNat) := by
  rw [relocationFilter_eq, rangeTest_eq_error_iff, not_and_or, Nat.not_lt, Nat.not_lt]

/-- Both range tests are exact or panic. `contains(begin, length)` answers
`ptr <= begin && begin + length <= ptr + pages * 4096` in unbounded integers, and
the relocation filter answers `base <= a && a + len <= base + length`; each
panics, with an overflow, exactly when the range starts late enough to be tested
and one of its sums reaches `2 ^ 64`. -/
theorem contains_and_relocationFilter_exact (self : Allocation) (begin length : UInt64)
    (e : MemoryEntry) (a len : UInt64) :
    (∀ b, self.contains begin length = .ok b →
      (b = true ↔ self.ptr.toNat ≤ begin.toNat ∧
        begin.toNat + length.toNat ≤ self.ptr.toNat + self.pages.toNat * 4096)) ∧
    (∀ p, self.contains begin length = .error p ↔ p = .overflow ∧
      self.ptr.toNat ≤ begin.toNat ∧
      (2 ^ 64 ≤ self.ptr.toNat + self.pages.toNat * 4096 ∨
        2 ^ 64 ≤ begin.toNat + length.toNat)) ∧
    (∀ b, relocationFilter a len e = .ok b →
      (b = true ↔ e.baseAddress.toNat ≤ a.toNat ∧
        a.toNat + len.toNat ≤ e.baseAddress.toNat + e.length.toNat)) ∧
    (∀ p, relocationFilter a len e = .error p ↔ p = .overflow ∧
      e.baseAddress.toNat ≤ a.toNat ∧
      (2 ^ 64 ≤ e.baseAddress.toNat + e.length.toNat ∨ 2 ^ 64 ≤ a.toNat + len.toNat)) := by
  refine ⟨fun b h => ?_, fun p => ?_, fun b h => relocationFilter_eq_ok h,
    fun p => relocationFilter_eq_error_iff⟩
  · rw [Allocation.contains_eq] at h
    exact rangeTest_eq_ok h
  · rw [Allocation.contains_eq, rangeTest_eq_error_iff, not_and_or, Nat.not_lt, Nat.not_lt]

/-- A range that ends at `2 ^ 64` makes both tests panic instead of answering. -/
theorem contains_overflows_at_top :
    (⟨0, 0, 1, none⟩ : Allocation).contains 18446744073709551615 1 = .error .overflow ∧
    relocationFilter 18446744073709551615 1 ⟨0, 4096, .available⟩ = .error .overflow :=
  ⟨rfl, rfl⟩

/-- `filter.next()` fails only by an overflow of the filter's sums. -/
theorem filterNext_eq_error {a len : UInt64} :
    ∀ {l : List MemoryEntry} {p : Panic}, filterNext a len l = .error p → p = .overflow
  | [], _, h => by cases h
  | x :: xs, p, h => by
    unfold filterNext at h
    rcases hb : relocationFilter a len x with q | b <;> rw [hb] at h
    · exact (relocationFilter_eq_error_iff.mp hb).1.symm.trans (Except.error.inj h) |>.symm
    · cases b
      · exact filterNext_eq_error h
      · cases h

/-- The entry `filter.next()` stops at is the first containing entry of the map. -/
theorem find?_of_filterNext {a len : UInt64} {l : List MemoryEntry} {e : MemoryEntry}
    {rest : List MemoryEntry} (h : filterNext a len l = .ok (some (e, rest))) :
    l.find? (fun x => decide (x.ContainsRange a len)) = some e := by
  obtain ⟨pre, rfl, hpre, he⟩ := filterNext_eq_some h
  rw [List.find?_append, List.find?_eq_none.mpr (by simpa using hpre), List.find?_cons_of_pos _
    (by simpa using he)]
  rfl

/-- Two entries share no address: as sets, `[base, base + length)` are disjoint. -/
def Multiboot.MemoryEntry.Disjoint (e f : MemoryEntry) : Prop :=
  ∀ x : ℕ, ¬(e.baseAddress.toNat ≤ x ∧ x < e.baseAddress.toNat + e.length.toNat ∧
    f.baseAddress.toNat ≤ x ∧ x < f.baseAddress.toNat + f.length.toNat)

/-- Two entries that contain one nonempty target share its first address. -/
theorem Multiboot.MemoryEntry.ContainsRange.not_disjoint {e f : MemoryEntry} {a len : UInt64}
    (hlen : 0 < len.toNat) (he : e.ContainsRange a len) (hf : f.ContainsRange a len) :
    ¬e.Disjoint f :=
  fun h => h a.toNat ⟨he.1, by have := he.2; omega, hf.1, by have := hf.2; omega⟩

/-- In a list of pairwise related elements, at most one satisfies a predicate that
no two related elements satisfy together. -/
theorem List.countP_le_one_of_pairwise {α : Type} {R : α → α → Prop} {p : α → Bool} :
    ∀ {l : List α}, l.Pairwise R → (∀ x y, p x → p y → ¬R x y) → l.countP p ≤ 1
  | [], _, _ => by simp
  | x :: l, hl, hp => by
    rw [List.pairwise_cons] at hl
    by_cases hx : p x
    · rw [List.countP_cons_of_pos _ _ hx, List.countP_eq_zero.mpr fun y hy hpy =>
        hp x y hx hpy (hl.1 y hy)]
    · rw [List.countP_cons_of_neg _ _ hx]
      exact List.countP_le_one_of_pairwise hl.2 hp

namespace Allocation

/-- Everything `move_to_where_it_should_be` can do when a move is pending. -/
theorem moveToWhereItShouldBe_of_some {self : Allocation} {a : UInt64}
    (hsba : self.shouldBeAt = some a) (memoryMap : List MemoryEntry) (fw : Firmware) :
    self.moveToWhereItShouldBe memoryMap fw =
      match filterNext a self.len memoryMap with
      | .error p => .error p fw
      | .ok none =>
        .error (.message "no memory map entry contains the place we want to write to") fw
      | .ok (some (e, rest)) =>
        if e.memoryType = .available then
          match filterNext a self.len rest with
          | .error p => .error p (fw.copy self.ptr a self.len)
          | .ok none => .ok { self with ptr := a, shouldBeAt := none } (fw.copy self.ptr a self.len)
          | .ok (some _) => .error .assertion (fw.copy self.ptr a self.len)
        else .error (.message "would overwrite") fw := by
  unfold moveToWhereItShouldBe
  rw [hsba]
  dsimp only
  rcases filterNext a self.len memoryMap with p | _ | ⟨e, rest⟩
  · rfl
  · rfl
  · cases hty : e.memoryType with
    | available =>
      simp only [bind_apply, ofExcept_ok, hty, copyMemory, pure_apply, throw_apply, if_true]
      rcases filterNext a self.len rest with p | _ | _ <;> rfl
    | _ => simp only [bind_apply, ofExcept_ok, hty, throw_apply, reduceCtorEq, if_false]

/-- A relocation that returns found exactly one entry containing the target, the
first of them available, and copied the bytes there; nothing else changed. -/
theorem moveToWhereItShouldBe_of_ok {self self' : Allocation} {memoryMap : List MemoryEntry}
    {fw fw' : Firmware} {a : UInt64} (hsba : self.shouldBeAt = some a)
    (h : self.moveToWhereItShouldBe memoryMap fw = .ok self' fw') :
    memoryMap.countP (fun e => decide (e.ContainsRange a self.len)) = 1 ∧
      (∃ e, memoryMap.find? (fun e => decide (e.ContainsRange a self.len)) = some e ∧
        e.memoryType = .available) ∧
      self'.ptr = a ∧ self'.shouldBeAt = none ∧ self'.len = self.len ∧ self'.pages = self.pages ∧
      fw'.allocated = fw.allocated ∧
      ∀ i < self.len.toNat, fw'.memory (a.toNat + i) = fw.memory (self.ptr.toNat + i) := by
  rw [moveToWhereItShouldBe_of_some hsba] at h
  rcases hfound : filterNext a self.len memoryMap with p | _ | ⟨e, rest⟩ <;> rw [hfound] at h
  · cases h
  · cases h
  · dsimp only at h
    by_cases hav : e.memoryType = .available
    · rw [if_pos hav] at h
      rcases hrest : filterNext a self.len rest with p | _ | _ <;> rw [hrest] at h <;> cases h
      obtain ⟨pre, rfl, hpre, he⟩ := filterNext_eq_some hfound
      refine ⟨?_, ⟨e, find?_of_filterNext hfound, hav⟩, rfl, rfl, rfl, rfl, rfl,
        fun i hi => Memory.copy_apply_add hi⟩
      rw [List.countP_append, List.countP_eq_zero.mpr (by simpa using hpre), List.countP_cons,
        List.countP_eq_zero.mpr (by simpa using filterNext_eq_none hrest)]
      simp [he]
    · rw [if_neg hav] at h
      cases h

/-- The assertion after the copy fails only when a second entry contains the
target. -/
theorem moveToWhereItShouldBe_of_assertion {self : Allocation} {memoryMap : List MemoryEntry}
    {fw fw' : Firmware} {a : UInt64} (hsba : self.shouldBeAt = some a)
    (h : self.moveToWhereItShouldBe memoryMap fw = .error .assertion fw') :
    2 ≤ memoryMap.countP (fun e => decide (e.ContainsRange a self.len)) := by
  rw [moveToWhereItShouldBe_of_some hsba] at h
  rcases hfound : filterNext a self.len memoryMap with p | _ | ⟨e, rest⟩ <;> rw [hfound] at h
  · dsimp only at h
    cases h
    exact absurd (filterNext_eq_error hfound) (by decide)
  · cases h
  · dsimp only at h
    split_ifs at h
    · rcases hrest : filterNext a self.len rest with p | _ | ⟨f, rest'⟩ <;> rw [hrest] at h
      · cases h
        exact absurd (filterNext_eq_error hrest) (by decide)
      · cases h
      · obtain ⟨pre, rfl, -, he⟩ := filterNext_eq_some hfound
        obtain ⟨pre', rfl, -, hf⟩ := filterNext_eq_some hrest
        simp only [List.countP_append, List.countP_cons, he, hf, decide_True, if_true]
        omega
    · cases h

/-- On a map of pairwise disjoint entries, a nonempty target is contained in at
most one entry, so the relocation never fails its uniqueness assertion. -/
theorem moveToWhereItShouldBe_unique_of_disjoint (self : Allocation)
    (memoryMap : List MemoryEntry) (fw : Firmware) {a : UInt64}
    (hsba : self.shouldBeAt = some a) (hdisjoint : memoryMap.Pairwise MemoryEntry.Disjoint)
    (hlen : 0 < self.len.toNat) :
    memoryMap.countP (fun e => decide (e.ContainsRange a self.len)) ≤ 1 ∧
      ∀ fw', self.moveToWhereItShouldBe memoryMap fw ≠ .error .assertion fw' := by
  have hone : memoryMap.countP (fun e => decide (e.ContainsRange a self.len)) ≤ 1 :=
    List.countP_le_one_of_pairwise hdisjoint fun e f he hf =>
      MemoryEntry.ContainsRange.not_disjoint hlen (of_decide_eq_true he) (of_decide_eq_true hf)
  exact ⟨hone, fun fw' h => absurd (moveToWhereItShouldBe_of_assertion hsba h) (by omega)⟩

theorem moveToWhereItShouldBe_unique_of_disjoint_two_entries :
    (⟨65536, 4096, 1, some 4096⟩ : Allocation).shouldBeAt = some 4096 ∧
    [(⟨0, 4096, .available⟩ : MemoryEntry), ⟨4096, 4096, .available⟩].Pairwise
      MemoryEntry.Disjoint ∧
    0 < (4096 : UInt64).toNat ∧
    [(⟨0, 4096, .available⟩ : MemoryEntry), ⟨4096, 4096, .available⟩].countP
        (fun e => decide (e.ContainsRange 4096 4096)) ≤ 1 ∧
    ∀ fw', (⟨65536, 4096, 1, some 4096⟩ : Allocation).moveToWhereItShouldBe
        [⟨0, 4096, .available⟩, ⟨4096, 4096, .available⟩] ⟨[], fun _ => 0⟩ ≠
      .error .assertion fw' :=
  have hdisjoint : [(⟨0, 4096, .available⟩ : MemoryEntry), ⟨4096, 4096, .available⟩].Pairwise
      MemoryEntry.Disjoint :=
    List.pairwise_pair.mpr fun x hx => by simp only [UInt64.reduceToNat] at hx; omega
  ⟨rfl, hdisjoint, by decide, moveToWhereItShouldBe_unique_of_disjoint ⟨65536, 4096, 1, some 4096⟩
    [⟨0, 4096, .available⟩, ⟨4096, 4096, .available⟩] ⟨[], fun _ => 0⟩ rfl hdisjoint (by decide)⟩

/-- With an empty target at the address where two adjacent entries meet, both
entries pass the filter: the bytes are copied and the assertion fails. -/
theorem moveToWhereItShouldBe_empty_target_between_entries :
    [(⟨0, 4096, .available⟩ : MemoryEntry), ⟨4096, 4096, .available⟩].Pairwise
      MemoryEntry.Disjoint ∧
    ∃ fw', (⟨65536, 0, 0, some 4096⟩ : Allocation).moveToWhereItShouldBe
        [⟨0, 4096, .available⟩, ⟨4096, 4096, .available⟩] ⟨[], fun _ => 0⟩ =
      .error .assertion fw' :=
  ⟨List.pairwise_pair.mpr fun x hx => by simp only [UInt64.reduceToNat] at hx; omega, _, rfl⟩

end Allocation

end Towboot
