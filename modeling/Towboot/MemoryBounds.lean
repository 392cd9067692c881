import Towboot.MergeLoop

/-!
# Lower and upper memory

`prepare_information` looks for the entry at 1 MiB in the whole of
`mb_mmap_buf`, not in the slice it returns. When the slice holds no entry at
1 MiB, a stale slot after it decides the bounds, and a region that merged across
1 MiB leaves no entry there at all.
-/

namespace Towboot

open Uefi Multiboot

/-- Two buffers that agree on the slot the loop writes, but not on the stale
slot after it: with a stale entry at 1 MiB the bounds are set, without one the
call panics. -/
theorem prepareInformation_reads_stale_slot :
    (prepareInformation ⟨none, none⟩ [⟨.conventional, 0, 1⟩] 0
        [⟨0, 0, .reserved⟩, ⟨1048576, 4096, .available⟩]).map (·.1.memoryBounds) =
      .ok (some (640, 4)) ∧
    prepareInformation ⟨none, none⟩ [⟨.conventional, 0, 1⟩] 0
        [⟨0, 0, .reserved⟩, ⟨0, 0, .reserved⟩] = .error .unwrap :=
  ⟨rfl, rfl⟩

/-- Conventional memory from 0 to 2 MiB, reported in two descriptors split at
1 MiB, merges into one entry at 0, and the lookup of an entry at 1 MiB panics. -/
theorem prepareInformation_merged_across_one_mib :
    prepareInformation ⟨none, none⟩ [⟨.conventional, 0, 256⟩, ⟨.conventional, 1048576, 256⟩] 0
      [⟨0, 0, .reserved⟩, ⟨0, 0, .reserved⟩] = .error .unwrap :=
  rfl

/-! ## What the call writes -/

namespace MergeState

/-- The loop state against the buffer it started from: the slots after
`current_entry` are the buffer's own, and before the first descriptor nothing has
been written. -/
structure Untouched (buf : List MemoryEntry) (s : MergeState) : Prop where
  rest_eq : s.rest = buf.drop (s.written.length + 1)
  written_lt : s.written.length < buf.length
  count_eq : s.count = s.written.length + 1 ∨ s.buffer = buf ∧ s.count = 0 ∧ s.written = []

theorem untouched_start {buf : List MemoryEntry} {s : MergeState} (h : start buf = .ok s) :
    Untouched buf s ∧ s.count = 0 := by
  cases buf with
  | nil => cases h
  | cons e rest =>
    cases h
    exact ⟨⟨rfl, by simp, .inr ⟨rfl, rfl, rfl⟩⟩, rfl⟩

/-- Starting a new entry takes the next untouched slot. -/
theorem Untouched.advance {buf : List MemoryEntry} {s s' : MergeState} {next : MemoryEntry}
    (hu : Untouched buf s) (h : s.advance next = .ok s') (hcount : s.count ≠ 0) :
    Untouched buf s' ∧ s'.count = s.count + 1 := by
  unfold MergeState.advance at h
  split at h
  · cases h
  · rename_i e rest hrest
    cases h
    have hc : s.count = s.written.length + 1 := hu.count_eq.resolve_right fun h => hcount h.2.1
    have hdrop := hu.rest_eq
    rw [hrest] at hdrop
    have hlen : s.written.length + 1 < buf.length := by
      have := congrArg List.length hdrop
      simp only [List.length_cons, List.length_drop] at this
      omega
    refine ⟨⟨?_, by simpa using hlen, .inl (by simp [hc])⟩, rfl⟩
    simp only [List.length_append, List.length_singleton]
    rw [← List.drop_drop, ← hdrop]
    rfl

end MergeState

/-- One turn of the merge loop keeps the buffer's own slots after `current_entry`
and adds at most one entry. -/
theorem mergeStep_untouched {buf : List MemoryEntry} {s s' : MergeState} {d : MemoryDescriptor}
    (hu : s.Untouched buf) (h : mergeStep s d = .ok s') :
    s'.Untouched buf ∧ 1 ≤ s'.count ∧ s.count ≤ s'.count ∧ s'.count ≤ s.count + 1 := by
  obtain ⟨next, -, h⟩ := Except.bind_eq_ok.mp h
  split_ifs at h with hzero htype
  · cases h
    have hw : s.written = [] := hu.count_eq.elim (fun _ => by omega) (·.2.2)
    exact ⟨⟨hu.rest_eq, hu.written_lt, .inl (by simp [hzero, hw])⟩, by simp, by simp,
      by simp [hzero]⟩
  · obtain ⟨top, -, h⟩ := Except.bind_eq_ok.mp h
    split_ifs at h
    · obtain ⟨length, -, h⟩ := Except.bind_eq_ok.mp h
      cases h
      exact ⟨⟨hu.rest_eq, hu.written_lt, hu.count_eq.imp_right fun h => absurd h.2.1 hzero⟩,
        Nat.one_le_iff_ne_zero.mpr hzero, le_rfl, Nat.le_succ _⟩
    · obtain ⟨hu', hc⟩ := hu.advance h hzero
      exact ⟨hu', by omega, by omega, by omega⟩
  · obtain ⟨hu', hc⟩ := hu.advance h hzero
    exact ⟨hu', by omega, by omega, by omega⟩

/-- The run lemma: the loop keeps the buffer's own slots after `current_entry`,
and adds at most one entry per descriptor, at least one in all. -/
theorem mergeLoop_untouched {buf : List MemoryEntry} :
    ∀ {ds : List MemoryDescriptor} {s s' : MergeState}, s.Untouched buf →
      mergeLoop s ds = .ok s' →
      s'.Untouched buf ∧ s.count ≤ s'.count ∧ s'.count ≤ s.count + ds.length ∧
        (ds ≠ [] → 1 ≤ s'.count)
  | [], s, s', hu, h => by
    cases h
    exact ⟨hu, le_rfl, by simp, fun h => absurd rfl h⟩
  | d :: ds, s, s', hu, h => by
    obtain ⟨s₁, hstep, hloop⟩ := Except.bind_eq_ok.mp h
    obtain ⟨hu₁, hpos, hle, hle'⟩ := mergeStep_untouched hu hstep
    obtain ⟨hu', hle₁, hle₁', -⟩ := mergeLoop_untouched hu₁ hloop
    simp only [List.length_cons]
    exact ⟨hu', by omega, by omega, fun _ => by omega⟩

/-- What `prepare_information` writes, on every run that returns: only the slots
of the slice it returns, at most one per descriptor. The buffer after the call is
that slice followed by the buffer's own slots from there on, and the memory map it
hands the kernel is that slice: the buffer's address, and 24 bytes per entry. The
slice is empty only when there are no descriptors. -/
theorem prepareInformation_writes_prefix {multiboot info : Multiboot.Info}
    {ds : List MemoryDescriptor} {bufferAddress : UInt64} {buf buf' slice : List MemoryEntry}
    (h : prepareInformation multiboot ds bufferAddress buf = .ok (info, buf', slice)) :
    buf' = slice ++ buf.drop slice.length ∧ buf'.length = buf.length ∧
      (∃ mmapAddr mmapLength, info.memoryRegions = some (mmapAddr, mmapLength) ∧
        mmapAddr.toNat = bufferAddress.toNat ∧ mmapLength.toNat = slice.length * 24) ∧
      slice.length ≤ ds.length ∧ (slice = [] ↔ ds = []) := by
  obtain ⟨s, hloop, h⟩ := Except.bind_eq_ok.mp h
  obtain ⟨s₀, hstart, hloop⟩ := Except.bind_eq_ok.mp hloop
  obtain ⟨bounds, -, h⟩ := Except.bind_eq_ok.mp h
  obtain ⟨info', hset, h⟩ := Except.bind_eq_ok.mp h
  cases h
  obtain ⟨-, -, mmapAddr, mmapLength, rfl, haddr, hlength⟩ := Info.setMemoryRegions_eq_ok hset
  obtain ⟨hu₀, hzero⟩ := MergeState.untouched_start hstart
  obtain ⟨hu, -, hle, hpos⟩ := mergeLoop_untouched hu₀ hloop
  have hlen : s.buffer.length = buf.length := by
    simp only [MergeState.buffer, List.length_append, List.length_cons, hu.rest_eq,
      List.length_drop]
    have := hu.written_lt
    omega
  have hcount : s.count ≤ buf.length := by
    have := hu.written_lt
    rcases hu.count_eq with h | ⟨-, h, -⟩ <;> omega
  have hdrop : s.buffer.drop s.count = buf.drop s.count := by
    rcases hu.count_eq with hc | ⟨hbuf, -, -⟩
    · rw [hc, MergeState.buffer, ← List.singleton_append, ← List.append_assoc,
        List.drop_left' (by simp), hu.rest_eq]
    · rw [hbuf]
  have hslice : (s.buffer.take s.count).length = s.count := by
    rw [List.length_take, hlen]
    omega
  refine ⟨?_, hlen, ⟨mmapAddr, mmapLength, rfl, haddr, by rw [hslice, hlength]⟩, by omega, ?_⟩
  · rw [hslice, ← hdrop, List.take_append_drop]
  · rw [← List.length_eq_zero, hslice]
    refine ⟨fun h0 => by_contra fun hds => absurd (hpos hds) (by omega), ?_⟩
    rintro rfl
    simp only [List.length_nil, add_zero] at hle
    omega

/-- One descriptor at 1 MiB: the call writes the first slot and leaves the second. -/
theorem prepareInformation_writes_prefix_one_descriptor :
    prepareInformation ⟨none, none⟩ [⟨.conventional, 1048576, 1⟩] 0
        [⟨0, 0, .reserved⟩, ⟨0, 0, .reserved⟩] =
      .ok (⟨some (640, 4), some (0, 24)⟩, [⟨1048576, 4096, .available⟩, ⟨0, 0, .reserved⟩],
        [⟨1048576, 4096, .available⟩]) ∧
    [(⟨1048576, 4096, .available⟩ : MemoryEntry), ⟨0, 0, .reserved⟩] =
        [⟨1048576, 4096, .available⟩] ++
          [(⟨0, 0, .reserved⟩ : MemoryEntry), ⟨0, 0, .reserved⟩].drop 1 ∧
      [(⟨1048576, 4096, .available⟩ : MemoryEntry), ⟨0, 0, .reserved⟩].length =
        [(⟨0, 0, .reserved⟩ : MemoryEntry), ⟨0, 0, .reserved⟩].length ∧
      (∃ mmapAddr mmapLength,
        (⟨some (640, 4), some (0, 24)⟩ : Multiboot.Info).memoryRegions =
          some (mmapAddr, mmapLength) ∧
        mmapAddr.toNat = (0 : UInt64).toNat ∧
        mmapLength.toNat = [(⟨1048576, 4096, .available⟩ : MemoryEntry)].length * 24) ∧
      [(⟨1048576, 4096, .available⟩ : MemoryEntry)].length ≤
        [(⟨.conventional, 1048576, 1⟩ : MemoryDescriptor)].length ∧
      ([(⟨1048576, 4096, .available⟩ : MemoryEntry)] = [] ↔
        [(⟨.conventional, 1048576, 1⟩ : MemoryDescriptor)] = []) := by
  refine ⟨?run, prepareInformation_writes_prefix ?run⟩
  rfl

end Towboot
