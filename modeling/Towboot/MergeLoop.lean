import Towboot.Coalescing
import Mathlib.Data.List.Pairwise

/-!
# The merge loop computes the coalesced map

`Tracks` relates a state of the loop of `prepare_information` to a state of
`List.splitBy.loop` over the descriptors' regions: the slots before
`current_entry` hold the entries of the closed blocks, `current_entry` holds the
entry of the block being assembled, and every sum on the way is below `2 ^ 64`.
One lemma per branch of the loop body keeps the relation; by induction over the
descriptors the returned slice is the coalesced map when the buffer has a slot
for each of its entries, and `entry_iter.next().unwrap()` panics when it does not.
-/

namespace Towboot

open Uefi Multiboot Region

/-- Without overflow, the entry of a descriptor describes the descriptor's region. -/
theorem entryOf_region {d : MemoryDescriptor} (hd : d.region.top < 2 ^ 64) :
    ∃ e, entryOf d = .ok e ∧ e.region = d.region := by
  have hmul : d.pageCount.toNat * pageSize.toNat < 2 ^ 64 := by
    simp only [MemoryDescriptor.region, top, pageSize_toNat] at hd ⊢
    omega
  obtain ⟨c, hc, hcv⟩ := mulU64_of_lt hmul
  refine ⟨.new d.physStart c (multibootType d.ty),
    by simp only [entryOf, hc, Except.ok_bind, Except.pure_eq_ok], ?_⟩
  simp only [MemoryEntry.region, MemoryDescriptor.region, hcv, pageSize_toNat]

/-- The loop state `s` after a nonempty prefix of the descriptors, against the
state `prev`, `group`, `done` of `splitBy.loop` after the same prefix. -/
structure Tracks (s : MergeState) (prev : Region) (group : List Region)
    (done : List (List Region)) : Prop where
  count_eq : s.count = done.length + 1
  written_eq : s.written.map MemoryEntry.region = done.reverse.map span
  current_eq : s.current.region = span (prev :: group).reverse
  group_span : GroupSpan prev group
  prev_top : prev.top < 2 ^ 64
  written_top : ∀ e ∈ s.written, e.region.top < 2 ^ 64

namespace Tracks

variable {s : MergeState} {prev : Region} {group : List Region} {done : List (List Region)}

theorem current_top (ht : Tracks s prev group done) : s.current.region.top = prev.top := by
  rw [ht.current_eq, ht.group_span.top_eq]

/-- The end of `current_entry`, as the loop computes it, is where `prev` ends. -/
theorem current_sum (ht : Tracks s prev group done) :
    s.current.baseAddress.toNat + s.current.length.toNat = prev.top :=
  ht.current_top

theorem current_type (ht : Tracks s prev group done) : s.current.memoryType = prev.type :=
  (congrArg Region.type ht.current_eq).trans ht.group_span.type_eq

/-- The returned slice `&mb_mmap_buf[0..count]` is the written slots and `current_entry`. -/
theorem take_count (ht : Tracks s prev group done) :
    s.buffer.take s.count = s.written ++ [s.current] := by
  have hlen : s.written.length = done.length := by
    simpa only [List.length_map, List.length_reverse] using congrArg List.length ht.written_eq
  rw [MergeState.buffer, ht.count_eq, ← hlen, List.take_append_eq_append_take]
  simp

/-- A descriptor that continues the block is joined to `current_entry`. -/
theorem mergeStep_join (ht : Tracks s prev group done) {d : MemoryDescriptor}
    (hd : d.region.top < 2 ^ 64) (hc : prev.continues d.region = true) :
    ∃ s', mergeStep s d = .ok s' ∧ s'.rest = s.rest ∧
      Tracks s' d.region (prev :: group) done := by
  obtain ⟨next, hnext, hreg⟩ := entryOf_region hd
  obtain ⟨hty, hbase⟩ : prev.type = d.region.type ∧ d.region.base = prev.top := by
    simpa [continues] using hc
  have htop : d.region.base + d.region.length < 2 ^ 64 := hd
  simp only [MemoryEntry.region, MemoryDescriptor.region, Region.mk.injEq] at hreg hty hbase htop
  have hcur := ht.current_sum
  have hcount : ¬s.count = 0 := by rw [ht.count_eq]; omega
  have htype : next.memoryType = s.current.memoryType := by rw [hreg.2.2, ht.current_type, hty]
  obtain ⟨sum, hsum, hsumv⟩ := addU64_of_lt (a := s.current.baseAddress)
    (b := s.current.length) (by omega)
  have hnextBase : next.baseAddress = sum := UInt64.toNat.inj (by rw [hsumv]; omega)
  obtain ⟨len, hlen, hlenv⟩ := addU64_of_lt (a := s.current.length) (b := next.length)
    (by omega)
  refine ⟨{ s with current := .new s.current.baseAddress len s.current.memoryType },
    by simp only [mergeStep, hnext, Except.ok_bind, hcount, if_false, htype, if_true, hsum,
      hnextBase, hlen, Except.pure_eq_ok], rfl,
    ⟨ht.count_eq, ht.written_eq, ?_, ht.group_span.cons hc, hd, ht.written_top⟩⟩
  rw [List.reverse_cons, span_append_singleton (by simp), ← ht.current_eq]
  simp only [MemoryEntry.region, hlenv, hreg.2.1, MemoryDescriptor.region]

/-- A descriptor that does not continue the block makes the loop start a new entry. -/
theorem mergeStep_eq_advance (ht : Tracks s prev group done) {d : MemoryDescriptor}
    (hd : d.region.top < 2 ^ 64) (hc : prev.continues d.region = false) :
    ∃ next, next.region = d.region ∧ mergeStep s d = s.advance next := by
  obtain ⟨next, hnext, hreg⟩ := entryOf_region hd
  have hcount : ¬s.count = 0 := by rw [ht.count_eq]; omega
  refine ⟨next, hreg, ?_⟩
  simp only [mergeStep, hnext, Except.ok_bind, hcount, if_false]
  split_ifs with htype
  · have hcur := ht.current_sum
    obtain ⟨sum, hsum, hsumv⟩ := addU64_of_lt (a := s.current.baseAddress)
      (b := s.current.length) (by have := ht.prev_top; omega)
    have hty : prev.type = d.region.type := by
      rw [← ht.current_type, ← htype, ← hreg]
      rfl
    have hbase : next.baseAddress ≠ sum := by
      intro hb
      have hb' := congrArg UInt64.toNat hb
      have hnb : next.baseAddress.toNat = d.region.base := congrArg Region.base hreg
      simp only [continues, hty, beq_self_eq_true, Bool.true_and, beq_eq_false_iff_ne,
        ne_eq] at hc
      exact hc (by omega)
    simp only [hsum, Except.ok_bind, hbase, if_false]
  · rfl

/-- A descriptor that does not continue the block starts the next slot. -/
theorem mergeStep_split (ht : Tracks s prev group done) {d : MemoryDescriptor}
    (hd : d.region.top < 2 ^ 64) (hc : prev.continues d.region = false) (hrest : s.rest ≠ []) :
    ∃ s', mergeStep s d = .ok s' ∧ s'.rest.length + 1 = s.rest.length ∧
      Tracks s' d.region [] ((prev :: group).reverse :: done) := by
  obtain ⟨next, hreg, hstep⟩ := ht.mergeStep_eq_advance hd hc
  obtain ⟨e, rest, hr⟩ := List.exists_cons_of_ne_nil hrest
  have hcur := ht.current_top
  refine ⟨⟨s.count + 1, s.written ++ [s.current], next, rest⟩,
    hstep.trans (by simp only [MergeState.advance, hr]), by simp [hr],
    ⟨by simp [ht.count_eq], ?_, by simpa using hreg, GroupSpan.single _, hd, ?_⟩⟩
  · simp [ht.written_eq, ht.current_eq]
  · simpa [or_imp, forall_and, hcur] using ⟨ht.written_top, ht.prev_top⟩

end Tracks

/-- The first descriptor fills the first slot. -/
theorem mergeStep_first (e : MemoryEntry) (rest : List MemoryEntry) {d : MemoryDescriptor}
    (hd : d.region.top < 2 ^ 64) :
    ∃ s, mergeStep ⟨0, [], e, rest⟩ d = .ok s ∧ s.rest = rest ∧ Tracks s d.region [] [] := by
  obtain ⟨next, hnext, hreg⟩ := entryOf_region hd
  refine ⟨⟨1, [], next, rest⟩, by simp [mergeStep, hnext], rfl,
    ⟨rfl, rfl, by simpa using hreg, GroupSpan.single _, hd, by simp⟩⟩

/-- `splitBy.loop` returns the blocks it has closed, the one it is assembling, and
at most one more for each element left. -/
theorem splitBy_loop_length {α : Type} (R : α → α → Bool) :
    ∀ (l : List α) (a : α) (g : List α) (gs : List (List α)),
      gs.length + 1 ≤ (List.splitBy.loop R l a g gs).length ∧
        (List.splitBy.loop R l a g gs).length ≤ gs.length + 1 + l.length
  | [], a, g, gs => by simp [List.splitBy.loop]
  | b :: l, a, g, gs => by
    have hjoin := splitBy_loop_length R l b (a :: g) gs
    have hsplit := splitBy_loop_length R l b [] ((a :: g).reverse :: gs)
    cases h : R a b <;> simp only [List.splitBy.loop, h, List.length_cons] at hjoin hsplit ⊢ <;>
      omega

/-- The run lemma: from a tracked state, the loop ends with the slice of the blocks
`splitBy.loop` closes when the slots left hold every block it still starts, and
panics at `entry_iter.next().unwrap()` when they do not. A joined descriptor takes
no slot. -/
theorem Tracks.mergeLoop_slots {ds : List MemoryDescriptor} :
    ∀ {s : MergeState} {prev : Region} {group : List Region} {done : List (List Region)},
      Tracks s prev group done → (∀ d ∈ ds, d.region.top < 2 ^ 64) →
      ((List.splitBy.loop continues (ds.map MemoryDescriptor.region) prev group done).length ≤
          done.length + 1 + s.rest.length →
        ∃ s', mergeLoop s ds = .ok s' ∧
          (s'.buffer.take s'.count).map MemoryEntry.region =
            (List.splitBy.loop continues (ds.map MemoryDescriptor.region) prev group done).map
              span ∧
          ∀ e ∈ s'.buffer.take s'.count, e.region.top < 2 ^ 64) ∧
      (done.length + 1 + s.rest.length <
          (List.splitBy.loop continues (ds.map MemoryDescriptor.region) prev group done).length →
        mergeLoop s ds = .error .unwrap) := by
  induction ds with
  | nil =>
    intro s prev group done ht _
    have hcur := ht.current_top
    refine ⟨fun _ => ⟨s, rfl, ?_, ?_⟩, fun hlen => ?_⟩
    · simp [ht.take_count, List.splitBy.loop, ht.written_eq, ht.current_eq]
    · simpa [ht.take_count, or_imp, forall_and, hcur] using ⟨ht.written_top, ht.prev_top⟩
    · simp [List.splitBy.loop] at hlen
  | cons d ds ih =>
    intro s prev group done ht hds
    have hd := hds d (List.mem_cons_self d ds)
    have hds' := fun d' hd' => hds d' (List.mem_cons_of_mem d hd')
    simp only [List.map_cons, List.splitBy.loop]
    cases hc : prev.continues d.region with
    | true =>
      obtain ⟨s', hstep, hrest, ht'⟩ := ht.mergeStep_join hd hc
      simpa only [Towboot.mergeLoop, hstep, Except.ok_bind, hrest] using ih ht' hds'
    | false =>
      rcases hr : s.rest with _ | ⟨e, rest⟩
      · obtain ⟨next, -, hstep⟩ := ht.mergeStep_eq_advance hd hc
        have hlower := (splitBy_loop_length continues (ds.map MemoryDescriptor.region)
          d.region [] ((prev :: group).reverse :: done)).1
        simp only [List.length_cons] at hlower
        refine ⟨fun hlen => absurd hlen (by simp only [List.length_nil]; omega), fun _ => ?_⟩
        simp only [Towboot.mergeLoop, hstep, MergeState.advance, hr, Except.error_bind]
      · obtain ⟨s', hstep, hrest, ht'⟩ := ht.mergeStep_split hd hc (by simp [hr])
        obtain ⟨hok, herr⟩ := ih ht' hds'
        simp only [hr, List.length_cons] at hrest hok herr ⊢
        simp only [Towboot.mergeLoop, hstep, Except.ok_bind]
        exact ⟨fun hlen => hok (by omega), fun hlen => herr (by omega)⟩

/-- Coalescing never gives more entries than regions. -/
theorem length_coalesce_le (rs : List Region) : (coalesce rs).length ≤ rs.length := by
  cases rs with
  | nil => simp [coalesce, blocks, List.splitBy]
  | cons r rs =>
    have hupper := (splitBy_loop_length continues rs r [] []).2
    simp only [coalesce, blocks, List.splitBy, List.length_map, List.length_cons,
      List.length_nil] at hupper ⊢
    omega

/-- The loop from `entry_iter.next().unwrap()` on: it returns the coalesced map,
every entry ending below `2 ^ 64`, exactly when the buffer has a slot for each of
its entries (and one when there is no descriptor), and panics at an `unwrap`
otherwise. -/
theorem start_mergeLoop_slots {ds : List MemoryDescriptor} {buf : List MemoryEntry}
    (hds : ∀ d ∈ ds, d.region.top < 2 ^ 64) :
    (max (coalesce (ds.map MemoryDescriptor.region)).length 1 ≤ buf.length →
      ∃ s, (MergeState.start buf >>= (mergeLoop · ds)) = .ok s ∧
        (s.buffer.take s.count).map MemoryEntry.region =
          coalesce (ds.map MemoryDescriptor.region) ∧
        ∀ e ∈ s.buffer.take s.count, e.region.top < 2 ^ 64) ∧
    (buf.length < max (coalesce (ds.map MemoryDescriptor.region)).length 1 →
      (MergeState.start buf >>= (mergeLoop · ds)) = .error .unwrap) := by
  rcases buf with _ | ⟨e, rest⟩
  · exact ⟨fun h => absurd h (by simp), fun _ => rfl⟩
  cases ds with
  | nil =>
    exact ⟨fun _ => ⟨⟨0, [], e, rest⟩, rfl, by simp [coalesce, blocks, List.splitBy], by simp⟩,
      fun h => absurd h (by simp [coalesce, blocks, List.splitBy])⟩
  | cons d ds =>
    obtain ⟨s, hstep, hrest, ht⟩ := mergeStep_first e rest (hds d (List.mem_cons_self d ds))
    have hloop : (MergeState.start (e :: rest) >>= (mergeLoop · (d :: ds))) = mergeLoop s ds := by
      simp only [MergeState.start, Except.ok_bind, mergeLoop, hstep]
    have hcoalesce : coalesce ((d :: ds).map MemoryDescriptor.region) =
        (List.splitBy.loop continues (ds.map MemoryDescriptor.region) d.region [] []).map span :=
      rfl
    have hlower :=
      (splitBy_loop_length continues (ds.map MemoryDescriptor.region) d.region [] []).1
    obtain ⟨hok, herr⟩ := ht.mergeLoop_slots (fun d' hd' => hds d' (List.mem_cons_of_mem d hd'))
    rw [hloop, hcoalesce, List.length_map]
    simp only [List.length_cons, List.length_nil, hrest] at hok herr hlower ⊢
    exact ⟨fun hlen => hok (by omega), fun hlen => herr (by omega)⟩

/-- From a buffer with a slot for every descriptor, the loop never panics and
leaves the coalesced map in the returned slice, every entry ending below `2 ^ 64`. -/
theorem mergeLoop_coalesce {ds : List MemoryDescriptor} {buf : List MemoryEntry}
    (hds : ∀ d ∈ ds, d.region.top < 2 ^ 64) (hbuf : max ds.length 1 ≤ buf.length) :
    ∃ s, (MergeState.start buf >>= (mergeLoop · ds)) = .ok s ∧
      (s.buffer.take s.count).map MemoryEntry.region = coalesce (ds.map MemoryDescriptor.region) ∧
      ∀ e ∈ s.buffer.take s.count, e.region.top < 2 ^ 64 := by
  have hle := length_coalesce_le (ds.map MemoryDescriptor.region)
  rw [List.length_map] at hle
  exact (start_mergeLoop_slots hds).1 (by omega)

/-- After the merge loop, `prepare_information` returns exactly when the bounds can
be read off the whole buffer and the memory map recorded, and then returns the
first `count` slots. -/
theorem prepareInformation_eq_ok_iff (multiboot : Multiboot.Info)
    {ds : List MemoryDescriptor} (bufferAddress : UInt64) {buf : List MemoryEntry}
    {s : MergeState} (hloop : (MergeState.start buf >>= (mergeLoop · ds)) = .ok s)
    (r : Multiboot.Info × List MemoryEntry × List MemoryEntry) :
    prepareInformation multiboot ds bufferAddress buf = .ok r ↔
      ∃ bounds, memoryBounds s.buffer = .ok bounds ∧
        ∃ info, (multiboot.setMemoryBounds (some bounds)).setMemoryRegions
          (some (bufferAddress, s.count)) = .ok info ∧
        (info, s.buffer, s.buffer.take s.count) = r := by
  simp only [prepareInformation, hloop, Except.ok_bind, Except.bind_eq_ok, Except.pure_eq_ok,
    Except.ok.injEq]

/-- No `u64` operation of the merge loop overflows when every region ends strictly
below `2 ^ 64` and the buffer has a slot for every descriptor: the loop returns,
and every entry it leaves ends below `2 ^ 64`, so no join compared a wrapped end. -/
theorem mergeLoop_no_overflow {ds : List MemoryDescriptor} {buf : List MemoryEntry}
    (hds : ∀ d ∈ ds, d.region.top < 2 ^ 64) (hbuf : max ds.length 1 ≤ buf.length) :
    ∃ s, (MergeState.start buf >>= (mergeLoop · ds)) = .ok s ∧
      ∀ e ∈ s.buffer.take s.count, e.baseAddress.toNat + e.length.toNat < 2 ^ 64 := by
  obtain ⟨s, hloop, -, htop⟩ := mergeLoop_coalesce hds hbuf
  exact ⟨s, hloop, htop⟩

theorem mergeLoop_no_overflow_last_page :
    (∀ d ∈ [(⟨.conventional, 18446744073709543424, 1⟩ : MemoryDescriptor)],
      d.region.top < 2 ^ 64) ∧ max 1 1 ≤ [(⟨0, 0, .reserved⟩ : MemoryEntry)].length ∧
    ∃ s, (MergeState.start [⟨0, 0, .reserved⟩] >>=
        (mergeLoop · [⟨.conventional, 18446744073709543424, 1⟩])) = .ok s ∧
      ∀ e ∈ s.buffer.take s.count, e.baseAddress.toNat + e.length.toNat < 2 ^ 64 :=
  ⟨by decide, by decide, mergeLoop_no_overflow (by decide) (by decide)⟩

/-- A region may end exactly at `2 ^ 64`; when a region of the same type follows
it, the loop's `base_address() + length()` overflows. -/
theorem mergeLoop_overflows_at_top :
    (⟨.conventional, 18446744073709547520, 1⟩ : MemoryDescriptor).region.top = 2 ^ 64 ∧
    (MergeState.start [⟨0, 0, .reserved⟩, ⟨0, 0, .reserved⟩] >>=
      (mergeLoop · [⟨.conventional, 18446744073709547520, 1⟩, ⟨.conventional, 0, 1⟩])) =
      .error .overflow :=
  ⟨rfl, rfl⟩

/-! ## The slots the loop needs -/

/-- The buffer `prepare_information` needs: one slot per entry of the coalesced
map, and one when there is no descriptor, rather than one per descriptor. With
every region ending below `2 ^ 64`, a buffer that long gives the coalesced map,
and a shorter one makes `entry_iter.next().unwrap()` panic. -/
theorem prepareInformation_needs_coalesced_slots {ds : List MemoryDescriptor}
    {buf : List MemoryEntry} (hds : ∀ d ∈ ds, d.region.top < 2 ^ 64) :
    (max (coalesce (ds.map MemoryDescriptor.region)).length 1 ≤ buf.length →
      ∃ s, (MergeState.start buf >>= (mergeLoop · ds)) = .ok s ∧
        (s.buffer.take s.count).map MemoryEntry.region =
          coalesce (ds.map MemoryDescriptor.region)) ∧
    (buf.length < max (coalesce (ds.map MemoryDescriptor.region)).length 1 →
      ∀ multiboot bufferAddress,
        prepareInformation multiboot ds bufferAddress buf = .error .unwrap) := by
  obtain ⟨hok, herr⟩ := start_mergeLoop_slots hds
  refine ⟨fun hlen => ?_, fun hlen multiboot bufferAddress => ?_⟩
  · obtain ⟨s, hloop, hslice, -⟩ := hok hlen
    exact ⟨s, hloop, hslice⟩
  · simp only [prepareInformation, herr hlen]
    rfl

theorem prepareInformation_needs_coalesced_slots_adjacent_pages :
    (∀ d ∈ [(⟨.conventional, 0, 1⟩ : MemoryDescriptor), ⟨.conventional, 4096, 1⟩],
      d.region.top < 2 ^ 64) ∧
    (max (coalesce ([(⟨.conventional, 0, 1⟩ : MemoryDescriptor), ⟨.conventional, 4096, 1⟩].map
        MemoryDescriptor.region)).length 1 ≤ [(⟨0, 0, .reserved⟩ : MemoryEntry)].length →
      ∃ s, (MergeState.start [⟨0, 0, .reserved⟩] >>=
          (mergeLoop · [⟨.conventional, 0, 1⟩, ⟨.conventional, 4096, 1⟩])) = .ok s ∧
        (s.buffer.take s.count).map MemoryEntry.region =
          coalesce ([(⟨.conventional, 0, 1⟩ : MemoryDescriptor), ⟨.conventional, 4096, 1⟩].map
            MemoryDescriptor.region)) ∧
    ([(⟨0, 0, .reserved⟩ : MemoryEntry)].length <
        max (coalesce ([(⟨.conventional, 0, 1⟩ : MemoryDescriptor), ⟨.conventional, 4096, 1⟩].map
          MemoryDescriptor.region)).length 1 →
      ∀ multiboot bufferAddress,
        prepareInformation multiboot [⟨.conventional, 0, 1⟩, ⟨.conventional, 4096, 1⟩]
          bufferAddress [⟨0, 0, .reserved⟩] = .error .unwrap) := by
  refine ⟨?regions, prepareInformation_needs_coalesced_slots ?regions⟩
  decide

end Towboot
