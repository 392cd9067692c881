import Towboot.MemoryMap
import Mathlib.Data.List.SplitBy

/-!
# Coalescing the memory map

What `prepare_information` is for: the descriptors become regions of natural
numbers, consecutive regions that each continue their predecessor (same type,
starting where it ends) form maximal blocks, and each block becomes one entry
spanning it. Coalescing reports every address under the type it had, and
nothing else. The merge loop of the code computes exactly these blocks, with
no overflow, when every region ends below `2 ^ 64`.
-/

namespace Towboot

open Uefi Multiboot

/-- A typed range `[base, base + length)` of physical addresses. -/
structure Region where
  /-- The first address. -/
  base : ℕ
  /-- The number of addresses. -/
  length : ℕ
  /-- The Multiboot type of the range. -/
  type : Multiboot.MemoryType
  deriving DecidableEq, Repr

namespace Region

/-- The first address past the region. -/
def top (r : Region) : ℕ := r.base + r.length

/-- The region contains the address `x`. -/
def Contains (r : Region) (x : ℕ) : Prop := r.base ≤ x ∧ x < r.top

instance (r : Region) (x : ℕ) : Decidable (r.Contains x) :=
  inferInstanceAs (Decidable (_ ∧ _))

/-- `r` continues `p`: it has `p`'s type and starts where `p` ends. -/
def continues (p r : Region) : Bool := p.type == r.type && r.base == p.top

/-- The entry a block coalesces into: the first region's base and type, and the
lengths of all its regions added up in order. Blocks are never empty. -/
def span : List Region → Region
  | [] => ⟨0, 0, .reserved⟩
  | r :: rs => ⟨r.base, rs.foldl (fun n q => n + q.length) r.length, r.type⟩

@[simp] theorem span_singleton (r : Region) : span [r] = r := by
  simp [span]

/-- Appending a region to a block adds its length to the block's entry. -/
theorem span_append_singleton {l : List Region} (hl : l ≠ []) (b : Region) :
    span (l ++ [b]) = ⟨(span l).base, (span l).length + b.length, (span l).type⟩ := by
  obtain ⟨r, rs, rfl⟩ := List.exists_cons_of_ne_nil hl
  simp [span]

end Region

/-- The region a descriptor describes, classified by `multibootType`. -/
def Uefi.MemoryDescriptor.region (d : MemoryDescriptor) : Region :=
  ⟨d.physStart.toNat, d.pageCount.toNat * 4096, multibootType d.ty⟩

/-- The region an entry describes. -/
def Multiboot.MemoryEntry.region (e : MemoryEntry) : Region :=
  ⟨e.baseAddress.toNat, e.length.toNat, e.memoryType⟩

/-- The maximal blocks of consecutive regions that each continue their predecessor. -/
def blocks (rs : List Region) : List (List Region) := rs.splitBy Region.continues

/-- The coalesced memory map: one entry per block. -/
def coalesce (rs : List Region) : List Region := (blocks rs).map Region.span

/-- Some region of the list has type `t` and contains `x`. -/
def Reports (rs : List Region) (t : Multiboot.MemoryType) (x : ℕ) : Prop :=
  ∃ r ∈ rs, r.type = t ∧ r.Contains x

section Reports

variable {t : Multiboot.MemoryType} {x : ℕ}

@[simp] theorem reports_nil : ¬Reports [] t x := by simp [Reports]

@[simp] theorem reports_cons {r : Region} {rs : List Region} :
    Reports (r :: rs) t x ↔ (r.type = t ∧ r.Contains x) ∨ Reports rs t x := by
  simp [Reports]

@[simp] theorem reports_append {l l' : List Region} :
    Reports (l ++ l') t x ↔ Reports l t x ∨ Reports l' t x := by
  simp only [Reports, List.mem_append, or_and_right, exists_or]

@[simp] theorem reports_map {α : Type} {f : α → Region} {l : List α} :
    Reports (l.map f) t x ↔ ∃ a ∈ l, (f a).type = t ∧ (f a).Contains x := by
  simp [Reports]

@[simp] theorem reports_reverse {l : List Region} : Reports l.reverse t x ↔ Reports l t x := by
  simp [Reports]

end Reports

open Region

/-- The block `(a :: g).reverse` that `splitBy.loop` is assembling, whose last
region is `a`: its entry ends where `a` ends, has `a`'s type, and reports what
the regions of the block report. -/
structure GroupSpan (a : Region) (g : List Region) : Prop where
  top_eq : (span (a :: g).reverse).top = a.top
  type_eq : (span (a :: g).reverse).type = a.type
  reports : ∀ t x, ((span (a :: g).reverse).type = t ∧ (span (a :: g).reverse).Contains x) ↔
    Reports (a :: g) t x

theorem GroupSpan.single (a : Region) : GroupSpan a [] :=
  ⟨by simp, by simp, fun _ _ => by simp⟩

/-- A region that continues the last one extends the block's entry by exactly itself. -/
theorem GroupSpan.cons {a b : Region} {g : List Region} (h : GroupSpan a g)
    (hab : a.continues b = true) : GroupSpan b (a :: g) := by
  obtain ⟨htop, htype, hrep⟩ := h
  have hspan : span (b :: a :: g).reverse =
      ⟨(span (a :: g).reverse).base, (span (a :: g).reverse).length + b.length,
        (span (a :: g).reverse).type⟩ := by
    rw [List.reverse_cons (a := b)]
    exact span_append_singleton (by simp) b
  simp only [continues, Bool.and_eq_true, beq_iff_eq] at hab
  obtain ⟨hty, hbase⟩ := hab
  have htype' : (span (a :: g).reverse).type = b.type := htype.trans hty
  simp only [top] at htop hbase
  refine ⟨?_, ?_, fun t x => ?_⟩
  · simp only [hspan, top]
    omega
  · rw [hspan, htype']
  · rw [reports_cons, ← hrep t x, hspan, ← htype']
    simp only [Contains, top]
    constructor
    · rintro ⟨ht, h1, h2⟩
      by_cases hx : x < b.base
      · exact Or.inr ⟨ht, h1, by omega⟩
      · exact Or.inl ⟨ht, by omega, by omega⟩
    · rintro (⟨ht, h1, h2⟩ | ⟨ht, h1, h2⟩)
      · exact ⟨ht, by omega, by omega⟩
      · exact ⟨ht, h1, by omega⟩

/-- The coalesced blocks of `splitBy.loop` report what the closed blocks, the
block being assembled and the remaining regions report. -/
theorem reports_splitBy_loop {t : Multiboot.MemoryType} {x : ℕ} (l : List Region) :
    ∀ (a : Region) (g : List Region) (gs : List (List Region)), GroupSpan a g →
      (Reports ((List.splitBy.loop continues l a g gs).map span) t x ↔
        Reports (gs.map span) t x ∨ Reports (a :: g) t x ∨ Reports l t x) := by
  induction l with
  | nil =>
    intro a g gs h
    simp only [List.splitBy.loop, List.map_reverse, List.map_cons, reports_reverse,
      reports_cons, h.reports, reports_nil, or_false, false_or, or_comm]
  | cons b l ih =>
    intro a g gs h
    simp only [List.splitBy.loop]
    cases hab : a.continues b with
    | true =>
      rw [ih b (a :: g) gs (h.cons hab)]
      simp only [reports_cons, or_assoc, or_left_comm]
    | false =>
      rw [ih b [] _ (GroupSpan.single b)]
      simp only [List.map_cons, reports_cons, h.reports, reports_nil, or_false, or_assoc,
        or_left_comm]

/-- Coalescing reports every address under exactly the types the regions gave it. -/
theorem reports_coalesce {rs : List Region} {t : Multiboot.MemoryType} {x : ℕ} :
    Reports (coalesce rs) t x ↔ Reports rs t x := by
  cases rs with
  | nil => rfl
  | cons a l =>
    rw [coalesce, blocks, List.splitBy, reports_splitBy_loop l a [] [] (GroupSpan.single a)]
    simp [or_assoc]

end Towboot
