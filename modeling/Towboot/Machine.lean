import Mathlib.Data.List.Basic
import Mathlib.Data.String.Basic

/-!
# Machine words, panics and physical memory

The loader is Rust built for `x86_64-unknown-uefi`, so `usize` is a 64-bit word
and is modelled as `UInt64`. Integer arithmetic that overflows panics, as do
`unwrap`, `expect`, `assert!` and `todo!`; with `panic = "abort"` a panic ends
the loader, as does an allocation that the global allocator refuses. Each operation of this file that can panic returns `Except Panic`.
Where no overflow happens the result is the one wrapping arithmetic would give,
so the lemmas below also describe a build without overflow checks.
-/

namespace Towboot

/-- Why the loader stopped. Messages are the texts of the source. -/
inductive Panic where
  /-- An integer operation overflowed. -/
  | overflow
  /-- `unwrap` on `None` or on `Err`. -/
  | unwrap
  /-- `expect` on `None` or on `Err`, with its message. -/
  | expect (message : String)
  /-- `panic!` with its message; formatted arguments are dropped. -/
  | message (text : String)
  /-- A failed `assert!`. -/
  | assertion
  /-- `todo!` with its message. -/
  | todo (message : String)
  /-- `handle_alloc_error`: the global allocator refused an allocation. -/
  | allocError
  deriving DecidableEq, Repr

section Except

variable {ε α β : Type}

@[simp] theorem Except.ok_bind (a : α) (f : α → Except ε β) : (Except.ok a >>= f) = f a := rfl

@[simp] theorem Except.error_bind (e : ε) (f : α → Except ε β) :
    (Except.error e >>= f) = Except.error e := rfl

@[simp] theorem Except.pure_eq_ok (a : α) : (pure a : Except ε α) = .ok a := rfl

/-- A computation followed by another succeeds when both parts do. -/
theorem Except.bind_eq_ok {x : Except ε α} {f : α → Except ε β} {b : β} :
    x >>= f = .ok b ↔ ∃ a, x = .ok a ∧ f a = .ok b := by
  cases x <;> simp

end Except

/-- A computation of the loader over a state of type `σ`: it changes the state or
panics, and a panic keeps the state of the moment it happened. -/
abbrev PanicM (σ : Type) := EStateM Panic σ

namespace PanicM

variable {σ α β : Type}

@[simp] theorem bind_apply (x : PanicM σ α) (f : α → PanicM σ β) (s : σ) :
    (x >>= f) s = match x s with
      | .ok a s' => f a s'
      | .error e s' => .error e s' := by
  show EStateM.bind x f s = _
  unfold EStateM.bind
  cases x s <;> rfl

@[simp] theorem map_apply (f : α → β) (x : PanicM σ α) (s : σ) :
    (f <$> x) s = match x s with
      | .ok a s' => .ok (f a) s'
      | .error e s' => .error e s' := by
  show EStateM.map f x s = _
  unfold EStateM.map
  cases x s <;> rfl

@[simp] theorem pure_apply (a : α) (s : σ) : (pure a : PanicM σ α) s = .ok a s := rfl

@[simp] theorem throw_apply (e : Panic) (s : σ) : (throw e : PanicM σ α) s = .error e s := rfl

@[simp] theorem ofExcept_ok (a : α) (s : σ) :
    (MonadExcept.ofExcept (.ok a : Except Panic α) : PanicM σ α) s = .ok a s := rfl

@[simp] theorem ofExcept_error (e : Panic) (s : σ) :
    (MonadExcept.ofExcept (.error e : Except Panic α) : PanicM σ α) s = .error e s := rfl

end PanicM

/-- `a + b` on `u64` (and on `usize`). -/
def addU64 (a b : UInt64) : Except Panic UInt64 :=
  if a.toNat + b.toNat < 2 ^ 64 then .ok (a + b) else .error .overflow

/-- `a * b` on `u64` (and on `usize`). -/
def mulU64 (a b : UInt64) : Except Panic UInt64 :=
  if a.toNat * b.toNat < 2 ^ 64 then .ok (a * b) else .error .overflow

/-- `a - b` on `u32`. -/
def subU32 (a b : UInt32) : Except Panic UInt32 :=
  if b ≤ a then .ok (a - b) else .error .overflow

/-- `x.try_into().unwrap()` from `u64` to `u32`. -/
def toU32 (x : UInt64) : Except Panic UInt32 :=
  if x.toNat < 2 ^ 32 then .ok x.toUInt32 else .error .unwrap

/-- A value below `2 ^ 32` converts exactly. -/
theorem toU32_of_lt {x : UInt64} (h : x.toNat < 2 ^ 32) :
    ∃ y, toU32 x = .ok y ∧ y.toNat = x.toNat :=
  ⟨x.toUInt32, if_pos h, UInt32.toNat_ofNat_of_lt h⟩

theorem toU32_eq_ok {x : UInt64} {y : UInt32} (h : toU32 x = .ok y) : x.toNat < 2 ^ 32 := by
  unfold toU32 at h
  split_ifs at h with hx
  · exact hx

theorem UInt64.le_iff_toNat_le {a b : UInt64} : a ≤ b ↔ a.toNat ≤ b.toNat := Iff.rfl

theorem UInt32.le_iff_toNat_le {a b : UInt32} : a ≤ b ↔ a.toNat ≤ b.toNat := Iff.rfl

theorem UInt64.toNat_pos_iff {a : UInt64} : 0 < a.toNat ↔ a ≠ 0 := by
  simp [Nat.pos_iff_ne_zero, UInt64.ext_iff]

theorem UInt64.toNat_add_of_lt {a b : UInt64} (h : a.toNat + b.toNat < 2 ^ 64) :
    (a + b).toNat = a.toNat + b.toNat := by
  rw [UInt64.toNat_add]
  exact Nat.mod_eq_of_lt h

theorem UInt64.toNat_mul_of_lt {a b : UInt64} (h : a.toNat * b.toNat < 2 ^ 64) :
    (a * b).toNat = a.toNat * b.toNat := by
  rw [UInt64.toNat_mul]
  exact Nat.mod_eq_of_lt h

/-- A sum that fits is computed exactly. -/
theorem addU64_of_lt {a b : UInt64} (h : a.toNat + b.toNat < 2 ^ 64) :
    ∃ c, addU64 a b = .ok c ∧ c.toNat = a.toNat + b.toNat :=
  ⟨a + b, if_pos h, UInt64.toNat_add_of_lt h⟩

/-- A product that fits is computed exactly. -/
theorem mulU64_of_lt {a b : UInt64} (h : a.toNat * b.toNat < 2 ^ 64) :
    ∃ c, mulU64 a b = .ok c ∧ c.toNat = a.toNat * b.toNat :=
  ⟨a * b, if_pos h, UInt64.toNat_mul_of_lt h⟩

/-- `addU64` succeeds exactly on the sums below `2 ^ 64`, with the exact sum. -/
theorem addU64_eq_ok {a b c : UInt64} :
    addU64 a b = .ok c ↔ a.toNat + b.toNat < 2 ^ 64 ∧ c.toNat = a.toNat + b.toNat := by
  unfold addU64
  split
  · rename_i h
    simp only [Except.ok.injEq, h, true_and]
    exact ⟨fun e => e ▸ UInt64.toNat_add_of_lt h,
      fun e => UInt64.toNat.inj ((UInt64.toNat_add_of_lt h).trans e.symm)⟩
  · simp only [reduceCtorEq, false_iff, not_and]
    exact fun h => absurd h ‹_›

@[simp] theorem addU64_eq_error {a b : UInt64} {e : Panic} :
    addU64 a b = .error e ↔ 2 ^ 64 ≤ a.toNat + b.toNat ∧ e = .overflow := by
  unfold addU64
  split <;> simp_all [eq_comm]

@[simp] theorem mulU64_eq_error {a b : UInt64} {e : Panic} :
    mulU64 a b = .error e ↔ 2 ^ 64 ≤ a.toNat * b.toNat ∧ e = .overflow := by
  unfold mulU64
  split <;> simp_all [eq_comm]

/-- `x + y >= u + v` in checked `u64` arithmetic: the exact comparison, or an
overflow when either sum does not fit. -/
theorem addU64_compare (x y u v : UInt64) :
    (addU64 x y >>= fun top => addU64 u v >>= fun want => pure (decide (want ≤ top))) =
      if x.toNat + y.toNat < 2 ^ 64 ∧ u.toNat + v.toNat < 2 ^ 64 then
        .ok (decide (u.toNat + v.toNat ≤ x.toNat + y.toNat))
      else .error .overflow := by
  by_cases htop : x.toNat + y.toNat < 2 ^ 64
  · obtain ⟨top, htop', htopv⟩ := addU64_of_lt htop
    by_cases hwant : u.toNat + v.toNat < 2 ^ 64
    · obtain ⟨want, hwant', hwantv⟩ := addU64_of_lt hwant
      rw [if_pos ⟨htop, hwant⟩]
      simp [htop', hwant', UInt64.le_iff_toNat_le, htopv, hwantv]
    · rw [if_neg fun h => hwant h.2]
      simp [htop', addU64_eq_error.mpr ⟨Nat.not_lt.mp hwant, rfl⟩]
  · rw [if_neg fun h => htop h.1]
    simp [addU64_eq_error.mpr ⟨Nat.not_lt.mp htop, rfl⟩]

/-- A `u32` subtraction that does not underflow is computed exactly. -/
theorem subU32_of_le {a b : UInt32} (h : b.toNat ≤ a.toNat) :
    ∃ c, subU32 a b = .ok c ∧ c.toNat = a.toNat - b.toNat :=
  ⟨a - b, if_pos h, UInt32.toNat_sub_of_le a b h⟩

@[simp] theorem subU32_eq_error {a b : UInt32} {e : Panic} :
    subU32 a b = .error e ↔ a.toNat < b.toNat ∧ e = .overflow := by
  by_cases h : b.toNat ≤ a.toNat
  · simp only [subU32, show b ≤ a from h, if_true, reduceCtorEq, false_iff, not_and]
    intro h'
    omega
  · have hlt : a.toNat < b.toNat := by omega
    simp only [subU32, show ¬b ≤ a from h, if_false, Except.error.injEq, hlt, true_and, eq_comm]

/-- Physical memory, one byte per address. -/
def Memory := ℕ → UInt8

/-- `core::ptr::copy(src, dest, count)`: afterwards `[dest, dest + count)` holds
what `[src, src + count)` held before; the two ranges may overlap. -/
def Memory.copy (mem : Memory) (src dest count : ℕ) : Memory :=
  fun x => if dest ≤ x ∧ x < dest + count then mem (src + (x - dest)) else mem x

/-- Store `bytes` at `addr`, `addr + 1`, and so on. -/
def Memory.write (mem : Memory) (addr : ℕ) (bytes : List UInt8) : Memory :=
  fun x => if addr ≤ x ∧ x < addr + bytes.length then bytes.getD (x - addr) 0 else mem x

theorem Memory.copy_apply_add {mem : Memory} {src dest count i : ℕ} (hi : i < count) :
    mem.copy src dest count (dest + i) = mem (src + i) := by
  simp [Memory.copy, hi]

theorem Memory.copy_apply_of_not_mem {mem : Memory} {src dest count x : ℕ}
    (hx : ¬(dest ≤ x ∧ x < dest + count)) : mem.copy src dest count x = mem x :=
  if_neg hx

theorem Memory.write_apply_add {mem : Memory} {addr i : ℕ} {bytes : List UInt8}
    (hi : i < bytes.length) : mem.write addr bytes (addr + i) = bytes.getD i 0 := by
  simp [Memory.write, hi]

theorem Memory.write_apply_of_not_mem {mem : Memory} {addr x : ℕ} {bytes : List UInt8}
    (hx : ¬(addr ≤ x ∧ x < addr + bytes.length)) : mem.write addr bytes x = mem x :=
  if_neg hx

end Towboot
