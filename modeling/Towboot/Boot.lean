import Towboot.Firmware

/-!
# Preparing a boot entry

`prepare_entry` reads the kernel, parses its Multiboot header, allocates the pages
at the header's load address, places the loaded segment there followed by zeroed
bss, and reads the modules. The pages come from `allocate_pages` as a raw address
that only a `PreparedEntry` gives back, on drop; the module reads come after the
allocation, and their `?` returns before any `PreparedEntry` exists.

`read_file` and `multiboot1::parse` are parameters: the volume is a function from
path to the file or the status `read_file` fails with, and the parser any function
from the file to a header or an error.
-/

namespace Towboot

open PanicM BootM

/-- `config::Module`, declared in `config.rs`, which is not among the sources.
`prepare_entry` reads only a module's image path. -/
structure Module where
  /-- The path of the module's file on the volume. -/
  image : String
  deriving DecidableEq, Repr

/-- `config::Entry`, declared in `config.rs`, which is not among the sources.
`prepare_entry` reads the kernel's path and the optional module list. -/
structure Entry where
  /-- The path of the kernel's file on the volume. -/
  image : String
  /-- The modules, in the order they are loaded. -/
  modules : Option (List Module)
  deriving DecidableEq, Repr

/-- `multiboot1::MultibootAddresses`: the address fields of the header and the
offset in the file at which the loaded segment starts. The header's own address
is left out: nothing the loader does reads it. -/
structure MultibootAddresses where
  loadAddress : UInt32
  loadEndAddress : UInt32
  bssEndAddress : UInt32
  entryAddress : UInt32
  loadOffset : UInt32
  deriving DecidableEq, Repr

/-- `multiboot1::Addresses`. The ELF symbol table is never read and is left out. -/
inductive Addresses where
  | multiboot (addresses : MultibootAddresses)
  | elf
  deriving DecidableEq, Repr

/-- `multiboot1::Metadata`; only the addresses are read. -/
structure Metadata where
  addresses : Addresses
  deriving DecidableEq, Repr

/-- `PreparedEntry`. -/
structure PreparedEntry where
  entry : Entry
  /-- The pages `allocate_pages` returned, as a raw address. -/
  kernelPtr : UInt64
  kernelPages : UInt64
  metadata : Metadata
  modulesVec : List (List UInt8)
  deriving DecidableEq, Repr

/-- What `read_file` returns for each path of the volume. -/
abbrev Volume := String → Except Status (List UInt8)

/-- Lines 51-54: `bss_end_address - load_address`, or `load_end_address -
load_address` when there is no bss. -/
def kernelLength (addresses : MultibootAddresses) : Except Panic UInt32 :=
  if addresses.bssEndAddress = 0 then subU32 addresses.loadEndAddress addresses.loadAddress
  else subU32 addresses.bssEndAddress addresses.loadAddress

/-- Lines 68-74: the bytes the zip writes into a buffer of `length` bytes. The file
from `load_offset`, at most `loaded` bytes of it, then zeros. -/
def segment (kernelVec : List UInt8) (loadOffset loaded length : ℕ) : List UInt8 :=
  ((kernelVec.drop loadOffset).take loaded ++ List.replicate length 0).take length

/-- The machine after `bytes` are stored from `ptr` on. -/
def Firmware.write (fw : Firmware) (ptr : UInt64) (bytes : List UInt8) : Firmware :=
  { fw with memory := fw.memory.write ptr.toNat bytes }

/-- Stores through `from_raw_parts_mut(ptr, bytes.len())`. -/
def writeMemory (ptr : UInt64) (bytes : List UInt8) : BootM Unit := fun fw =>
  .ok () (fw.write ptr bytes)

/-- Lines 51-74: allocate the pages at `load_address` and place the kernel there;
the pointer and the page count of the allocation. -/
def placeKernel (kernelVec : List UInt8) (addresses : MultibootAddresses)
    (answer : Except Status UInt64) : BootM (Except Status (UInt64 × UInt64)) := do
  let length ← MonadExcept.ofExcept (kernelLength addresses)
  let kernelPages : UInt64 := length.toUInt64 / 4096 + 1
  match ← allocatePages (.address addresses.loadAddress.toUInt64) kernelPages answer with
  | .error _ => pure (.error Status.loadError)
  | .ok kernelPtr => do
    let loaded ← MonadExcept.ofExcept (subU32 addresses.loadEndAddress addresses.loadAddress)
    writeMemory kernelPtr
      (segment kernelVec addresses.loadOffset.toNat loaded.toNat length.toNat)
    pure (.ok (kernelPtr, kernelPages))

/-- Lines 79-81: read every module, stopping at the first that fails. -/
def readModules (volume : Volume) (modules : Option (List Module)) :
    Except Status (List (List UInt8)) :=
  (modules.getD []).mapM fun module => volume module.image

/-- `prepare_entry`. -/
def prepareEntry {ε : Type} (entry : Entry) (volume : Volume)
    (parse : List UInt8 → Except ε Metadata) (answer : Except Status UInt64) :
    BootM (Except Status PreparedEntry) :=
  match volume entry.image with
  | .error e => pure (.error e)
  | .ok kernelVec =>
    match parse kernelVec with
    | .error _ => pure (.error Status.loadError)
    | .ok metadata =>
      match metadata.addresses with
      | .elf => throw (.todo "handle ELF addresses")
      | .multiboot addresses => do
        match ← placeKernel kernelVec addresses answer with
        | .error e => pure (.error e)
        | .ok (kernelPtr, kernelPages) =>
          match readModules volume entry.modules with
          | .error e => pure (.error e)
          | .ok modulesVec => pure (.ok ⟨entry, kernelPtr, kernelPages, metadata, modulesVec⟩)

/-- `PreparedEntry::drop`: free the kernel's pages, panicking when the firmware refuses. -/
def PreparedEntry.drop (self : PreparedEntry) : BootM Unit := do
  let r ← freePages self.kernelPtr self.kernelPages
  expect "failed to free the allocated memory for the kernel" r

/-- The answers to the calls of `PreparedEntry::boot`. -/
structure ExitAnswers where
  /-- `memory_map_size()`. -/
  memoryMapSize : UInt64
  /-- Whether the global allocator grants the bytes of the memory map buffer. -/
  mapBufferGranted : Bool
  /-- `exit_boot_services`. -/
  exitBootServices : Except Status Unit

/-- `Vec::<u8>::new()` resized to `length` zero bytes. An empty buffer allocates
nothing; a length above `isize::MAX` overflows the capacity; a buffer the global
allocator refuses stops the loader in `handle_alloc_error`. -/
def zeroedVec (length : UInt64) (granted : Bool) : Except Panic Unit :=
  if length = 0 then .ok ()
  else if 2 ^ 63 ≤ length.toNat then .error (.message "capacity overflow")
  else if granted then .ok ()
  else .error .allocError

/-- `PreparedEntry::boot` up to the jump, whose address is the result: a buffer of
`memory_map_size() + 100` bytes for the memory map, `exit_boot_services`, and the
Multiboot entry address, or `todo!` for an ELF kernel. -/
def PreparedEntry.boot (self : PreparedEntry) (answers : ExitAnswers) : BootM UInt64 := do
  let length ← MonadExcept.ofExcept (addU64 answers.memoryMapSize 100)
  MonadExcept.ofExcept (zeroedVec length answers.mapBufferGranted)
  expect "failed to exit boot services" answers.exitBootServices
  match self.metadata.addresses with
  | .multiboot addresses => pure addresses.entryAddress.toUInt64
  | .elf => throw (.todo "handle ELF addresses")

/-! ## The kernel's length and bytes -/

/-- The header's addresses are in order: the loaded segment, and the bss when
there is one, end at or after the load address. -/
def MultibootAddresses.Ordered (addresses : MultibootAddresses) : Prop :=
  addresses.loadAddress ≤ addresses.loadEndAddress ∧
    (addresses.bssEndAddress = 0 ∨ addresses.loadAddress ≤ addresses.bssEndAddress)

instance (addresses : MultibootAddresses) : Decidable addresses.Ordered :=
  inferInstanceAs (Decidable (_ ∧ _))

/-- The length the buffer is given, in `ℕ`: the end of the bss, or of the loaded
segment when there is no bss, less the load address. -/
def MultibootAddresses.length (addresses : MultibootAddresses) : ℕ :=
  if addresses.bssEndAddress = 0 then
    addresses.loadEndAddress.toNat - addresses.loadAddress.toNat
  else addresses.bssEndAddress.toNat - addresses.loadAddress.toNat

theorem kernelLength_of_le (addresses : MultibootAddresses)
    (h : if addresses.bssEndAddress = 0 then
        addresses.loadAddress.toNat ≤ addresses.loadEndAddress.toNat
      else addresses.loadAddress.toNat ≤ addresses.bssEndAddress.toNat) :
    ∃ length, kernelLength addresses = .ok length ∧ length.toNat = addresses.length := by
  unfold kernelLength MultibootAddresses.length
  split_ifs at h ⊢ <;> exact subU32_of_le h

theorem kernelLength_of_ordered {addresses : MultibootAddresses} (h : addresses.Ordered) :
    ∃ length, kernelLength addresses = .ok length ∧ length.toNat = addresses.length :=
  kernelLength_of_le addresses (by split_ifs with hzero; exacts [h.1, h.2.resolve_left hzero])

/-- A header out of order overflows in `kernel_length`, unless only the loaded
segment ends below the load address. -/
theorem kernelLength_of_not_ordered {addresses : MultibootAddresses} (h : ¬addresses.Ordered) :
    kernelLength addresses = .error .overflow ∨
      addresses.bssEndAddress ≠ 0 ∧ addresses.loadAddress ≤ addresses.bssEndAddress ∧
        addresses.loadEndAddress.toNat < addresses.loadAddress.toNat := by
  simp only [MultibootAddresses.Ordered, UInt32.le_iff_toNat_le, not_and_or, not_or,
    Nat.not_le] at h
  unfold kernelLength
  by_cases hzero : addresses.bssEndAddress = 0
  · simp only [hzero, if_true, subU32_eq_error, and_true]
    exact .inl (h.resolve_right fun h' => h'.1 hzero)
  · by_cases hbss : addresses.loadAddress.toNat ≤ addresses.bssEndAddress.toNat
    · exact .inr ⟨hzero, hbss, h.resolve_right fun h' => by omega⟩
    · simp only [hzero, if_false, subU32_eq_error, and_true]
      exact .inl (by omega)

/-- `kernel_pages`, one page more than the whole pages of the length. -/
theorem toNat_kernelPages (length : UInt32) :
    (length.toUInt64 / 4096 + 1).toNat = length.toNat / 4096 + 1 := by
  have hsmall : length.toNat < 2 ^ 32 := length.toNat_lt
  rw [UInt64.toNat_add, UInt64.toNat_div, UInt32.toUInt64_toNat]
  show (length.toNat / 4096 + 1) % 2 ^ 64 = _
  omega

theorem length_segment (kernelVec : List UInt8) (loadOffset loaded length : ℕ) :
    (segment kernelVec loadOffset loaded length).length = length := by
  simp only [segment, List.length_take, List.length_append, List.length_replicate]
  omega

/-- Byte `i` of the buffer is file byte `load_offset + i` while `i` is in the
loaded segment and in the file, and zero after. -/
theorem getD_segment (kernelVec : List UInt8) (loadOffset loaded length : ℕ) {i : ℕ}
    (hi : i < length) :
    (segment kernelVec loadOffset loaded length).getD i 0 =
      if i < loaded then kernelVec.getD (loadOffset + i) 0 else 0 := by
  simp only [segment, List.getD_eq_getElem?_getD, List.getElem?_take, hi, if_true]
  by_cases hfile : i < ((kernelVec.drop loadOffset).take loaded).length
  · simp only [List.length_take, List.length_drop, lt_inf_iff] at hfile
    rw [List.getElem?_append_left (by simpa using hfile), List.getElem?_take, if_pos hfile.1,
      List.getElem?_drop, if_pos hfile.1]
  · rw [List.getElem?_append_right (by omega), List.getElem?_replicate, if_pos (by omega)]
    simp only [List.length_take, List.length_drop, lt_inf_iff, not_and_or, not_lt] at hfile
    split_ifs with hloaded
    · rw [List.getElem?_eq_none (by omega)]
      rfl
    · rfl

/-! ## Each path of `prepare_entry` -/

section Paths

variable {ε : Type} {entry : Entry} {volume : Volume} {parse : List UInt8 → Except ε Metadata}
  {answer : Except Status UInt64} {fw : Firmware} {kernelVec : List UInt8}
  {addresses : MultibootAddresses}

theorem placeKernel_of_kernelLength_error {p : Panic} (h : kernelLength addresses = .error p) :
    placeKernel kernelVec addresses answer fw = .error p fw := by
  simp [placeKernel, h]

theorem placeKernel_of_refused {length : UInt32} {e : Status}
    (hlength : kernelLength addresses = .ok length) (hanswer : answer = .error e) :
    placeKernel kernelVec addresses answer fw = .ok (.error Status.loadError) fw := by
  simp [placeKernel, hlength, hanswer, allocatePages]

/-- Granted pages at the load address, and the placement. -/
theorem placeKernel_of_granted {length loaded : UInt32} {granted : UInt64}
    (hlength : kernelLength addresses = .ok length) (hanswer : answer = .ok granted)
    (hloaded : subU32 addresses.loadEndAddress addresses.loadAddress = .ok loaded) :
    placeKernel kernelVec addresses answer fw =
      .ok (.ok (addresses.loadAddress.toUInt64, length.toUInt64 / 4096 + 1))
        ({ fw with allocated :=
            ⟨addresses.loadAddress.toUInt64, length.toUInt64 / 4096 + 1⟩ :: fw.allocated }.write
          addresses.loadAddress.toUInt64
          (segment kernelVec addresses.loadOffset.toNat loaded.toNat length.toNat)) := by
  simp only [placeKernel, hlength, hanswer, allocatePages, bind_apply, ofExcept_ok, hloaded]
  rfl

/-- Granted pages at the load address, and the subtraction of line 71 overflows. -/
theorem placeKernel_of_granted_overflow {length : UInt32} {granted : UInt64} {p : Panic}
    (hlength : kernelLength addresses = .ok length) (hanswer : answer = .ok granted)
    (hloaded : subU32 addresses.loadEndAddress addresses.loadAddress = .error p) :
    placeKernel kernelVec addresses answer fw =
      .error p { fw with allocated :=
        ⟨addresses.loadAddress.toUInt64, length.toUInt64 / 4096 + 1⟩ :: fw.allocated } := by
  simp only [placeKernel, hlength, hanswer, allocatePages, bind_apply, ofExcept_ok, hloaded,
    ofExcept_error]

theorem prepareEntry_of_read_error {e : Status} (h : volume entry.image = .error e) :
    prepareEntry entry volume parse answer fw = .ok (.error e) fw := by
  simp [prepareEntry, h]

theorem prepareEntry_of_parse_error {e : ε} (hread : volume entry.image = .ok kernelVec)
    (h : parse kernelVec = .error e) :
    prepareEntry entry volume parse answer fw = .ok (.error Status.loadError) fw := by
  simp [prepareEntry, hread, h]

theorem prepareEntry_of_elf {metadata : Metadata} (hread : volume entry.image = .ok kernelVec)
    (hparse : parse kernelVec = .ok metadata) (h : metadata.addresses = .elf) :
    prepareEntry entry volume parse answer fw = .error (.todo "handle ELF addresses") fw := by
  simp [prepareEntry, hread, hparse, h]

/-- With a Multiboot header, `prepare_entry` is the placement followed by the
module reads. -/
theorem prepareEntry_of_multiboot {metadata : Metadata}
    (hread : volume entry.image = .ok kernelVec) (hparse : parse kernelVec = .ok metadata)
    (h : metadata.addresses = .multiboot addresses) :
    prepareEntry entry volume parse answer fw =
      match placeKernel kernelVec addresses answer fw with
      | .error p fw' => .error p fw'
      | .ok (.error e) fw' => .ok (.error e) fw'
      | .ok (.ok (kernelPtr, kernelPages)) fw' =>
        .ok ((readModules volume entry.modules).map
          fun modulesVec => ⟨entry, kernelPtr, kernelPages, metadata, modulesVec⟩) fw' := by
  simp only [prepareEntry, hread, hparse, h, bind_apply]
  rcases placeKernel kernelVec addresses answer fw with ⟨_ | ⟨kernelPtr, kernelPages⟩, fw'⟩ | _
  · rfl
  · cases readModules volume entry.modules <;> rfl
  · rfl

end Paths

/-! ## Pages -/

/-- Dropping a prepared entry whose pages are the last allocation gives back the
allocations from before. -/
theorem PreparedEntry.drop_of_allocated {p : PreparedEntry} {fw : Firmware}
    {before : List PageRange} (h : fw.allocated = ⟨p.kernelPtr, p.kernelPages⟩ :: before)
    (hpages : p.kernelPages ≠ 0) :
    p.drop fw = .ok () { fw with allocated := before } := by
  simp only [drop, bind_apply, freePages_of_head h hpages, expect_ok]

/-- The memory map buffer of `boot`, never empty: it panics above `isize::MAX`
bytes, and when the global allocator refuses it. -/
theorem zeroedVec_of_toNat {length : UInt64} {n : ℕ} (h : length.toNat = n + 100)
    (granted : Bool) :
    zeroedVec length granted =
      if n + 100 < 2 ^ 63 then (if granted then .ok () else .error .allocError)
      else .error (.message "capacity overflow") := by
  have hne : length ≠ 0 := fun h0 => by simp [h0] at h
  by_cases hsmall : n + 100 < 2 ^ 63
  · simp only [zeroedVec, hne, if_false, if_pos hsmall, h, if_neg (Nat.not_le.mpr hsmall)]
  · simp only [zeroedVec, hne, if_false, if_neg hsmall, h, if_pos (Nat.le_of_not_lt hsmall)]

/-- `boot` of a Multiboot entry: the jump to its entry address, unless the size of
the memory map buffer overflows, the buffer cannot be allocated, or exiting boot
services fails. -/
theorem PreparedEntry.boot_of_multiboot {p : PreparedEntry} {addresses : MultibootAddresses}
    (h : p.metadata.addresses = .multiboot addresses) (answers : ExitAnswers) (fw : Firmware) :
    p.boot answers fw =
      if answers.memoryMapSize.toNat + 100 < 2 ^ 64 then
        if answers.memoryMapSize.toNat + 100 < 2 ^ 63 then
          if answers.mapBufferGranted then
            match answers.exitBootServices with
            | .ok () => .ok addresses.entryAddress.toUInt64 fw
            | .error _ => .error (.expect "failed to exit boot services") fw
          else .error .allocError fw
        else .error (.message "capacity overflow") fw
      else .error .overflow fw := by
  rcases answers with ⟨size, granted, exit⟩
  by_cases hfit : size.toNat + 100 < 2 ^ 64
  · obtain ⟨c, hc, hcNat⟩ := addU64_of_lt (a := size) (b := 100) hfit
    rw [if_pos hfit]
    have hvec := zeroedVec_of_toNat (hcNat.trans (by rfl)) granted
    by_cases hsmall : size.toNat + 100 < 2 ^ 63
    · cases granted <;> cases exit <;>
        simp only [boot, hc, hvec, h, bind_apply, ofExcept_ok, ofExcept_error, expect_ok,
          expect_error, pure_apply, if_pos hsmall, if_true, if_false, Bool.false_eq_true]
    · simp only [boot, hc, hvec, bind_apply, ofExcept_ok, ofExcept_error, if_neg hsmall]
  · have hc : addU64 size 100 = .error .overflow := addU64_eq_error.mpr ⟨Nat.le_of_not_lt hfit, rfl⟩
    simp only [boot, hc, bind_apply, ofExcept_error, if_neg hfit]

section Returns

variable {ε : Type} {entry : Entry} {volume : Volume} {parse : List UInt8 → Except ε Metadata}
  {answer : Except Status UInt64} {fw fw' : Firmware}

/-- `kernel_pages` is never zero. -/
theorem kernelPages_ne_zero (length : UInt32) : length.toUInt64 / 4096 + 1 ≠ 0 := fun h => by
  have hpages := toNat_kernelPages length
  rw [h] at hpages
  exact Nat.succ_ne_zero _ hpages.symm

/-- With a Multiboot header and the pages granted, a returning `prepare_entry` has
allocated the kernel's `length / 4096 + 1` pages at the load address, and its
result is that of the module reads. -/
theorem prepareEntry_of_granted {kernelVec : List UInt8} {metadata : Metadata}
    {addresses : MultibootAddresses} {granted : UInt64} {r : Except Status PreparedEntry}
    (hread : volume entry.image = .ok kernelVec) (hparse : parse kernelVec = .ok metadata)
    (hmd : metadata.addresses = .multiboot addresses) (hanswer : answer = .ok granted)
    (h : prepareEntry entry volume parse answer fw = .ok r fw') :
    ∃ length, kernelLength addresses = .ok length ∧
      fw'.allocated = ⟨addresses.loadAddress.toUInt64, length.toUInt64 / 4096 + 1⟩ :: fw.allocated ∧
      r = (readModules volume entry.modules).map fun modulesVec =>
        ⟨entry, addresses.loadAddress.toUInt64, length.toUInt64 / 4096 + 1, metadata, modulesVec⟩ := by
  rw [prepareEntry_of_multiboot hread hparse hmd] at h
  rcases hlength : kernelLength addresses with q | length
  · simp [placeKernel_of_kernelLength_error hlength] at h
  rcases hloaded : subU32 addresses.loadEndAddress addresses.loadAddress with q | loaded
  · simp [placeKernel_of_granted_overflow hlength hanswer hloaded] at h
  · rw [placeKernel_of_granted hlength hanswer hloaded, EStateM.Result.ok.injEq] at h
    obtain ⟨rfl, rfl⟩ := h
    exact ⟨length, rfl, rfl, rfl⟩

/-- Every return of `prepare_entry`: an error with the machine untouched, or a
kernel with a Multiboot header whose `length / 4096 + 1` pages were granted and
allocated at the load address, and the result of the module reads. -/
theorem prepareEntry_ok_cases {r : Except Status PreparedEntry}
    (h : prepareEntry entry volume parse answer fw = .ok r fw') :
    (fw' = fw ∧ ∃ e, r = .error e) ∨
    ∃ kernelVec metadata addresses granted length, volume entry.image = .ok kernelVec ∧
      parse kernelVec = .ok metadata ∧ metadata.addresses = .multiboot addresses ∧
      answer = .ok granted ∧ kernelLength addresses = .ok length ∧
      fw'.allocated = ⟨addresses.loadAddress.toUInt64, length.toUInt64 / 4096 + 1⟩ :: fw.allocated ∧
      r = (readModules volume entry.modules).map fun modulesVec =>
        ⟨entry, addresses.loadAddress.toUInt64, length.toUInt64 / 4096 + 1, metadata, modulesVec⟩ := by
  rcases hread : volume entry.image with e | kernelVec
  · simp only [prepareEntry_of_read_error hread, EStateM.Result.ok.injEq] at h
    exact .inl ⟨h.2.symm, e, h.1.symm⟩
  rcases hparse : parse kernelVec with e | metadata
  · simp only [prepareEntry_of_parse_error hread hparse, EStateM.Result.ok.injEq] at h
    exact .inl ⟨h.2.symm, _, h.1.symm⟩
  rcases hmd : metadata.addresses with addresses | _
  · rcases hanswer : answer with e | granted
    · rw [prepareEntry_of_multiboot hread hparse hmd] at h
      rcases hlength : kernelLength addresses with q | length
      · simp [placeKernel_of_kernelLength_error hlength] at h
      simp only [placeKernel_of_refused hlength hanswer, EStateM.Result.ok.injEq] at h
      exact .inl ⟨h.2.symm, _, h.1.symm⟩
    · obtain ⟨length, hlength, halloc, hr⟩ := prepareEntry_of_granted hread hparse hmd hanswer h
      exact .inr ⟨kernelVec, metadata, addresses, granted, length, rfl, hparse, hmd, rfl,
        hlength, halloc, hr⟩
  · simp [prepareEntry_of_elf hread hparse hmd] at h

/-- A successful `prepare_entry` has allocated exactly the kernel's pages at the
load address, and dropping its result gives them back. -/
theorem prepareEntry_ok_allocates {p : PreparedEntry}
    (h : prepareEntry entry volume parse answer fw = .ok (.ok p) fw') :
    fw'.allocated = ⟨p.kernelPtr, p.kernelPages⟩ :: fw.allocated ∧
      (∃ addresses, p.metadata.addresses = .multiboot addresses ∧
        p.kernelPtr = addresses.loadAddress.toUInt64) ∧
      p.drop fw' = .ok () { fw' with allocated := fw.allocated } := by
  rcases prepareEntry_ok_cases h with ⟨-, e, he⟩ |
    ⟨-, metadata, addresses, -, length, -, -, hmd, -, -, halloc, hr⟩
  · cases he
  · rcases hmods : readModules volume entry.modules with e | modulesVec <;>
      rw [hmods] at hr <;> cases hr
    exact ⟨halloc, ⟨addresses, hmd, rfl⟩,
      PreparedEntry.drop_of_allocated halloc (kernelPages_ne_zero length)⟩

theorem prepareEntry_ok_allocates_four_byte_kernel :
    prepareEntry ⟨"kernel", none⟩ (fun _ => .ok [1, 2, 3, 4])
        (fun _ => (.ok ⟨.multiboot ⟨1048576, 1048580, 0, 1048576, 0⟩⟩ : Except Unit Metadata))
        (.ok 1048576) ⟨[], fun _ => 0⟩ =
      .ok (.ok ⟨⟨"kernel", none⟩, 1048576, 1,
          ⟨.multiboot ⟨1048576, 1048580, 0, 1048576, 0⟩⟩, []⟩)
        (Firmware.write ⟨[⟨1048576, 1⟩], fun _ => 0⟩ 1048576 (segment [1, 2, 3, 4] 0 4 4)) ∧
    (Firmware.write ⟨[⟨1048576, 1⟩], fun _ => 0⟩ 1048576 (segment [1, 2, 3, 4] 0 4 4)).allocated =
      [⟨1048576, 1⟩] ∧
    (∃ addresses, Addresses.multiboot ⟨1048576, 1048580, 0, 1048576, 0⟩ = .multiboot addresses ∧
      (1048576 : UInt64) = addresses.loadAddress.toUInt64) ∧
    PreparedEntry.drop
        ⟨⟨"kernel", none⟩, 1048576, 1, ⟨.multiboot ⟨1048576, 1048580, 0, 1048576, 0⟩⟩, []⟩
        (Firmware.write ⟨[⟨1048576, 1⟩], fun _ => 0⟩ 1048576 (segment [1, 2, 3, 4] 0 4 4)) =
      .ok () { Firmware.write ⟨[⟨1048576, 1⟩], fun _ => 0⟩ 1048576 (segment [1, 2, 3, 4] 0 4 4) with
        allocated := [] } := by
  refine ⟨?run, prepareEntry_ok_allocates ?run⟩
  rfl

/-- A failed `prepare_entry` frees nothing. When the kernel has a Multiboot header
and its pages are granted, the error can only be a module that cannot be read,
and the kernel's pages stay allocated; after any other failure the allocations
are as they were. -/
theorem prepareEntry_error_allocations {e : Status}
    (h : prepareEntry entry volume parse answer fw = .ok (.error e) fw') :
    (∀ kernelVec metadata addresses granted, volume entry.image = .ok kernelVec →
      parse kernelVec = .ok metadata → metadata.addresses = .multiboot addresses →
      answer = .ok granted →
      readModules volume entry.modules = .error e ∧
        ∃ kernelPages, fw'.allocated = ⟨addresses.loadAddress.toUInt64, kernelPages⟩ :: fw.allocated) ∧
    ((¬∃ kernelVec metadata addresses granted, volume entry.image = .ok kernelVec ∧
        parse kernelVec = .ok metadata ∧ metadata.addresses = .multiboot addresses ∧
        answer = .ok granted) →
      fw'.allocated = fw.allocated) := by
  refine ⟨fun kernelVec metadata addresses granted hread hparse hmd hanswer => ?_, fun hnot => ?_⟩
  · obtain ⟨length, -, halloc, hr⟩ := prepareEntry_of_granted hread hparse hmd hanswer h
    rcases hmods : readModules volume entry.modules with e' | modulesVec <;>
      rw [hmods] at hr <;> cases hr
    exact ⟨rfl, _, halloc⟩
  · rcases prepareEntry_ok_cases h with ⟨rfl, -⟩ |
      ⟨kernelVec, metadata, addresses, granted, -, hread, hparse, hmd, hanswer, -⟩
    · rfl
    · exact absurd ⟨kernelVec, metadata, addresses, granted, hread, hparse, hmd, hanswer⟩ hnot

theorem prepareEntry_error_allocations_missing_module :
    prepareEntry ⟨"kernel", some [⟨"a"⟩, ⟨"b"⟩]⟩
        (fun path => if path = "b" then .error Status.notFound else .ok [1, 2, 3, 4])
        (fun _ => (.ok ⟨.multiboot ⟨1048576, 1048580, 0, 1048576, 0⟩⟩ : Except Unit Metadata))
        (.ok 1048576) ⟨[], fun _ => 0⟩ =
      .ok (.error Status.notFound)
        (Firmware.write ⟨[⟨1048576, 1⟩], fun _ => 0⟩ 1048576 (segment [1, 2, 3, 4] 0 4 4)) ∧
    (∀ kernelVec metadata addresses granted,
      (fun path => if path = "b" then .error Status.notFound else .ok [1, 2, 3, 4] : Volume)
          "kernel" = .ok kernelVec →
      (fun _ => (.ok ⟨.multiboot ⟨1048576, 1048580, 0, 1048576, 0⟩⟩ : Except Unit Metadata))
          kernelVec = .ok metadata →
      metadata.addresses = .multiboot addresses →
      (.ok 1048576 : Except Status UInt64) = .ok granted →
      readModules (fun path => if path = "b" then .error Status.notFound else .ok [1, 2, 3, 4])
          (some [⟨"a"⟩, ⟨"b"⟩]) = .error Status.notFound ∧
        ∃ kernelPages,
          (Firmware.write ⟨[⟨1048576, 1⟩], fun _ => 0⟩ 1048576
              (segment [1, 2, 3, 4] 0 4 4)).allocated =
            [⟨addresses.loadAddress.toUInt64, kernelPages⟩]) ∧
    ((¬∃ kernelVec metadata addresses granted,
        (fun path => if path = "b" then .error Status.notFound else .ok [1, 2, 3, 4] : Volume)
            "kernel" = .ok kernelVec ∧
        (fun _ => (.ok ⟨.multiboot ⟨1048576, 1048580, 0, 1048576, 0⟩⟩ : Except Unit Metadata))
            kernelVec = .ok metadata ∧
        metadata.addresses = .multiboot addresses ∧
        (.ok 1048576 : Except Status UInt64) = .ok granted) →
      (Firmware.write ⟨[⟨1048576, 1⟩], fun _ => 0⟩ 1048576 (segment [1, 2, 3, 4] 0 4 4)).allocated =
        []) := by
  refine ⟨?run, prepareEntry_error_allocations ?run⟩
  rfl

/-- Booting what `prepare_entry` prepared. The kernel's file had a Multiboot
header, so `boot` never stops at the `todo!` for ELF kernels: on the machine as
`prepare_entry` left it, with the kernel's pages still allocated at the load
address, it jumps to the header's entry address, and panics only when
`memory_map_size() + 100` overflows, when the buffer of that many bytes exceeds
`isize::MAX` or the global allocator refuses it, or when exiting boot services
fails. -/
theorem PreparedEntry.boot_of_prepareEntry {p : PreparedEntry}
    (h : prepareEntry entry volume parse answer fw = .ok (.ok p) fw') (answers : ExitAnswers) :
    ∃ kernelVec metadata addresses, volume entry.image = .ok kernelVec ∧
      parse kernelVec = .ok metadata ∧ metadata.addresses = .multiboot addresses ∧
      (⟨addresses.loadAddress.toUInt64, p.kernelPages⟩ : PageRange) ∈ fw'.allocated ∧
      p.boot answers fw' =
        if answers.memoryMapSize.toNat + 100 < 2 ^ 64 then
          if answers.memoryMapSize.toNat + 100 < 2 ^ 63 then
            if answers.mapBufferGranted then
              match answers.exitBootServices with
              | .ok () => .ok addresses.entryAddress.toUInt64 fw'
              | .error _ => .error (.expect "failed to exit boot services") fw'
            else .error .allocError fw'
          else .error (.message "capacity overflow") fw'
        else .error .overflow fw' := by
  rcases prepareEntry_ok_cases h with ⟨-, e, he⟩ |
    ⟨kernelVec, metadata, addresses, -, length, hread, hparse, hmd, -, -, halloc, hr⟩
  · cases he
  · rcases hmods : readModules volume entry.modules with e | modulesVec <;>
      rw [hmods] at hr <;> cases hr
    exact ⟨kernelVec, metadata, addresses, hread, hparse, hmd,
      halloc ▸ List.mem_cons_self _ _, PreparedEntry.boot_of_multiboot hmd answers fw'⟩

theorem PreparedEntry.boot_of_prepareEntry_four_byte_kernel :
    prepareEntry ⟨"kernel", none⟩ (fun _ => .ok [1, 2, 3, 4])
        (fun _ => (.ok ⟨.multiboot ⟨1048576, 1048580, 0, 1048576, 0⟩⟩ : Except Unit Metadata))
        (.ok 1048576) ⟨[], fun _ => 0⟩ =
      .ok (.ok ⟨⟨"kernel", none⟩, 1048576, 1,
          ⟨.multiboot ⟨1048576, 1048580, 0, 1048576, 0⟩⟩, []⟩)
        (Firmware.write ⟨[⟨1048576, 1⟩], fun _ => 0⟩ 1048576 (segment [1, 2, 3, 4] 0 4 4)) ∧
    ∃ kernelVec metadata addresses, (.ok [1, 2, 3, 4] : Except Status (List UInt8)) = .ok kernelVec ∧
      (.ok ⟨.multiboot ⟨1048576, 1048580, 0, 1048576, 0⟩⟩ : Except Unit Metadata) = .ok metadata ∧
      metadata.addresses = .multiboot addresses ∧
      (⟨addresses.loadAddress.toUInt64, 1⟩ : PageRange) ∈
        (Firmware.write ⟨[⟨1048576, 1⟩], fun _ => 0⟩ 1048576 (segment [1, 2, 3, 4] 0 4 4)).allocated ∧
      PreparedEntry.boot
          ⟨⟨"kernel", none⟩, 1048576, 1, ⟨.multiboot ⟨1048576, 1048580, 0, 1048576, 0⟩⟩, []⟩
          ⟨8192, true, .ok ()⟩
          (Firmware.write ⟨[⟨1048576, 1⟩], fun _ => 0⟩ 1048576 (segment [1, 2, 3, 4] 0 4 4)) =
        if (8192 : UInt64).toNat + 100 < 2 ^ 64 then
          if (8192 : UInt64).toNat + 100 < 2 ^ 63 then
            if true then
              match (.ok () : Except Status Unit) with
              | .ok () => .ok addresses.entryAddress.toUInt64
                  (Firmware.write ⟨[⟨1048576, 1⟩], fun _ => 0⟩ 1048576 (segment [1, 2, 3, 4] 0 4 4))
              | .error _ => .error (.expect "failed to exit boot services")
                  (Firmware.write ⟨[⟨1048576, 1⟩], fun _ => 0⟩ 1048576 (segment [1, 2, 3, 4] 0 4 4))
            else .error .allocError
              (Firmware.write ⟨[⟨1048576, 1⟩], fun _ => 0⟩ 1048576 (segment [1, 2, 3, 4] 0 4 4))
          else .error (.message "capacity overflow")
            (Firmware.write ⟨[⟨1048576, 1⟩], fun _ => 0⟩ 1048576 (segment [1, 2, 3, 4] 0 4 4))
        else .error .overflow
          (Firmware.write ⟨[⟨1048576, 1⟩], fun _ => 0⟩ 1048576 (segment [1, 2, 3, 4] 0 4 4)) := by
  refine ⟨?run, PreparedEntry.boot_of_prepareEntry ?run ⟨8192, true, .ok ()⟩⟩
  rfl

end Returns

/-- Module 2 of 3 cannot be read: `prepare_entry` returns its status, and the
kernel's page at 1 MiB, which no `PreparedEntry` owns, stays allocated. -/
theorem prepareEntry_leaks_kernel_pages :
    ∃ fw', prepareEntry ⟨"kernel", some [⟨"a"⟩, ⟨"b"⟩, ⟨"c"⟩]⟩
        (fun path => if path = "b" then .error Status.notFound else .ok [1, 2, 3, 4])
        (fun _ => (.ok ⟨.multiboot ⟨1048576, 1048580, 0, 1048576, 0⟩⟩ : Except Unit Metadata))
        (.ok 1048576) ⟨[], fun _ => 0⟩ = .ok (.error Status.notFound) fw' ∧
      fw'.allocated = [⟨1048576, 1⟩] :=
  ⟨_, rfl, rfl⟩

/-! ## When `prepare_entry` returns -/

/-- An ELF header stops at `todo!`, and a header whose loaded segment ends below
its load address panics on the subtraction of line 52. -/
theorem prepareEntry_panics_on_elf_or_reversed_header :
    prepareEntry ⟨"kernel", none⟩ (fun _ => .ok [])
        (fun _ => (.ok ⟨.elf⟩ : Except Unit Metadata)) (.ok 1048576) ⟨[], fun _ => 0⟩ =
      .error (.todo "handle ELF addresses") ⟨[], fun _ => 0⟩ ∧
    prepareEntry ⟨"kernel", none⟩ (fun _ => .ok [])
        (fun _ => (.ok ⟨.multiboot ⟨1048576, 4096, 0, 1048576, 0⟩⟩ : Except Unit Metadata))
        (.ok 1048576) ⟨[], fun _ => 0⟩ =
      .error .overflow ⟨[], fun _ => 0⟩ :=
  ⟨rfl, rfl⟩

/-! ## Where the kernel is placed -/

/-- The placement. With a header in order and the pages at the load address
granted, `prepare_entry` returns having allocated `kernel_pages` pages at the load
address `A`, of which the kernel's length `L` fits strictly inside, and having
written exactly the `L` bytes from `A` on: byte `i` is file byte
`load_offset + i` while `i` is below `load_end - A` (zero past the end of the
file), and zero from there on. -/
theorem prepareEntry_places_kernel {ε : Type} {entry : Entry} {volume : Volume}
    {parse : List UInt8 → Except ε Metadata} {answer : Except Status UInt64} {fw : Firmware}
    {kernelVec : List UInt8} {metadata : Metadata} {addresses : MultibootAddresses}
    {granted : UInt64} (hread : volume entry.image = .ok kernelVec)
    (hparse : parse kernelVec = .ok metadata) (hmd : metadata.addresses = .multiboot addresses)
    (hordered : addresses.Ordered) (hanswer : answer = .ok granted) :
    ∃ r fw' kernelPages, prepareEntry entry volume parse answer fw = .ok r fw' ∧
      fw'.allocated = ⟨addresses.loadAddress.toUInt64, kernelPages⟩ :: fw.allocated ∧
      addresses.length < kernelPages.toNat * 4096 ∧
      ∀ x, fw'.memory x =
        if addresses.loadAddress.toNat ≤ x ∧ x < addresses.loadAddress.toNat + addresses.length then
          (if x - addresses.loadAddress.toNat <
              addresses.loadEndAddress.toNat - addresses.loadAddress.toNat then
            kernelVec.getD (addresses.loadOffset.toNat + (x - addresses.loadAddress.toNat)) 0
          else 0)
        else fw.memory x := by
  obtain ⟨length, hlength, hlen⟩ := kernelLength_of_ordered hordered
  obtain ⟨loaded, hloaded, hloadedNat⟩ := subU32_of_le hordered.1
  rw [prepareEntry_of_multiboot hread hparse hmd, placeKernel_of_granted hlength hanswer hloaded]
  refine ⟨_, _, length.toUInt64 / 4096 + 1, rfl, rfl, ?_, fun x => ?_⟩
  · rw [toNat_kernelPages, ← hlen]
    omega
  · simp only [Firmware.write, UInt32.toUInt64_toNat]
    have hlenSeg := length_segment kernelVec addresses.loadOffset.toNat loaded.toNat length.toNat
    by_cases hx : addresses.loadAddress.toNat ≤ x ∧ x < addresses.loadAddress.toNat + addresses.length
    · obtain ⟨i, rfl⟩ : ∃ i, x = addresses.loadAddress.toNat + i :=
        ⟨x - addresses.loadAddress.toNat, by omega⟩
      have hi : i < length.toNat := by omega
      rw [if_pos hx, Memory.write_apply_add (by rw [hlenSeg]; exact hi), getD_segment _ _ _ _ hi,
        Nat.add_sub_cancel_left, hloadedNat]
    · rw [if_neg hx, Memory.write_apply_of_not_mem (by rw [hlenSeg, hlen]; exact hx)]

theorem prepareEntry_places_kernel_with_bss :
    (fun _ => .ok [1, 2, 3] : Volume) "kernel" = .ok [1, 2, 3] ∧
    ((fun _ => .ok ⟨.multiboot ⟨4096, 4100, 4104, 4096, 1⟩⟩ : List UInt8 → Except Unit Metadata)
        [1, 2, 3] = .ok ⟨.multiboot ⟨4096, 4100, 4104, 4096, 1⟩⟩) ∧
    (⟨.multiboot ⟨4096, 4100, 4104, 4096, 1⟩⟩ : Metadata).addresses =
      .multiboot ⟨4096, 4100, 4104, 4096, 1⟩ ∧
    (⟨4096, 4100, 4104, 4096, 1⟩ : MultibootAddresses).Ordered ∧
    (.ok 4096 : Except Status UInt64) = .ok 4096 ∧
    ∃ r fw' kernelPages, prepareEntry ⟨"kernel", none⟩ (fun _ => .ok [1, 2, 3])
        (fun _ => (.ok ⟨.multiboot ⟨4096, 4100, 4104, 4096, 1⟩⟩ : Except Unit Metadata))
        (.ok 4096) ⟨[], fun _ => 0⟩ = .ok r fw' ∧
      fw'.allocated = ⟨(4096 : UInt32).toUInt64, kernelPages⟩ :: [] ∧
      (⟨4096, 4100, 4104, 4096, 1⟩ : MultibootAddresses).length < kernelPages.toNat * 4096 ∧
      ∀ x, fw'.memory x =
        if (4096 : UInt32).toNat ≤ x ∧
            x < (4096 : UInt32).toNat + (⟨4096, 4100, 4104, 4096, 1⟩ : MultibootAddresses).length
        then
          (if x - (4096 : UInt32).toNat < (4100 : UInt32).toNat - (4096 : UInt32).toNat then
            [1, 2, 3].getD ((1 : UInt32).toNat + (x - (4096 : UInt32).toNat)) 0
          else 0)
        else (fun _ => (0 : UInt8)) x :=
  ⟨rfl, rfl, rfl, by decide, rfl,
    @prepareEntry_places_kernel Unit ⟨"kernel", none⟩ (fun _ => .ok [1, 2, 3])
      (fun _ => .ok ⟨.multiboot ⟨4096, 4100, 4104, 4096, 1⟩⟩) (.ok 4096) ⟨[], fun _ => 0⟩
      [1, 2, 3] ⟨.multiboot ⟨4096, 4100, 4104, 4096, 1⟩⟩ ⟨4096, 4100, 4104, 4096, 1⟩ 4096
      rfl rfl rfl (by decide) rfl⟩

end Towboot
