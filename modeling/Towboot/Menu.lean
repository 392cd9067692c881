import Towboot.Boot
import Mathlib.Data.Nat.Digits
import Mathlib.Data.Stream.Defs

/-!
# The boot menu

`display_menu` lists the entries of the configuration in key order, each with
its index and its key, and `select_entry` reads a line: printable keys are
appended, backspace deletes the last character, Enter ends the line. The line is
then looked up twice over: a line that `usize::from_str` accepts is an index into
the entries, and only any other line is a key. The comment before the lookup
promises selection by both index and key. Typing the index of a listed entry
always selects it. Typing its key does exactly when the key is no decimal
numeral: a key such as `1` is taken for an index.

The firmware's keyboard is a list of what each turn of the loop of
`select_entry` gets from it, and its console a stream of answers to the menu's
writes, each of which is unwrapped. Every statement holds for every key sequence,
and a refused write only ever ends the menu in a panic.
-/

namespace Towboot

/-! ## The console and the keyboard -/

/-- `uefi::proto::console::text::Key`. -/
inductive Key where
  | printable (c : Char)
  | special (scanCode : UInt16)
  deriving DecidableEq, Repr

/-- What one turn of the loop of `select_entry` gets from the firmware: the status
that `wait_for_event` or `read_key` failed with, or the key read, if any. -/
abbrev KeyRead := Except Status (Option Key)

/-- The firmware's answers to the menu's writes to `stdout`, in order: whether
each `write!` or `writeln!` succeeds. -/
abbrev Console := Stream' Bool

namespace Console

/-- One `write!` or `writeln!` and its `unwrap()`, which panics when the write fails. -/
def write (console : Console) : Except Panic Console :=
  if console.head then .ok console.tail else .error .unwrap

/-- `n` lines written one after another. -/
def writeLines (console : Console) : ℕ → Except Panic Console
  | 0 => .ok console
  | n + 1 => console.write >>= (writeLines · n)

/-- A console that accepts every write. -/
def accepting : Console := Stream'.const true

@[simp] theorem write_accepting : accepting.write = .ok accepting := rfl

@[simp] theorem writeLines_accepting (n : ℕ) : accepting.writeLines n = .ok accepting := by
  induction n with
  | zero => rfl
  | succ n ih => simp only [writeLines, write_accepting, Except.ok_bind, ih]

/-- Some write is refused. -/
def Refuses (console : Console) : Prop := ∃ n, console.get n = false

/-- `console'` is what remains of `console` after some writes. -/
def Follows (console' console : Console) : Prop := ∃ k, ∀ n, console'.get n = console.get (n + k)

theorem Follows.refl (console : Console) : console.Follows console := ⟨0, fun _ => rfl⟩

theorem Follows.trans {c₁ c₂ c₃ : Console} (h₁₂ : c₁.Follows c₂) (h₂₃ : c₂.Follows c₃) :
    c₁.Follows c₃ := by
  obtain ⟨k, hk⟩ := h₁₂
  obtain ⟨k', hk'⟩ := h₂₃
  exact ⟨k + k', fun n => by rw [hk, hk', Nat.add_assoc]⟩

/-- A later console that refuses a write is part of one that does. -/
theorem Follows.refuses {console' console : Console} (h : console'.Follows console)
    (hrefuses : console'.Refuses) : console.Refuses := by
  obtain ⟨k, hk⟩ := h
  obtain ⟨n, hn⟩ := hrefuses
  exact ⟨n + k, (hk n).symm.trans hn⟩

theorem write_cases (console : Console) :
    (∀ p, console.write = .error p → p = .unwrap ∧ console.Refuses) ∧
      ∀ console', console.write = .ok console' → console'.Follows console := by
  unfold write
  split_ifs with hhead
  · refine ⟨fun _ h => (nomatch h), fun _ h => ?_⟩
    cases h
    exact ⟨1, fun _ => rfl⟩
  · refine ⟨fun _ h => ?_, fun _ h => (nomatch h)⟩
    cases h
    exact ⟨rfl, 0, by simpa using hhead⟩

theorem writeLines_cases (console : Console) (n : ℕ) :
    (∀ p, console.writeLines n = .error p → p = .unwrap ∧ console.Refuses) ∧
      ∀ console', console.writeLines n = .ok console' → console'.Follows console := by
  induction n generalizing console with
  | zero =>
    simp only [writeLines]
    refine ⟨fun _ h => (nomatch h), fun _ h => ?_⟩
    cases h
    exact Follows.refl _
  | succ n ih =>
    obtain ⟨herr, hok⟩ := write_cases console
    rcases hw : console.write with p | console₁
    · simp only [writeLines, hw, Except.error_bind]
      refine ⟨fun q h => ?_, fun _ h => (nomatch h)⟩
      cases h
      exact herr p hw
    · have hf := hok console₁ hw
      simp only [writeLines, hw, Except.ok_bind]
      exact ⟨fun p h => ⟨((ih console₁).1 p h).1, hf.refuses ((ih console₁).1 p h).2⟩,
        fun c h => ((ih console₁).2 c h).trans hf⟩

end Console

/-- How a part of the menu ends: `none` while it waits for a key, a panic, or its
result with the keys it has not read and the console answers still to come. -/
abbrev MenuResult (α : Type) := Option (Except Panic (α × List KeyRead × Console))

/-- What every part of the menu that reads keys does: it panics only at a write
the console refuses, and otherwise it has read at least one key and goes on with
a later console. -/
def EndsWell {α : Type} (console : Console) (keys : List KeyRead) :
    Except Panic (α × List KeyRead × Console) → Prop
  | .error p => p = .unwrap ∧ console.Refuses
  | .ok (_, rest, console') => rest.length < keys.length ∧ console'.Follows console

/-! ## Reading a line -/

/-- Lines 104-117 of `select_entry`: each turn writes the prompt, then reads a key
into `value`, until Enter. A failed firmware call ends the function with its
status; `none` means that the keys ran out and the loop waits. -/
def readValue (value : List Char) (console : Console) :
    List KeyRead → MenuResult (Except Status (List Char))
  | [] =>
    match console.write with
    | .error p => some (.error p)
    | .ok _ => none
  | key :: keys =>
    match console.write with
    | .error p => some (.error p)
    | .ok console =>
      match key with
      | .error e => some (.ok (.error e, keys, console))
      | .ok (some (.printable c)) =>
        if c = '\r' then some (.ok (.ok value, keys, console))
        else if c = '\x08' then readValue value.dropLast console keys
        else readValue (value ++ [c]) console keys
      | .ok _ => readValue value console keys

/-- The effect of one key on the line: a printable character is appended,
backspace deletes the last character, and any other key leaves the line as it is. -/
def typeKey (value : List Char) : Option Key → List Char
  | some (.printable c) => if c = '\x08' then value.dropLast else value ++ [c]
  | _ => value

/-- Enter, read from the keyboard. -/
def enterKey : KeyRead := .ok (some (.printable '\r'))

/-- Keys that are no Enter, each read without error, then Enter: on a console that
accepts the prompts, `select_entry`'s line is what the keys spell, and the keys
after Enter are left unread. -/
theorem readValue_typed (rest : List KeyRead) :
    ∀ (keys : List (Option Key)) (value : List Char), (∀ key ∈ keys, key ≠ some (.printable '\r')) →
      readValue value Console.accepting (keys.map .ok ++ enterKey :: rest) =
        some (.ok (.ok (keys.foldl typeKey value), rest, Console.accepting))
  | [], value, _ => by simp [readValue, enterKey]
  | key :: keys, value, hkeys => by
    have ih := readValue_typed rest keys
    have hkey : key ≠ some (.printable '\r') := hkeys key (List.mem_cons_self _ _)
    have hrest : ∀ key ∈ keys, key ≠ some (.printable '\r') :=
      fun k hk => hkeys k (List.mem_cons_of_mem _ hk)
    rcases key with _ | c | s
    · simpa [readValue] using ih value hrest
    · have hc : c ≠ '\r' := fun h => hkey (h ▸ rfl)
      by_cases hb : c = '\x08' <;> simp [readValue, typeKey, hc, hb, ih _ hrest]
    · simpa [readValue] using ih value hrest

/-- The step lemma of the line reader: it panics only at a refused prompt, and
returns having read a key. -/
theorem readValue_endsWell {value : List Char} {console : Console} {keys : List KeyRead}
    {x : Except Panic (Except Status (List Char) × List KeyRead × Console)}
    (h : readValue value console keys = some x) : EndsWell console keys x := by
  induction keys generalizing value console with
  | nil =>
    obtain ⟨herr, -⟩ := Console.write_cases console
    rcases hw : console.write with p | console₁ <;> simp only [readValue, hw] at h
    · cases h
      exact herr p hw
    · cases h
  | cons key keys ih =>
    obtain ⟨herr, hok⟩ := Console.write_cases console
    rcases hw : console.write with p | console₁ <;> simp only [readValue, hw] at h
    · cases h
      exact herr p hw
    have hf := hok console₁ hw
    have hnext : ∀ {value'}, readValue value' console₁ keys = some x → EndsWell console (key :: keys) x :=
      fun h' => by
        have := ih h'
        unfold EndsWell at this ⊢
        split at this
        · exact ⟨this.1, hf.refuses this.2⟩
        · exact ⟨Nat.lt_succ_of_lt this.1, this.2.trans hf⟩
    rcases key with e | _ | c | s
    · cases h
      exact ⟨Nat.lt_succ_self _, hf⟩
    · exact hnext h
    · dsimp only at h
      split_ifs at h
      · cases h
        exact ⟨Nat.lt_succ_self _, hf⟩
      · exact hnext h
      · exact hnext h
    · exact hnext h

/-! ## `usize::from_str` -/

/-- The digits of `usize::from_str` after any sign. `to_digit(10)` takes `'0'` to
`'9'`; the `checked_mul` and `checked_add` of a step fail exactly when the new
value reaches `2 ^ 64`. -/
def parseDigits (acc : ℕ) : List Char → Option ℕ
  | [] => some acc
  | c :: cs =>
    if c.isDigit ∧ acc * 10 + (c.toNat - '0'.toNat) < 2 ^ 64 then
      parseDigits (acc * 10 + (c.toNat - '0'.toNat)) cs
    else none

/-- `usize::from_str`: nothing, or a sign alone, is an error, and a leading `+` is
dropped (a `-` is no digit of an unsigned number). -/
def parseUsize : List Char → Option ℕ
  | [] => none
  | c :: digits =>
    if c = '+' then
      if digits = [] then none else parseDigits 0 digits
    else parseDigits 0 (c :: digits)

theorem parseDigits_append (l₁ l₂ : List Char) :
    ∀ acc, parseDigits acc (l₁ ++ l₂) = (parseDigits acc l₁).bind fun acc' => parseDigits acc' l₂ := by
  induction l₁ with
  | nil => intro acc; rfl
  | cons c cs ih =>
    intro acc
    simp only [List.cons_append, parseDigits]
    split_ifs
    · exact ih _
    · rfl

/-- A line of digits that `parseDigits` accepts is accepted as it is. -/
theorem parseUsize_of_parseDigits {value : List Char} {n : ℕ} (hne : value ≠ [])
    (h : parseDigits 0 value = some n) : parseUsize value = some n := by
  obtain ⟨c, cs, rfl⟩ := List.exists_cons_of_ne_nil hne
  have hc : c ≠ '+' := by
    rintro rfl
    simp [parseDigits] at h
  simp [parseUsize, hc, h]

/-! ## Decimal numerals -/

/-- `Nat.toDigits` keeps the digits it has produced behind the new ones. -/
theorem toDigitsCore_append (b : ℕ) :
    ∀ fuel n ds, Nat.toDigitsCore b fuel n ds = Nat.toDigitsCore b fuel n [] ++ ds
  | 0, _, _ => rfl
  | fuel + 1, n, ds => by
    simp only [Nat.toDigitsCore]
    split_ifs
    · rfl
    · rw [toDigitsCore_append b fuel _ (_ :: ds), toDigitsCore_append b fuel _ [_],
        List.append_assoc]
      rfl

/-- Any fuel above the number gives the same decimal digits. -/
theorem toDigitsCore_ten_fuel : ∀ (f₁ f₂ n : ℕ) (ds : List Char), n < f₁ → n < f₂ →
    Nat.toDigitsCore 10 f₁ n ds = Nat.toDigitsCore 10 f₂ n ds
  | 0, _, _, _, h₁, _ => absurd h₁ (Nat.not_lt_zero _)
  | _ + 1, 0, _, _, _, h₂ => absurd h₂ (Nat.not_lt_zero _)
  | f₁ + 1, f₂ + 1, n, ds, h₁, h₂ => by
    simp only [Nat.toDigitsCore]
    split_ifs
    · rfl
    · exact toDigitsCore_ten_fuel f₁ f₂ _ _ (by omega) (by omega)

theorem toDigits_ten_of_lt {n : ℕ} (h : n < 10) : Nat.toDigits 10 n = [Nat.digitChar n] := by
  simp [Nat.toDigits, Nat.toDigitsCore, Nat.div_eq_of_lt h, Nat.mod_eq_of_lt h]

/-- The decimal numeral of `n ≥ 10` is that of `n / 10` and one more digit. -/
theorem toDigits_ten_of_le {n : ℕ} (h : 10 ≤ n) :
    Nat.toDigits 10 n = Nat.toDigits 10 (n / 10) ++ [Nat.digitChar (n % 10)] := by
  have hdiv : n / 10 ≠ 0 := by omega
  conv_lhs => rw [Nat.toDigits, Nat.toDigitsCore]
  simp only [if_neg hdiv]
  rw [toDigitsCore_append, Nat.toDigits, toDigitsCore_ten_fuel n (n / 10 + 1) _ [] (by omega) (by omega)]

theorem toDigits_ten_ne_nil (n : ℕ) : Nat.toDigits 10 n ≠ [] := by
  by_cases h : n < 10
  · simp [toDigits_ten_of_lt h]
  · simp [toDigits_ten_of_le (Nat.le_of_not_lt h)]

theorem isDigit_digitChar {d : ℕ} (h : d < 10) : (Nat.digitChar d).isDigit = true := by
  interval_cases d <;> rfl

theorem toNat_digitChar_sub {d : ℕ} (h : d < 10) : (Nat.digitChar d).toNat - '0'.toNat = d := by
  interval_cases d <;> rfl

/-- `usize::from_str` reads back every decimal numeral below `2 ^ 64`. -/
theorem parseDigits_toDigits (n : ℕ) (hn : n < 2 ^ 64) : parseDigits 0 (Nat.toDigits 10 n) = some n := by
  induction n using Nat.strong_induction_on with
  | _ n ih =>
    by_cases hsmall : n < 10
    · rw [toDigits_ten_of_lt hsmall, parseDigits, toNat_digitChar_sub hsmall,
        if_pos ⟨isDigit_digitChar hsmall, by omega⟩]
      simp [parseDigits]
    · have hd := Nat.mod_lt n (by decide : 10 > 0)
      rw [toDigits_ten_of_le (by omega), parseDigits_append, ih (n / 10) (by omega) (by omega),
        Option.some_bind, parseDigits, toNat_digitChar_sub hd,
        if_pos ⟨isDigit_digitChar hd, by omega⟩, parseDigits]
      congr 1
      omega


/-! ## Selecting an entry -/

/-- `BTreeMap<String, Entry>`: the entries in increasing order of key, so each key
once, and no more of them than a `usize` counts. -/
structure EntryMap where
  entries : List (String × Entry)
  sorted : entries.Pairwise fun a b => a.1 < b.1
  length_lt : entries.length < 2 ^ 64

namespace EntryMap

/-- `BTreeMap::values`, in key order. -/
def values (m : EntryMap) : List Entry := m.entries.map Prod.snd

/-- `BTreeMap::get`. -/
def get (m : EntryMap) (key : String) : Option Entry :=
  (m.entries.find? fun kv => kv.1 = key).map Prod.snd

/-- In a list of strictly increasing keys, a key finds its own entry. -/
theorem find?_of_mem : ∀ {entries : List (String × Entry)} {key : String} {entry : Entry},
    entries.Pairwise (fun a b => a.1 < b.1) → (key, entry) ∈ entries →
      (entries.find? fun kv => kv.1 = key) = some (key, entry)
  | kv :: entries, key, entry, sorted, h => by
    obtain ⟨hlt, sorted⟩ := List.pairwise_cons.mp sorted
    rcases List.mem_cons.mp h with rfl | h
    · simp
    · have hne : kv.1 ≠ key := ne_of_lt (hlt _ h)
      simp [hne, find?_of_mem sorted h]

/-- A key of the map finds its own entry. -/
theorem get_of_mem {m : EntryMap} {key : String} {entry : Entry} (h : (key, entry) ∈ m.entries) :
    m.get key = some entry := by
  simp [get, find?_of_mem m.sorted h]

end EntryMap

/-- Lines 82-86 of `display_menu`: the entries as the menu lists them, each with
its index and its key. -/
def menuLines (m : EntryMap) : List (ℕ × String × Entry) := m.entries.enum

/-- Lines 120-122 of `select_entry`: the line as an index when `usize::from_str`
accepts it, as a key otherwise. -/
def findEntry (entries : EntryMap) (value : List Char) : Option Entry :=
  match parseUsize value with
  | some index => entries.values[index]?
  | none => entries.get (String.mk value)

/-- `select_entry`, with the keys it has not read: the entry, or the status of a
failed firmware call, or `INVALID_PARAMETER` for a line that names no entry. The
newline after Enter is written before the lookup. -/
def selectEntry (entries : EntryMap) (console : Console) (keys : List KeyRead) :
    MenuResult (Except Status Entry) :=
  (readValue [] console keys).map fun r => r >>= fun (line, rest, console) =>
    match line with
    | .error e => .ok (.error e, rest, console)
    | .ok value => console.write.map fun console =>
      (match findEntry entries value with
        | some entry => .ok entry
        | none => .error Status.invalidParameter, rest, console)

/-- The index of a listed entry finds it. -/
theorem findEntry_index {m : EntryMap} {i : ℕ} {key : String} {entry : Entry}
    (hline : (i, key, entry) ∈ menuLines m) : findEntry m (Nat.toDigits 10 i) = some entry := by
  have hget : m.entries[i]? = some (key, entry) := List.mem_enum_iff_getElem?.mp hline
  have hi : i < 2 ^ 64 := lt_trans (List.getElem?_eq_some_iff.mp hget).1 m.length_lt
  rw [findEntry, parseUsize_of_parseDigits (toDigits_ten_ne_nil i) (parseDigits_toDigits i hi)]
  simp [EntryMap.values, hget]

/-- The key of a listed entry finds it, unless `usize::from_str` accepts the key. -/
theorem findEntry_key {m : EntryMap} {i : ℕ} {key : String} {entry : Entry}
    (hline : (i, key, entry) ∈ menuLines m) (hparse : parseUsize key.toList = none) :
    findEntry m key.toList = some entry := by
  have hmem : (key, entry) ∈ m.entries :=
    List.mem_iff_getElem?.mpr ⟨i, List.mem_enum_iff_getElem?.mp hline⟩
  rw [findEntry, hparse]
  exact EntryMap.get_of_mem hmem

/-- A line that `usize::from_str` accepts is only ever an index. -/
theorem findEntry_of_parseUsize {m : EntryMap} {value : List Char} {index : ℕ}
    (hparse : parseUsize value = some index) : findEntry m value = m.values[index]? := by
  rw [findEntry, hparse]

/-- Keys that are no Enter, each read without error, then Enter: on a console that
accepts every write, `select_entry` looks up what they spell. -/
theorem selectEntry_typed (m : EntryMap) {keys : List (Option Key)}
    (hkeys : ∀ key ∈ keys, key ≠ some (.printable '\r')) (rest : List KeyRead) :
    selectEntry m Console.accepting (keys.map .ok ++ enterKey :: rest) =
      some (.ok (match findEntry m (keys.foldl typeKey []) with
        | some entry => .ok entry
        | none => .error Status.invalidParameter, rest, Console.accepting)) := by
  rw [selectEntry, readValue_typed rest keys [] hkeys]
  rfl

/-- What typing a listed line's index or key selects, on a console that accepts
every write. For the line `i. [key] entry` of the menu, keys that spell `i` and
then Enter select `entry`. Keys that spell `key` and then Enter select `entry`
when `usize::from_str` rejects `key`; when it reads `key` as a number `j`, they
select the `j`-th entry in key order, and are refused with `INVALID_PARAMETER`
when there is none. -/
theorem selectEntry_of_menuLine {m : EntryMap} {i : ℕ} {key : String} {entry : Entry}
    (hline : (i, key, entry) ∈ menuLines m) {keys : List (Option Key)}
    (hkeys : ∀ k ∈ keys, k ≠ some (.printable '\r')) (rest : List KeyRead) :
    (keys.foldl typeKey [] = Nat.toDigits 10 i →
      selectEntry m Console.accepting (keys.map .ok ++ enterKey :: rest) =
        some (.ok (.ok entry, rest, Console.accepting))) ∧
    (keys.foldl typeKey [] = key.toList → parseUsize key.toList = none →
      selectEntry m Console.accepting (keys.map .ok ++ enterKey :: rest) =
        some (.ok (.ok entry, rest, Console.accepting))) ∧
    (∀ j, keys.foldl typeKey [] = key.toList → parseUsize key.toList = some j →
      selectEntry m Console.accepting (keys.map .ok ++ enterKey :: rest) =
        some (.ok (match m.values[j]? with
          | some entry => .ok entry
          | none => .error Status.invalidParameter, rest, Console.accepting))) := by
  refine ⟨fun htyped => ?_, fun htyped hparse => ?_, fun j htyped hparse => ?_⟩
  · rw [selectEntry_typed m hkeys, htyped, findEntry_index hline]
  · rw [selectEntry_typed m hkeys, htyped, findEntry_key hline hparse]
  · rw [selectEntry_typed m hkeys, htyped, findEntry_of_parseUsize hparse]

/-- Two entries whose keys are the numerals `1` and `2`. -/
def numeralKeysMenu : EntryMap :=
  ⟨[("1", ⟨"a", none⟩), ("2", ⟨"b", none⟩)],
    List.pairwise_pair.mpr (String.lt_iff_toList_lt.mpr (by decide)), by decide⟩

theorem selectEntry_of_menuLine_second :
    (1, "2", (⟨"b", none⟩ : Entry)) ∈ menuLines numeralKeysMenu ∧
    (∀ k ∈ [some (Key.printable '1')], k ≠ some (.printable '\r')) ∧
    ([some (Key.printable '1')].foldl typeKey [] = Nat.toDigits 10 1 →
      selectEntry numeralKeysMenu Console.accepting
          ([some (Key.printable '1')].map .ok ++ [enterKey]) =
        some (.ok (.ok ⟨"b", none⟩, [], Console.accepting))) ∧
    ([some (Key.printable '1')].foldl typeKey [] = "2".toList → parseUsize "2".toList = none →
      selectEntry numeralKeysMenu Console.accepting
          ([some (Key.printable '1')].map .ok ++ [enterKey]) =
        some (.ok (.ok ⟨"b", none⟩, [], Console.accepting))) ∧
    (∀ j, [some (Key.printable '1')].foldl typeKey [] = "2".toList →
      parseUsize "2".toList = some j →
      selectEntry numeralKeysMenu Console.accepting
          ([some (Key.printable '1')].map .ok ++ [enterKey]) =
        some (.ok (match numeralKeysMenu.values[j]? with
          | some entry => .ok entry
          | none => .error Status.invalidParameter, [], Console.accepting))) := by
  refine ⟨?line, ?keys, selectEntry_of_menuLine ?line ?keys []⟩
  exacts [by decide, by decide]

/-- The menu lists `0. [1] a` and `1. [2] b`. Typing `1`, the key of `a`, selects
`b`, and typing `2`, the key of `b`, is refused with `INVALID_PARAMETER`: both
keys are read as indices. -/
theorem selectEntry_numeral_keys_read_as_indices :
    (0, "1", ⟨"a", none⟩) ∈ menuLines numeralKeysMenu ∧
    (1, "2", ⟨"b", none⟩) ∈ menuLines numeralKeysMenu ∧
    [some (.printable '1')].foldl typeKey [] = "1".toList ∧
    selectEntry numeralKeysMenu Console.accepting [.ok (some (.printable '1')), enterKey] =
      some (.ok (.ok ⟨"b", none⟩, [], Console.accepting)) ∧
    [some (.printable '2')].foldl typeKey [] = "2".toList ∧
    selectEntry numeralKeysMenu Console.accepting [.ok (some (.printable '2')), enterKey] =
      some (.ok (.error Status.invalidParameter, [], Console.accepting)) :=
  ⟨by decide, by decide, rfl, rfl, rfl, rfl⟩

/-! ## The selection loop -/

/-- The step lemma of `select_entry`: it panics only at a refused write, and
returns having read a key. -/
theorem selectEntry_endsWell {m : EntryMap} {console : Console} {keys : List KeyRead}
    {x : Except Panic (Except Status Entry × List KeyRead × Console)}
    (h : selectEntry m console keys = some x) : EndsWell console keys x := by
  obtain ⟨y, hread, rfl⟩ := Option.map_eq_some'.mp h
  have hy := readValue_endsWell hread
  rcases y with p | ⟨line, rest, console₁⟩
  · exact hy
  obtain ⟨hlt, hf⟩ := hy
  rcases line with e | value
  · exact ⟨hlt, hf⟩
  obtain ⟨herr, hok⟩ := Console.write_cases console₁
  rcases hw : console₁.write with p | console₂
  · simp only [Except.ok_bind, hw, Except.map]
    exact ⟨(herr p hw).1, hf.refuses (herr p hw).2⟩
  · simp only [Except.ok_bind, hw, Except.map]
    exact ⟨hlt, (hok console₂ hw).trans hf⟩

/-- Lines 87-94 of `display_menu`: `select_entry` again on the keys that follow,
after writing `invalid choice`, until it returns an entry. -/
def selectLoop (entries : EntryMap) (console : Console) (keys : List KeyRead) :
    Option (Except Panic Entry) :=
  match h : selectEntry entries console keys with
  | none => none
  | some (.error p) => some (.error p)
  | some (.ok (.ok entry, _, _)) => some (.ok entry)
  | some (.ok (.error _, rest, console')) =>
    match console'.write with
    | .error p => some (.error p)
    | .ok console'' =>
      have _hlt : rest.length < keys.length := (selectEntry_endsWell h).1
      selectLoop entries console'' rest
termination_by keys.length
decreasing_by exact _hlt

/-- One turn of the selection loop. -/
theorem selectLoop_eq (m : EntryMap) (console : Console) (keys : List KeyRead) :
    selectLoop m console keys =
      match selectEntry m console keys with
      | none => none
      | some (.error p) => some (.error p)
      | some (.ok (.ok entry, _, _)) => some (.ok entry)
      | some (.ok (.error _, rest, console')) =>
        match console'.write with
        | .error p => some (.error p)
        | .ok console'' => selectLoop m console'' rest := by
  rw [selectLoop]
  split <;> simp_all

/-- Lines typed one after another on a console that accepts every write: the menu
returns the entry of the first line that names one and skips every other. -/
theorem selectLoop_lines (m : EntryMap) (rest : List KeyRead) :
    ∀ lines : List (List (Option Key)),
      (∀ line ∈ lines, ∀ key ∈ line, key ≠ some (.printable '\r')) →
      selectLoop m Console.accepting
          ((lines.map fun line => line.map .ok ++ [enterKey]).flatten ++ rest) =
        ((lines.findSome? fun line => findEntry m (line.foldl typeKey [])).map .ok).or
          (selectLoop m Console.accepting rest)
  | [], _ => rfl
  | line :: lines, hlines => by
    have ih := selectLoop_lines m rest lines fun l hl => hlines l (List.mem_cons_of_mem _ hl)
    rw [List.map_cons, List.flatten_cons, List.append_assoc, List.append_assoc,
      List.singleton_append, selectLoop_eq, selectEntry_typed m (hlines line (List.mem_cons_self _ _)),
      List.findSome?_cons]
    cases findEntry m (line.foldl typeKey []) with
    | none => exact ih
    | some entry => rfl

theorem selectLoop_lines_refused_then_index :
    (∀ line ∈ [[some (Key.printable '9')], [some (Key.printable '0')]], ∀ key ∈ line,
      key ≠ some (.printable '\r')) ∧
    selectLoop numeralKeysMenu Console.accepting
        (([[some (Key.printable '9')], [some (Key.printable '0')]].map fun line =>
          line.map .ok ++ [enterKey]).flatten ++ []) =
      (([[some (Key.printable '9')], [some (Key.printable '0')]].findSome? fun line =>
        findEntry numeralKeysMenu (line.foldl typeKey [])).map .ok).or
        (selectLoop numeralKeysMenu Console.accepting []) := by
  refine ⟨?keys, selectLoop_lines numeralKeysMenu [] _ ?keys⟩
  decide

/-- Every entry the lookup finds is an entry of the map. -/
theorem findEntry_mem {m : EntryMap} {value : List Char} {entry : Entry}
    (h : findEntry m value = some entry) : entry ∈ m.values := by
  unfold findEntry at h
  split at h
  · exact List.getElem?_mem h
  · obtain ⟨kv, hfind, rfl⟩ := Option.map_eq_some'.mp h
    exact List.mem_map_of_mem _ (List.mem_of_find?_eq_some hfind)

/-- Every entry `select_entry` returns is an entry of the map. -/
theorem selectEntry_mem {m : EntryMap} {console console' : Console} {keys rest : List KeyRead}
    {entry : Entry} (h : selectEntry m console keys = some (.ok (.ok entry, rest, console'))) :
    entry ∈ m.values := by
  obtain ⟨y, -, hy⟩ := Option.map_eq_some'.mp h
  rcases y with p | ⟨line, rest₁, console₁⟩
  · cases hy
  rcases line with e | value
  · cases hy
  cases hfind : findEntry m value <;>
    rcases hw : console₁.write with p | console₂ <;>
    simp only [Except.ok_bind, hfind, hw, Except.map, reduceCtorEq,
      Except.ok.injEq, Prod.mk.injEq, false_and] at hy
  exact hy.1 ▸ findEntry_mem hfind

/-- The run lemma of the selection loop: every entry it returns is an entry of the
map, and it panics only at a write the console refuses. -/
theorem selectLoop_cases {m : EntryMap} {console : Console} {keys : List KeyRead}
    {r : Except Panic Entry} (h : selectLoop m console keys = some r) :
    (∀ entry, r = .ok entry → entry ∈ m.values) ∧ (∀ p, r = .error p → p = .unwrap ∧ console.Refuses) := by
  rw [selectLoop_eq] at h
  split at h
  · cases h
  · rename_i p hselect
    cases h
    refine ⟨fun _ h => (nomatch h), fun _ h => ?_⟩
    cases h
    exact selectEntry_endsWell hselect
  · rename_i entry _ _ hselect
    cases h
    refine ⟨fun _ h => ?_, fun _ h => (nomatch h)⟩
    cases h
    exact selectEntry_mem hselect
  · rename_i rest console' hselect
    obtain ⟨hlt, hf⟩ := selectEntry_endsWell hselect
    obtain ⟨herr, hok⟩ := Console.write_cases console'
    split at h
    · rename_i p hw
      cases h
      refine ⟨fun _ h => (nomatch h), fun _ h => ?_⟩
      cases h
      exact ⟨(herr p hw).1, hf.refuses (herr p hw).2⟩
    · rename_i console'' hw
      obtain ⟨hmem, hpanic⟩ := selectLoop_cases h
      exact ⟨hmem, fun p hp => ⟨(hpanic p hp).1,
        ((hok console'' hw).trans hf).refuses (hpanic p hp).2⟩⟩
termination_by keys.length
decreasing_by exact hlt

/-! ## `display_menu` and `choose` -/

/-- `ScanCode::ESCAPE`. -/
def escapeScanCode : UInt16 := 0x17

/-- What one turn of the countdown loop of `display_menu` gets from the firmware. -/
inductive CountdownEvent where
  /-- `wait_for_event` failed. -/
  | waitFailed (status : Status)
  /-- The key event fired (index 0), and `read_key` answered. -/
  | key (read : KeyRead)
  /-- The timer fired (index 1). -/
  | timer
  /-- Any other index, which is only logged. -/
  | other (index : ℕ)

/-- Lines 61-78 of `display_menu`: wait for Escape, which opens the menu
(`true`), or for the timer, which boots the default entry (`false`). -/
def countdown : List CountdownEvent → Option (Except Status Bool)
  | [] => none
  | .waitFailed e :: _ => some (.error e)
  | .key (.error e) :: _ => some (.error e)
  | .key (.ok (some (.special s))) :: events =>
    if s = escapeScanCode then some (.ok true) else countdown events
  | .key (.ok _) :: events => countdown events
  | .timer :: _ => some (.ok false)
  | .other _ :: events => countdown events

/-- Modelled from its use in `menu.rs`: `config.rs`, which declares `Config`, is
not among the sources. -/
structure Config where
  /-- The key of the default entry. -/
  default : String
  /-- Seconds before the default entry boots; `none` opens the menu at once. -/
  timeout : Option ℕ
  entries : EntryMap

/-- The firmware's answers to the timer calls of `display_menu`. -/
structure TimerAnswers where
  createEvent : Except Status Unit
  setTimer : Except Status Unit
  cancelTimer : Except Status Unit


/-- `display_menu`: with a timeout, the countdown message, a countdown that Escape
interrupts, and then the listing, a header and one line per entry, and the
selection loop. Every write is unwrapped. -/
def displayMenu (config : Config) (defaultEntry : Entry) (timer : TimerAnswers)
    (events : List CountdownEvent) (keys : List KeyRead) (console : Console) :
    Option (Except Panic (Except Status Entry)) :=
  let menu (console : Console) : Option (Except Panic (Except Status Entry)) :=
    match console.writeLines (config.entries.entries.length + 1) with
    | .error p => some (.error p)
    | .ok console => (selectLoop config.entries console keys).map (·.map .ok)
  match config.timeout with
  | none => menu console
  | some _ =>
    match console.write with
    | .error p => some (.error p)
    | .ok console =>
      match timer.createEvent, timer.setTimer with
      | .error e, _ => some (.ok (.error e))
      | .ok (), .error e => some (.ok (.error e))
      | .ok (), .ok () =>
        match countdown events with
        | none => none
        | some (.error e) => some (.ok (.error e))
        | some (.ok false) => some (.ok (.ok defaultEntry))
        | some (.ok true) =>
          match timer.cancelTimer with
          | .error e => some (.ok (.error e))
          | .ok () => menu console

/-- Lines 25-28 of `choose`: the default entry, or else the first, or else a panic. -/
def defaultEntry (config : Config) : Except Panic Entry :=
  match config.entries.get config.default with
  | some entry => .ok entry
  | none =>
    match config.entries.values.head? with
    | some entry => .ok entry
    | none => .error (.expect "no entries")


/-- `choose`: the default entry at once for a zero timeout, else the menu's
choice, and the default entry when the menu returns an error. -/
def choose (config : Config) (timer : TimerAnswers) (events : List CountdownEvent)
    (keys : List KeyRead) (console : Console) : Option (Except Panic Entry) :=
  match defaultEntry config with
  | .error p => some (.error p)
  | .ok d =>
    if config.timeout = some 0 then some (.ok d)
    else (displayMenu config d timer events keys console).map fun r =>
      match r with
      | .error p => .error p
      | .ok (.ok entry) => .ok entry
      | .ok (.error _) => .ok d

/-- The default entry is an entry of the map, and only an empty map has none. -/
theorem defaultEntry_cases (config : Config) :
    (∃ d ∈ config.entries.values, defaultEntry config = .ok d) ∨
      (config.entries.entries = [] ∧ defaultEntry config = .error (.expect "no entries")) := by
  unfold defaultEntry
  split
  · rename_i entry hget
    obtain ⟨kv, hfind, rfl⟩ := Option.map_eq_some'.mp hget
    exact .inl ⟨_, List.mem_map_of_mem _ (List.mem_of_find?_eq_some hfind), rfl⟩
  · split
    · rename_i entry hhead
      exact .inl ⟨entry, List.mem_of_mem_head? hhead, rfl⟩
    · rename_i hhead
      exact .inr ⟨by simpa [EntryMap.values] using hhead, rfl⟩


/-- The listing and the selection loop: an entry of the map, or a panic at a
write the console refuses. -/
theorem menu_cases {m : EntryMap} {console : Console} {keys : List KeyRead}
    {r : Except Panic (Except Status Entry)}
    (h : (match console.writeLines (m.entries.length + 1) with
      | .error p => some (.error p)
      | .ok console => (selectLoop m console keys).map (·.map .ok)) = some r) :
    (∀ entry, r = .ok (.ok entry) → entry ∈ m.values) ∧ (∀ e, r ≠ .ok (.error e)) ∧
      ∀ p, r = .error p → p = .unwrap ∧ console.Refuses := by
  obtain ⟨herr, hok⟩ := Console.writeLines_cases console
    (m.entries.length + 1)
  split at h
  · rename_i p hw
    cases h
    refine ⟨fun _ h => (nomatch h), fun _ h => (nomatch h), fun _ h => ?_⟩
    cases h
    exact herr p hw
  · rename_i console₁ hw
    obtain ⟨r', hloop, rfl⟩ := Option.map_eq_some'.mp h
    obtain ⟨hmem, hpanic⟩ := selectLoop_cases hloop
    rcases r' with p | entry
    · refine ⟨fun _ h => (nomatch h), fun _ h => (nomatch h), fun _ h => ?_⟩
      cases h
      exact ⟨(hpanic p rfl).1, (hok console₁ hw).refuses (hpanic p rfl).2⟩
    · refine ⟨fun _ h => ?_, fun _ h => (nomatch h), fun _ h => (nomatch h)⟩
      cases h
      exact hmem entry rfl

/-- What the menu returns: the default entry or an entry of the map, a status,
or a panic at a write the console refuses. -/
theorem displayMenu_cases {config : Config} {d : Entry} {timer : TimerAnswers}
    {events : List CountdownEvent} {keys : List KeyRead} {console : Console}
    {r : Except Panic (Except Status Entry)}
    (h : displayMenu config d timer events keys console = some r) :
    (∀ entry, r = .ok (.ok entry) → entry = d ∨ entry ∈ config.entries.values) ∧
      ∀ p, r = .error p → p = .unwrap ∧ console.Refuses := by
  unfold displayMenu at h
  split at h
  · obtain ⟨hmem, -, hpanic⟩ := menu_cases h
    exact ⟨fun e he => .inr (hmem e he), hpanic⟩
  · obtain ⟨herr, hok⟩ := Console.write_cases console
    split at h
    · rename_i p hw
      cases h
      refine ⟨fun _ h => (nomatch h), fun _ h => ?_⟩
      cases h
      exact herr p hw
    · rename_i console₁ hw
      have hstatus : ∀ e, some (.ok (.error e)) = some r →
          (∀ entry, r = .ok (.ok entry) → entry = d ∨ entry ∈ config.entries.values) ∧
            ∀ p, r = .error p → p = .unwrap ∧ console.Refuses := by
        rintro e ⟨⟩
        exact ⟨fun _ h => (nomatch h), fun _ h => (nomatch h)⟩
      split at h
      · exact hstatus _ h
      · exact hstatus _ h
      · split at h
        · cases h
        · exact hstatus _ h
        · cases h
          refine ⟨fun _ h => ?_, fun _ h => (nomatch h)⟩
          cases h
          exact .inl rfl
        · split at h
          · exact hstatus _ h
          · obtain ⟨hmem, -, hpanic⟩ := menu_cases h
            exact ⟨fun e he => .inr (hmem e he),
              fun p hp => ⟨(hpanic p hp).1, (hok console₁ hw).refuses (hpanic p hp).2⟩⟩

end Towboot
