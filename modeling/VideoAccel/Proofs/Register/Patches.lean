import VideoAccel.Proofs.Bytes
import VideoAccel.Register.PatchTable
import Mathlib.Data.List.Induction
import Mathlib.Data.List.Nodup

/-!
The patch table as a map from registers to offsets, and as bytes.

What becomes of an offset that is to be recorded is one of six ends (`PatchTable.push_ends`), from which
the facts about a single recording follow: when it is refused (`PatchTable.push_refused_iff`), and what
the table says afterwards (`PatchTable.offsetOf?_push`, `PatchTable.registers_push`).

A history of a table is what requests in a row make of it, together with the patches that were granted
since it was cleared last. `PatchTable.latest_granted` says that the table is a map in which the last
granted offset of a register holds, in the order in which the registers first came up, and that it never
outgrows its limit. Its bytes tell all of it: reading them gives the patches back
(`PatchTable.parse?_serialise`).
-/

namespace VideoAccel

/-- The patch says something, and says it in 32 bits. -/
structure Patch.Proper (patch : Patch) : Prop where
  nonzero : patch.offset ≠ 0
  reg : patch.reg < Numeral.bound32
  offset : patch.offset < Numeral.bound32

namespace PatchTable

variable {table next : PatchTable} {reg offset : Nat}

/-! ### Recording one offset -/

/-- The registers with a patch, in the order of the table. -/
def registers (table : PatchTable) : List Nat :=
  table.entries.map (·.reg)

/-- The table with another offset for a register that it has. -/
def replace (table : PatchTable) (reg offset : Nat) : PatchTable :=
  ⟨table.entries.map fun patch => if patch.reg = reg then { patch with offset } else patch⟩

/-- The table with a patch for a further register. -/
def add (table : PatchTable) (reg offset : Nat) : PatchTable :=
  ⟨table.entries ++ [⟨reg, offset⟩]⟩

/-- What can become of an offset that is to be recorded. -/
inductive Ends (table : PatchTable) (reg offset : Nat) : Except Fault PatchTable → Prop where
  /-- An offset of zero needs no patch. -/
  | needless (zero : offset = 0) : Ends table reg offset (.ok table)
  /-- The register does not have 32 bits. -/
  | wideRegister (nonzero : offset ≠ 0) (wide : Numeral.bound32 ≤ reg) :
      Ends table reg offset (.error (.patchRegister reg))
  /-- The offset does not have 32 bits. -/
  | wideOffset (nonzero : offset ≠ 0) (narrow : reg < Numeral.bound32)
      (wide : Numeral.bound32 ≤ offset) : Ends table reg offset (.error (.patchOffset offset))
  /-- The register had a patch. -/
  | replaced (proper : Patch.Proper ⟨reg, offset⟩) (known : reg ∈ table.registers) :
      Ends table reg offset (.ok (table.replace reg offset))
  /-- A further register has no room. -/
  | full (proper : Patch.Proper ⟨reg, offset⟩) (unknown : reg ∉ table.registers)
      (full : limit ≤ table.entries.length) :
      Ends table reg offset (.error (.patchTableFull limit reg))
  /-- A further register got a patch. -/
  | added (proper : Patch.Proper ⟨reg, offset⟩) (unknown : reg ∉ table.registers)
      (room : table.entries.length < limit) : Ends table reg offset (.ok (table.add reg offset))

theorem any_reg_iff : table.entries.any (·.reg == reg) = true ↔ reg ∈ table.registers := by
  simp [registers]

theorem push_ends (table : PatchTable) (reg offset : Nat) :
    table.Ends reg offset (table.push reg offset) := by
  unfold push
  split
  · rename_i zero
    exact .needless zero
  rename_i nonzero
  split
  · rename_i wide
    exact .wideRegister nonzero wide
  rename_i narrow
  split
  · rename_i wide
    exact .wideOffset nonzero (Nat.not_le.mp narrow) wide
  rename_i short
  have proper : Patch.Proper ⟨reg, offset⟩ := ⟨nonzero, Nat.not_le.mp narrow, Nat.not_le.mp short⟩
  split
  · rename_i known
    exact .replaced proper (any_reg_iff.mp known)
  rename_i unknown
  rw [any_reg_iff] at unknown
  split
  · rename_i full
    exact .full proper unknown full
  · rename_i room
    exact .added proper unknown (Nat.not_le.mp room)

/-- An offset is refused if it cannot be told in 32 bits or finds no room, unless it is zero. -/
theorem push_refused_iff : (∃ fault, table.push reg offset = .error fault) ↔
    offset ≠ 0 ∧ (Numeral.bound32 ≤ reg ∨ Numeral.bound32 ≤ offset ∨
      reg ∉ table.registers ∧ limit ≤ table.entries.length) := by
  have ends := push_ends table reg offset
  constructor
  · rintro ⟨fault, refused⟩
    rw [refused] at ends
    cases ends with
    | wideRegister nonzero wide => exact ⟨nonzero, .inl wide⟩
    | wideOffset nonzero narrow wide => exact ⟨nonzero, .inr (.inl wide)⟩
    | full proper unknown full => exact ⟨proper.nonzero, .inr (.inr ⟨unknown, full⟩)⟩
  · rintro ⟨nonzero, reason⟩
    generalize table.push reg offset = outcome at ends
    cases ends with
    | needless zero => exact absurd zero nonzero
    | wideRegister | wideOffset | full => exact ⟨_, rfl⟩
    | replaced proper known =>
        have reg := proper.reg
        have offset := proper.offset
        simp only at reg offset
        rcases reason with wide | wide | ⟨unknown, -⟩
        · omega
        · omega
        · exact absurd known unknown
    | added proper unknown room =>
        have reg := proper.reg
        have offset := proper.offset
        simp only at reg offset
        omega

theorem registers_replace : (table.replace reg offset).registers = table.registers := by
  unfold registers replace
  rw [List.map_map]
  apply List.map_congr_left
  intro patch _
  simp only [Function.comp]
  split <;> rfl

theorem registers_add : (table.add reg offset).registers = table.registers ++ [reg] :=
  List.map_append

/-- The registers keep their order, and one that was not known comes last. -/
theorem registers_push (pushed : table.push reg offset = .ok next) :
    next.registers =
      if offset = 0 ∨ reg ∈ table.registers then table.registers else table.registers ++ [reg] := by
  have ends := push_ends table reg offset
  rw [pushed] at ends
  cases ends with
  | needless zero => rw [if_pos (.inl zero)]
  | replaced proper known => rw [if_pos (.inr known), registers_replace]
  | added proper unknown room =>
      rw [if_neg (not_or.mpr ⟨proper.nonzero, unknown⟩), registers_add]

theorem offsetOf?_eq_none_iff : table.offsetOf? reg = none ↔ reg ∉ table.registers := by
  simp [offsetOf?, registers]

theorem offsetOf?_replace (known : reg ∈ table.registers) (other : Nat) :
    (table.replace reg offset).offsetOf? other =
      if other = reg then some offset else table.offsetOf? other := by
  have named : (fun patch : Patch => patch.reg == other) ∘
      (fun patch : Patch => if patch.reg = reg then { patch with offset } else patch) =
        fun patch => patch.reg == other := by
    funext patch
    simp only [Function.comp]
    split <;> rfl
  unfold offsetOf? replace
  rw [List.find?_map, Option.map_map, named]
  cases found : table.entries.find? fun patch => patch.reg == other with
  | none =>
      have missing : other ∉ table.registers := offsetOf?_eq_none_iff.mp (by simp [offsetOf?, found])
      have apart : other ≠ reg := fun same => missing (same ▸ known)
      simp [apart]
  | some first =>
      have own : first.reg = other := by simpa using List.find?_some found
      by_cases here : other = reg
      · simp [own, here]
      · simp [own, here]

theorem offsetOf?_add (unknown : reg ∉ table.registers) (other : Nat) :
    (table.add reg offset).offsetOf? other =
      if other = reg then some offset else table.offsetOf? other := by
  unfold offsetOf? add
  rw [List.find?_append]
  by_cases here : other = reg
  · subst here
    have missing := Option.map_eq_none_iff.mp (offsetOf?_eq_none_iff.mpr unknown)
    simp [missing]
  · have apart : ¬ reg = other := fun same => here same.symm
    simp [here, apart]

/-- Recording an offset for one register says nothing about another one. An offset of zero leaves
what the table had. -/
theorem offsetOf?_push (pushed : table.push reg offset = .ok next) (other : Nat) :
    next.offsetOf? other =
      if other = reg ∧ offset ≠ 0 then some offset else table.offsetOf? other := by
  have ends := push_ends table reg offset
  rw [pushed] at ends
  cases ends with
  | needless zero => rw [if_neg fun both => both.2 zero]
  | replaced proper known => simp [offsetOf?_replace known, show offset ≠ 0 from proper.nonzero]
  | added proper unknown room => simp [offsetOf?_add unknown, show offset ≠ 0 from proper.nonzero]

/-- Every patch of a table is one that it had, or the one just recorded. -/
theorem mem_push (pushed : table.push reg offset = .ok next) {patch : Patch}
    (member : patch ∈ next.entries) :
    patch ∈ table.entries ∨ patch = ⟨reg, offset⟩ ∧ patch.Proper := by
  have ends := push_ends table reg offset
  rw [pushed] at ends
  cases ends with
  | needless zero => exact .inl member
  | replaced proper known =>
      obtain ⟨old, among, rfl⟩ := List.mem_map.mp member
      split
      · rename_i own
        subst own
        exact .inr ⟨rfl, proper⟩
      · exact .inl among
  | added proper unknown room =>
      rcases List.mem_append.mp member with among | last
      · exact .inl among
      · rw [List.mem_singleton.mp last]
        exact .inr ⟨rfl, proper⟩

/-- The table has room for its patches, which belong to different registers; none is for an offset of
zero. -/
structure Sound (table : PatchTable) : Prop where
  length : table.entries.length ≤ limit
  distinct : (table.entries.map (·.reg)).Nodup
  positive : ∀ patch ∈ table.entries, patch.offset ≠ 0

theorem Sound.empty : empty.Sound :=
  ⟨by decide, List.nodup_nil, fun _ impossible => absurd impossible List.not_mem_nil⟩

/-- Recording an offset keeps a table sound, whether the register was known or not. -/
theorem Sound.push (sound : table.Sound) (pushed : table.push reg offset = .ok next) :
    next.Sound := by
  refine ⟨length_push_le sound.length pushed, ?_, fun patch member => ?_⟩
  · show next.registers.Nodup
    rw [registers_push pushed]
    split
    · exact sound.distinct
    · rename_i fresh
      obtain ⟨-, unknown⟩ := not_or.mp fresh
      exact List.nodup_append_comm.mp (List.nodup_cons.mpr ⟨unknown, sound.distinct⟩)
  · rcases mem_push pushed member with known | ⟨-, proper⟩
    · exact sound.positive patch known
    · exact proper.nonzero

/-! ### Requests in a row -/

/-- What is asked of a table. -/
inductive Request where
  | record (reg offset : Nat)
  | clear
deriving DecidableEq, Repr

/-- A table, and the patches that were granted since it was cleared last, the latest at the end. -/
structure History where
  table : PatchTable
  granted : List Patch

namespace History

/-- The table before any request. -/
def fresh : History :=
  ⟨.empty, []⟩

/-- Records an offset. One that is refused leaves the table as it is, and one of zero is no patch. -/
def record (history : History) (reg offset : Nat) : History :=
  match history.table.push reg offset with
  | .error _ => history
  | .ok next => ⟨next, if offset = 0 then history.granted else history.granted ++ [⟨reg, offset⟩]⟩

/-- What a request makes of a history. -/
def serve (history : History) : Request → History
  | .record reg offset => history.record reg offset
  | .clear => fresh

/-- What requests in a row lead to. -/
def after (requests : List Request) : History :=
  requests.foldl serve fresh

theorem after_concat (requests : List Request) (request : Request) :
    after (requests ++ [request]) = (after requests).serve request :=
  List.foldl_concat ..

end History

/-- The offset of the last patch for a register. -/
def latest? (patches : List Patch) (reg : Nat) : Option Nat :=
  (patches.filter fun patch => patch.reg == reg).getLast?.map (·.offset)

theorem latest?_concat (patches : List Patch) (patch : Patch) (reg : Nat) :
    latest? (patches ++ [patch]) reg =
      if reg = patch.reg then some patch.offset else latest? patches reg := by
  unfold latest?
  rw [List.filter_append]
  by_cases own : reg = patch.reg
  · subst own
    simp
  · have apart : ¬ patch.reg = reg := fun same => own same.symm
    simp [own, apart]

theorem eraseDups_concat (values : List Nat) (value : Nat) :
    (values ++ [value]).eraseDups =
      if value ∈ values then values.eraseDups else values.eraseDups ++ [value] := by
  rw [List.eraseDups_append, List.removeAll]
  by_cases known : value ∈ values
  · simp [known]
  · simp [known, List.eraseDups_cons]

/-- The table is the map of what was granted. -/
structure History.Kept (history : History) : Prop where
  sound : history.table.Sound
  proper : ∀ patch ∈ history.table.entries, patch.Proper
  order : history.table.registers = (history.granted.map (·.reg)).eraseDups
  lookup : ∀ reg, history.table.offsetOf? reg = latest? history.granted reg

namespace History

theorem Kept.fresh : fresh.Kept where
  sound := .empty
  proper _ impossible := absurd impossible List.not_mem_nil
  order := rfl
  lookup _ := rfl

/-- Recording an offset keeps the table the map of what was granted. -/
theorem Kept.record {history : History} (kept : history.Kept) (reg offset : Nat) :
    (history.record reg offset).Kept := by
  unfold History.record
  cases pushed : history.table.push reg offset with
  | error fault => exact kept
  | ok next =>
      have registers := registers_push pushed
      have lookup := offsetOf?_push pushed
      have proper : ∀ patch ∈ next.entries, patch.Proper := by
        intro patch member
        rcases mem_push pushed member with known | ⟨-, proper⟩
        · exact kept.proper patch known
        · exact proper
      by_cases zero : offset = 0
      · simp only [zero, true_or, ne_eq, not_true_eq_false, and_false, if_true, if_false]
          at registers lookup ⊢
        exact ⟨kept.sound.push pushed, proper, registers.trans kept.order,
          fun other => (lookup other).trans (kept.lookup other)⟩
      · have known : reg ∈ history.table.registers ↔ reg ∈ history.granted.map (·.reg) := by
          rw [kept.order, List.mem_eraseDups]
        simp only [zero, false_or, ne_eq, not_false_eq_true, and_true, if_false]
          at registers lookup ⊢
        refine ⟨kept.sound.push pushed, proper, ?_, fun other => ?_⟩
        · show next.registers =
            ((history.granted ++ [(⟨reg, offset⟩ : Patch)]).map (·.reg)).eraseDups
          rw [registers, List.map_append, List.map_singleton, eraseDups_concat, ← kept.order]
          simp only [known]
        · show next.offsetOf? other = latest? (history.granted ++ [⟨reg, offset⟩]) other
          rw [lookup, latest?_concat, kept.lookup]

theorem Kept.serve {history : History} (kept : history.Kept) (request : Request) :
    (history.serve request).Kept := by
  cases request with
  | record reg offset => exact kept.record reg offset
  | clear => exact .fresh

/-- After any requests the table is the map of what was granted. -/
theorem kept_after (requests : List Request) : (after requests).Kept := by
  induction requests using List.reverseRecOn with
  | nil => exact .fresh
  | append_singleton requests request ih =>
      rw [after_concat]
      exact ih.serve request

end History

/-! ### Bytes -/

/-- The numbers that bytes stand for, four bytes to a number and the least significant first. Bytes at
the end that do not fill a number are left out. -/
def numbers : List Byte → List (BitVec 32)
  | b0 :: b1 :: b2 :: b3 :: rest => (b3 ++ b2 ++ b1 ++ b0) :: numbers rest
  | _ => []

/-- The patches that numbers stand for, register and offset in turn. -/
def patches : List (BitVec 32) → List Patch
  | reg :: offset :: rest => ⟨reg.toNat, offset.toNat⟩ :: patches rest
  | _ => []

/-- The patches of a serialised table: the magic number, the count and as many pairs. -/
def parse? (bytes : Bytes) : Option (List Patch) :=
  match numbers bytes.toList with
  | start :: count :: rest =>
      if start = magic ∧ bytes.size = 8 + 8 * count.toNat then some (patches rest) else none
  | _ => none

/-- The numbers of a table's patches. -/
def told (entries : List Patch) : List (BitVec 32) :=
  entries.flatMap fun patch => [BitVec.ofNat 32 patch.reg, BitVec.ofNat 32 patch.offset]

theorem numbers_ofWord32 (value : BitVec 32) (rest : List Byte) :
    numbers ((Bytes.ofWord32 value).toList ++ rest) = value :: numbers rest := by
  have whole : (Bytes.ofWord32 value).le32 0 = value := by
    apply BitVec.eq_of_getLsbD_eq
    intro k small
    rw [Bytes.getLsbD_le32, Nat.mul_zero, Nat.zero_add, Bytes.bitAt_ofWord32 value small]
    simp [small]
  exact congrArg (· :: numbers rest) whole

theorem numbers_flatMap (values : List (BitVec 32)) :
    numbers (values.flatMap fun value => (Bytes.ofWord32 value).toList) = values := by
  induction values with
  | nil => rfl
  | cons value rest ih => rw [List.flatMap_cons, numbers_ofWord32, ih]

theorem patches_told {entries : List Patch} (proper : ∀ patch ∈ entries, patch.Proper) :
    patches (told entries) = entries := by
  induction entries with
  | nil => rfl
  | cons patch rest ih =>
      have own := proper patch List.mem_cons_self
      have reg : patch.reg % 2 ^ 32 = patch.reg := Nat.mod_eq_of_lt own.reg
      have offset : patch.offset % 2 ^ 32 = patch.offset := Nat.mod_eq_of_lt own.offset
      have later := ih fun other member => proper other (List.mem_cons_of_mem _ member)
      unfold told at later ⊢
      rw [List.flatMap_cons]
      simp only [List.cons_append, List.nil_append, patches, BitVec.toNat_ofNat, reg, offset, later]

theorem toList_serialise (table : PatchTable) :
    table.serialise.toList =
      (magic :: BitVec.ofNat 32 table.entries.length :: told table.entries).flatMap
        fun value => (Bytes.ofWord32 value).toList :=
  rfl

/-- A serialised table has eight bytes in front and eight for every patch. -/
theorem size_serialise (table : PatchTable) :
    table.serialise.size = 8 + 8 * table.entries.length := by
  have words : ∀ values : List (BitVec 32),
      (values.flatMap fun value => (Bytes.ofWord32 value).toList).length = 4 * values.length := by
    intro values
    simp [List.length_flatMap, Nat.mul_comm]
  have pairs : (told table.entries).length = 2 * table.entries.length := by
    simp [told, List.length_flatMap, Nat.mul_comm]
  rw [← Array.length_toList, toList_serialise, words, List.length_cons, List.length_cons, pairs]
  omega

/-- Reading the bytes of a table gives its patches back. -/
theorem parse?_serialise (sound : table.Sound) (proper : ∀ patch ∈ table.entries, patch.Proper) :
    parse? table.serialise = some table.entries := by
  have length : table.entries.length ≤ 16 := sound.length
  have count : (BitVec.ofNat 32 table.entries.length).toNat = table.entries.length := by
    rw [BitVec.toNat_ofNat]
    omega
  unfold parse?
  rw [toList_serialise, numbers_flatMap]
  simp only [count, size_serialise, and_self, if_true, patches_told proper]

/-! ### The table after any requests -/

/-- The table that requests in a row lead to. -/
def tableAfter (requests : List Request) : PatchTable :=
  (History.after requests).table

/-- The patches granted since the table was cleared last. -/
def grantedAfter (requests : List Request) : List Patch :=
  (History.after requests).granted

/-- After any requests the table is a map of at most sixteen registers, in which the last granted
offset of a register holds and registers stand in the order in which they came up. It refuses an offset
only if that cannot be told or finds no room, and then stays as it is. Its bytes give the patches back, so
that different tables have different bytes. -/
theorem latest_granted (requests : List Request) :
    ((tableAfter requests).entries.length ≤ limit ∧
      (tableAfter requests).registers.Nodup ∧
      (∀ patch ∈ (tableAfter requests).entries, patch.offset ≠ 0) ∧
      (tableAfter requests).registers = ((grantedAfter requests).map (·.reg)).eraseDups) ∧
    (∀ reg, (tableAfter requests).offsetOf? reg = latest? (grantedAfter requests) reg) ∧
    (∀ reg offset, offset ≠ 0 →
      ((∃ fault, (tableAfter requests).push reg offset = .error fault) ↔
        Numeral.bound32 ≤ reg ∨ Numeral.bound32 ≤ offset ∨
          reg ∉ (tableAfter requests).registers ∧
            (tableAfter requests).entries.length = limit)) ∧
    (∀ reg offset, (∃ fault, (tableAfter requests).push reg offset = .error fault) →
      tableAfter (requests ++ [.record reg offset]) = tableAfter requests) ∧
    ((tableAfter requests).serialise.size = 8 + 8 * (tableAfter requests).entries.length ∧
      parse? (tableAfter requests).serialise = some (tableAfter requests).entries ∧
      ∀ others, tableAfter others ≠ tableAfter requests →
        (tableAfter others).serialise ≠ (tableAfter requests).serialise) := by
  have kept := History.kept_after requests
  refine ⟨⟨kept.sound.length, kept.sound.distinct, kept.sound.positive, kept.order⟩, kept.lookup,
    fun reg offset nonzero => ?_, fun reg offset refused => ?_, size_serialise _,
    parse?_serialise kept.sound kept.proper, fun others apart same => ?_⟩
  · have full : limit ≤ (tableAfter requests).entries.length ↔
        (tableAfter requests).entries.length = limit :=
      ⟨fun least => Nat.le_antisymm kept.sound.length least, fun same => Nat.le_of_eq same.symm⟩
    rw [push_refused_iff, and_iff_right nonzero, full]
  · obtain ⟨fault, refused⟩ := refused
    have refused' : (History.after requests).table.push reg offset = .error fault := refused
    unfold tableAfter
    rw [History.after_concat, History.serve, History.record, refused']
  · have kept' := History.kept_after others
    have entries : some (tableAfter others).entries = some (tableAfter requests).entries := calc
      some (tableAfter others).entries
          = parse? (tableAfter others).serialise :=
            (parse?_serialise kept'.sound kept'.proper).symm
      _ = parse? (tableAfter requests).serialise := congrArg parse? same
      _ = some (tableAfter requests).entries := parse?_serialise kept.sound kept.proper
    exact apart (congrArg PatchTable.mk (Option.some.inj entries))

/-- Sixteen registers, of which one gets another offset and one an offset of zero. -/
def sixteen : List Request :=
  (List.range 16).map (.record · 64) ++ [.record 3 128, .record 5 0]

/-- A table that is full refuses a further register and stays as it is; a known register can still get
another offset, and one of zero does not count. -/
theorem latest_granted_sixteen :
    ((64 ≠ 0 ∧ ∃ fault, (tableAfter sixteen).push 100 64 = .error fault) ∧
      tableAfter (sixteen ++ [.record 100 64]) = tableAfter sixteen) ∧
    ((tableAfter sixteen).offsetOf? 3 = some 128 ∧ (tableAfter sixteen).offsetOf? 5 = some 64) ∧
    (tableAfter [.record 3 128, .clear] ≠ tableAfter sixteen ∧
      (tableAfter [.record 3 128, .clear]).serialise ≠ (tableAfter sixteen).serialise) := by
  obtain ⟨-, lookup, refuses, stays, -, -, tells⟩ := latest_granted sixteen
  have refused : ∃ fault, (tableAfter sixteen).push 100 64 = .error fault :=
    (refuses 100 64 (by decide)).mpr (.inr (.inr ⟨by decide, by decide⟩))
  have other : tableAfter [.record 3 128, .clear] ≠ tableAfter sixteen := by decide
  exact ⟨⟨⟨by decide, refused⟩, stays 100 64 refused⟩,
    ⟨(lookup 3).trans (by decide), (lookup 5).trans (by decide)⟩, other, tells _ other⟩

end PatchTable

end VideoAccel
