import Mathlib.Algebra.Ring.Nat
import Mathlib.Data.List.Induction
import Mathlib.Data.List.Nodup
import VideoAccel.Proofs.Device.Simulated

/-!
The simulated device as two queues and a file of bytes.

`Account` is what a caller can know about a device that is used in any way: the completions scripted so
far, the completion that each task got when it was sent, how many polls were answered, and the bytes that
went to the registers. It is kept without a look into the device, from what was asked and what was
answered. The device keeps step with it (`Account.Kept`), one lemma for each use, and so
`Account.first_in_first_out` holds after any uses: tasks are completed in the order in which they were
sent, each with the completion it got; a refusal changes nothing that a later call could see; and every
byte of the registers reads as it was written last. This is so for completions that tell only registers
that have places of their own (`Completion.Addressable`); for others it is not
(`Account.far_register_told`).
-/

namespace VideoAccel

/-! ### Bytes by the place where they go -/

/-- The bytes with their positions, from a start on. -/
def Bytes.placed (data : Bytes) (start : Nat) : List (Nat × Byte) :=
  (data.toList.zipIdx start).map Prod.swap

/-- The byte that was written last at a position; zero if none was. -/
def lastWritten (written : List (Nat × Byte)) (position : Nat) : Byte :=
  ((written.filter fun write => write.1 == position).getLast?.map Prod.snd).getD 0

theorem lastWritten_concat (written : List (Nat × Byte)) (place position : Nat) (byte : Byte) :
    lastWritten (written ++ [(place, byte)]) position =
      if place = position then byte else lastWritten written position := by
  unfold lastWritten
  by_cases same : place = position
  · simp [same, List.filter_append]
  · simp [same, List.filter_append]

theorem lastWritten_append_zipIdx (written : List (Nat × Byte)) (bytes : List Byte)
    (start position : Nat) :
    lastWritten (written ++ (bytes.zipIdx start).map Prod.swap) position =
      if start ≤ position ∧ position < start + bytes.length then bytes.getD (position - start) 0
      else lastWritten written position := by
  induction bytes generalizing written start with
  | nil =>
      rw [if_neg (by simp)]
      simp
  | cons byte rest ih =>
      have next : written ++ ((byte :: rest).zipIdx start).map Prod.swap =
          (written ++ [(start, byte)]) ++ (rest.zipIdx (start + 1)).map Prod.swap := by
        simp [List.zipIdx_cons]
      rw [next, ih, lastWritten_concat]
      rcases Nat.lt_trichotomy position start with before | rfl | behind
      · simp [Nat.ne_of_gt before, show ¬ start + 1 ≤ position by omega,
          show ¬ start ≤ position by omega]
      · rw [if_neg (by omega), if_pos rfl, if_pos ⟨Nat.le_refl _, by simp⟩, Nat.sub_self,
          List.getD_cons_zero]
      · obtain ⟨k, rfl⟩ : ∃ k, position = start + 1 + k := ⟨position - start - 1, by omega⟩
        have length : (byte :: rest).length = rest.length + 1 := List.length_cons
        have place : start + 1 + k - start = k + 1 := by omega
        by_cases inside : k < rest.length
        · rw [if_pos (by omega), if_pos (by omega), place, Nat.add_sub_cancel_left,
            List.getD_cons_succ]
        · rw [if_neg (by omega), if_neg (by omega), if_neg (by omega)]

theorem lastWritten_placed (written : List (Nat × Byte)) (data : Bytes) (start position : Nat) :
    lastWritten (written ++ data.placed start) position =
      if start ≤ position ∧ position < start + data.size then data.at0 (position - start)
      else lastWritten written position := by
  rw [Bytes.placed, lastWritten_append_zipIdx, Array.length_toList, Bytes.at0_eq,
    List.getD_eq_getElem?_getD, Array.getElem?_toList]

/-- A register that lies in the file is stored as its four bytes. -/
theorem Field.set_word {reg : Nat} (placed : (Field.word reg).Addressable) {file : Bytes}
    (lies : (Field.word reg).lies file = true) (value : BitVec 32) :
    (Field.word reg).set value file =
      file.overwrite (registerBytes * reg) (Bytes.ofWord32 value) := by
  have place : (Field.word reg).byteOffset = registerBytes * reg := byteOffset_eq placed
  have all : (Field.word reg).mask = BitVec.allOnes 32 := rfl
  have none : (Field.word reg).bit = 0 := rfl
  rw [set, if_pos lies, place, all, none]
  simp only [BitVec.not_allOnes, BitVec.and_zero, BitVec.zero_or, BitVec.and_allOnes,
    BitVec.shiftLeft_zero]

namespace Completion

/-- Every register that the completion tells has a place of its own. -/
def Addressable (completion : Completion) : Prop :=
  ∀ write ∈ completion, (Field.word write.1).Addressable

instance (completion : Completion) : Decidable completion.Addressable :=
  inferInstanceAs (Decidable (∀ write ∈ completion, (Field.word write.1).Addressable))

/-- What a completion says about registers that the device has, in order. -/
def inSpace (completion : Completion) : Completion :=
  completion.filter fun write =>
    registerBytes * write.1 + registerBytes ≤ SimulatedDevice.registerSpace

/-- Writes the values into a file that has all of the registers, one after the other. -/
def storeAll (completion : Completion) (file : Bytes) : Bytes :=
  completion.foldl
    (fun file write => file.overwrite (registerBytes * write.1) (Bytes.ofWord32 write.2)) file

/-- The bytes of the values, in the order in which they are written. -/
def placed (completion : Completion) : List (Nat × Byte) :=
  completion.flatMap fun write => (Bytes.ofWord32 write.2).placed (registerBytes * write.1)

@[simp] theorem storeAll_nil (file : Bytes) : storeAll [] file = file := by
  simp only [storeAll, List.foldl_nil]

@[simp] theorem storeAll_cons (write : Nat × BitVec 32) (rest : Completion) (file : Bytes) :
    storeAll (write :: rest) file =
      storeAll rest (file.overwrite (registerBytes * write.1) (Bytes.ofWord32 write.2)) := by
  simp only [storeAll, List.foldl_cons]

@[simp] theorem placed_nil : placed [] = [] := by
  simp only [placed, List.flatMap_nil]

@[simp] theorem placed_cons (write : Nat × BitVec 32) (rest : Completion) :
    placed (write :: rest) =
      (Bytes.ofWord32 write.2).placed (registerBytes * write.1) ++ placed rest := by
  simp only [placed, List.flatMap_cons]

/-- Registers that the device does not have are passed over. -/
theorem apply_eq {completion : Completion} (placed : completion.Addressable) {file : Bytes}
    (space : file.size = SimulatedDevice.registerSpace) :
    completion.apply file = completion.inSpace.storeAll file := by
  induction completion generalizing file with
  | nil => simp [apply, inSpace]
  | cons write rest ih =>
      obtain ⟨here, later⟩ := List.forall_mem_cons.mp placed
      have lies : (Field.word write.1).lies file = true ↔
          registerBytes * write.1 + registerBytes ≤ SimulatedDevice.registerSpace := by
        rw [Field.lies_iff, space, Field.byteOffset_eq here]
        rfl
      rw [apply, List.foldl_cons, ← apply, ih later (by rw [Field.size_set, space])]
      by_cases inside : registerBytes * write.1 + registerBytes ≤ SimulatedDevice.registerSpace
      · have kept : inSpace (write :: rest) = write :: inSpace rest := by simp [inSpace, inside]
        rw [Field.set_word here (lies.mpr inside), kept, storeAll_cons]
      · have passed : inSpace (write :: rest) = inSpace rest := by simp [inSpace, inside]
        rw [Field.set_of_not_lies (Bool.eq_false_iff.mpr (mt lies.mp inside)), passed]

end Completion

namespace SimulatedDevice

/-- The registers are all there and read as they were written last. -/
structure Shows (registers : Bytes) (written : List (Nat × Byte)) : Prop where
  space : registers.size = registerSpace
  bytes : ∀ position, registers.at0 position = lastWritten written position

namespace Shows

variable {registers : Bytes} {written : List (Nat × Byte)}

theorem zeros : Shows (Bytes.zeros registerSpace) [] where
  space := Bytes.size_zeros _
  bytes position := by
    rw [Bytes.at0_eq]
    by_cases inside : position < registerSpace
    · simp [Bytes.zeros, inside, lastWritten]
    · simp [Bytes.zeros, inside, lastWritten]

/-- Bytes that go into the register space are read there from then on. -/
theorem overwrite (shows : Shows registers written) {start : Nat} {data : Bytes}
    (inside : start + data.size ≤ registerSpace) :
    Shows (registers.overwrite start data) (written ++ data.placed start) where
  space := (Bytes.size_overwrite ..).trans shows.space
  bytes position := by
    rw [Bytes.at0_overwrite, lastWritten_placed, shows.space, shows.bytes]
    have same : (start ≤ position ∧ position < start + data.size ∧ position < registerSpace) ↔
        start ≤ position ∧ position < start + data.size := by omega
    simp only [same]

theorem storeAll (shows : Shows registers written) {completion : Completion}
    (inside : ∀ write ∈ completion, registerBytes * write.1 + registerBytes ≤ registerSpace) :
    Shows (completion.storeAll registers) (written ++ completion.placed) := by
  induction completion generalizing registers written with
  | nil =>
      rw [Completion.storeAll_nil, Completion.placed_nil, List.append_nil]
      exact shows
  | cons write rest ih =>
      obtain ⟨here, later⟩ := List.forall_mem_cons.mp inside
      have first : Shows (registers.overwrite (registerBytes * write.1) (Bytes.ofWord32 write.2))
          (written ++ (Bytes.ofWord32 write.2).placed (registerBytes * write.1)) :=
        shows.overwrite here
      rw [Completion.storeAll_cons, Completion.placed_cons, ← List.append_assoc]
      exact ih first later

theorem apply (shows : Shows registers written) {completion : Completion}
    (placed : completion.Addressable) :
    Shows (completion.apply registers) (written ++ completion.inSpace.placed) := by
  rw [Completion.apply_eq placed shows.space]
  refine shows.storeAll fun write member => ?_
  exact of_decide_eq_true (List.mem_filter.mp member).2

end Shows

/-! ### What a caller knows -/

/-- A use of a device: a script or a switch is set, or a request is made. -/
inductive Use where
  | script (completion : Completion)
  | failPolls (refuse : Bool)
  | write (offset : Nat) (data : Bytes)
  | read (offset length : Nat)
  | announceLineBuffers (entries : List LineBufferEntry)
  | announcePatches (table : PatchTable)
  | send
  | poll

/-- A completion that the use scripts tells only registers that have places of their own. -/
def Use.Addressable : Use → Prop
  | .script completion => completion.Addressable
  | _ => True

instance (use : Use) : Decidable use.Addressable := by
  cases use with
  | script completion => exact inferInstanceAs (Decidable completion.Addressable)
  | _ => exact isTrue trivial

/-- A device, and what its uses so far come to. -/
structure Account where
  device : SimulatedDevice
  /-- The completions scripted so far, in order. -/
  scripted : List Completion
  /-- How many of them went to a task. -/
  taken : Nat
  /-- The completion of each task that was sent, in order. -/
  sent : List Completion
  /-- How many polls were answered. -/
  answered : Nat
  /-- Polls are to be refused. -/
  refusing : Bool
  /-- The bytes that went to the registers, the latest at the end. -/
  written : List (Nat × Byte)

namespace Account

/-- A device that was not used yet. -/
def fresh (usual : Completion) : Account :=
  { device := idle usual, scripted := [], taken := 0, sent := [], answered := 0, refusing := false,
    written := [] }

/-- What a use comes to. A task that is sent gets the oldest scripted completion that no task has got, or
else the usual one; a poll that is answered tells the completion of the first task that was not told
yet. -/
def serve (usual : Completion) (account : Account) : Use → Account
  | .script completion =>
      { account with
        device := account.device.pushCompletion completion
        scripted := account.scripted ++ [completion] }
  | .failPolls refuse =>
      { account with device := { account.device with failPolls := refuse }, refusing := refuse }
  | .write offset data =>
      match writeRegisters offset data account.device with
      | .ok _ device =>
          { account with device, written := account.written ++ data.placed offset }
      | .error _ device => { account with device }
  | .read offset length =>
      { account with device := Action.after (readRegisters offset length account.device) }
  | .announceLineBuffers entries =>
      { account with device := Action.after (Device.announceLineBuffers entries account.device) }
  | .announcePatches table =>
      { account with device := Action.after (Device.announcePatches table account.device) }
  | .send =>
      { account with
        device := Action.after (send account.device)
        sent := account.sent ++ [account.scripted.getD account.taken usual]
        taken := min (account.taken + 1) account.scripted.length }
  | .poll =>
      match poll account.device with
      | .ok _ device =>
          let completion := account.sent.getD account.answered []
          { account with
            device, answered := account.answered + 1
            written := account.written ++ completion.inSpace.placed }
      | .error _ device => { account with device }

/-- What uses in a row come to. -/
def after (usual : Completion) (uses : List Use) : Account :=
  uses.foldl (serve usual) (fresh usual)

theorem after_concat (usual : Completion) (uses : List Use) (use : Use) :
    after usual (uses ++ [use]) = (after usual uses).serve usual use :=
  List.foldl_concat ..

/-- The device keeps step with the account. -/
structure Kept (usual : Completion) (account : Account) : Prop where
  usual : account.device.usual = usual
  taken : account.taken ≤ account.scripted.length
  script : account.device.script = account.scripted.drop account.taken
  answered : account.answered ≤ account.sent.length
  inFlight : account.device.inFlight = account.sent.drop account.answered
  refusing : account.device.failPolls = account.refusing
  shows : Shows account.device.registers account.written

/-- All completions that the device can get tell only registers that have places of their own. -/
structure Placed (usual : Completion) (account : Account) : Prop where
  usual : usual.Addressable
  scripted : ∀ completion ∈ account.scripted, completion.Addressable
  sent : ∀ completion ∈ account.sent, completion.Addressable

variable {usual : Completion} {account : Account}

theorem Placed.fresh (placed : usual.Addressable) : (fresh usual).Placed usual where
  usual := placed
  scripted := List.forall_mem_nil _
  sent := List.forall_mem_nil _

theorem Placed.serve (placed : account.Placed usual) {use : Use} (own : use.Addressable) :
    (account.serve usual use).Placed usual := by
  obtain ⟨told, scripted, sent⟩ := placed
  cases use with
  | script completion =>
      refine ⟨told, fun other member => ?_, sent⟩
      rcases List.mem_append.mp member with earlier | this
      · exact scripted other earlier
      · rw [List.mem_singleton.mp this]
        exact own
  | send =>
      refine ⟨told, scripted, fun completion member => ?_⟩
      rcases List.mem_append.mp member with earlier | this
      · exact sent completion earlier
      · rw [List.mem_singleton.mp this, List.getD_eq_getElem?_getD]
        rcases script : account.scripted[account.taken]? with _ | next
        · exact told
        · exact scripted next (List.mem_of_getElem? script)
  | poll =>
      unfold Account.serve
      simp only
      split
      · exact ⟨told, scripted, sent⟩
      · exact ⟨told, scripted, sent⟩
  | write offset data =>
      unfold Account.serve
      simp only
      split
      · exact ⟨told, scripted, sent⟩
      · exact ⟨told, scripted, sent⟩
  | failPolls refuse => exact ⟨told, scripted, sent⟩
  | read offset length => exact ⟨told, scripted, sent⟩
  | announceLineBuffers entries => exact ⟨told, scripted, sent⟩
  | announcePatches table => exact ⟨told, scripted, sent⟩

theorem Kept.fresh (usual : Completion) : (fresh usual).Kept usual where
  usual := rfl
  taken := Nat.le_refl _
  script := rfl
  answered := Nat.le_refl _
  inFlight := rfl
  refusing := rfl
  shows := .zeros

/-- Requests are put on record; nothing else depends on the record. -/
theorem Kept.recorded (kept : account.Kept usual) (request : DeviceRequest) :
    Kept usual { account with device := account.device.record request } :=
  ⟨kept.usual, kept.taken, kept.script, kept.answered, kept.inFlight, kept.refusing, kept.shows⟩

/-- The completion that the next task will get is the oldest that no task has got. -/
theorem Kept.nextCompletion_eq (kept : account.Kept usual) :
    account.device.nextCompletion = account.scripted.getD account.taken usual := by
  rw [nextCompletion, kept.script, kept.usual, List.headD_eq_head?_getD, List.head?_drop,
    List.getD_eq_getElem?_getD]

theorem Kept.sends (kept : account.Kept usual) : (account.serve usual .send).Kept usual := by
  unfold Account.serve
  simp only [send_run, Action.after_ok]
  refine ⟨kept.usual, Nat.min_le_right .., ?_, ?_, ?_, kept.refusing, kept.shows⟩
  · have tail : account.device.script.tail = account.scripted.drop (account.taken + 1) := by
      rw [kept.script, List.tail_drop]
    rcases Nat.lt_or_ge account.taken account.scripted.length with more | none
    · rw [Nat.min_eq_left more]
      exact tail
    · rw [Nat.min_eq_right (by omega), List.drop_length]
      exact tail.trans (List.drop_eq_nil_of_le (by omega))
  · rw [List.length_append]
    exact Nat.le_add_right_of_le kept.answered
  · rw [List.drop_append_of_le_length kept.answered, ← kept.inFlight, ← kept.nextCompletion_eq]
    rfl

/-- A poll is refused, or it tells the completion of the first task not told yet. -/
theorem Kept.poll_cases (kept : account.Kept usual) :
    ((account.refusing = true ∨ account.answered = account.sent.length) ∧
      ∃ fault, poll account.device = .error fault (account.device.record .poll)) ∨
    ∃ inside : account.answered < account.sent.length, account.refusing = false ∧
      poll account.device = .ok () { account.device.record .poll with
        registers := account.sent[account.answered].apply account.device.registers
        inFlight := account.sent.drop (account.answered + 1) } := by
  rw [← kept.refusing]
  cases refuses : account.device.failPolls with
  | true => exact .inl ⟨.inl rfl, _, poll_of_refusing refuses⟩
  | false =>
      rcases Nat.lt_or_ge account.answered account.sent.length with inside | all
      · have waiting := kept.inFlight.trans (List.drop_eq_getElem_cons inside)
        exact .inr ⟨inside, rfl, poll_of_waiting waiting refuses⟩
      · have nothing := kept.inFlight.trans (List.drop_eq_nil_of_le all)
        exact .inl ⟨.inr (Nat.le_antisymm kept.answered all), _, poll_of_nothing refuses nothing⟩

theorem Kept.polls (kept : account.Kept usual) (placed : account.Placed usual) :
    (account.serve usual .poll).Kept usual := by
  unfold Account.serve
  rcases kept.poll_cases with ⟨-, fault, refused⟩ | ⟨inside, answers, polled⟩
  · simp only [refused]
    exact kept.recorded .poll
  · have told : account.sent.getD account.answered [] = account.sent[account.answered] := by
      rw [List.getD_eq_getElem?_getD, List.getElem?_eq_getElem inside, Option.getD_some]
    have own := placed.sent _ (List.getElem_mem inside)
    simp only [polled, told]
    exact ⟨kept.usual, kept.taken, kept.script, inside, rfl, kept.refusing, kept.shows.apply own⟩

theorem Kept.serve (kept : account.Kept usual) (placed : account.Placed usual) (use : Use) :
    (account.serve usual use).Kept usual := by
  cases use with
  | script completion =>
      refine ⟨kept.usual, ?_, ?_, kept.answered, kept.inFlight, kept.refusing, kept.shows⟩
      · exact Nat.le_trans kept.taken (by simp [Account.serve])
      · simp [Account.serve, pushCompletion, kept.script, List.drop_append_of_le_length kept.taken]
  | failPolls refuse =>
      exact ⟨kept.usual, kept.taken, kept.script, kept.answered, kept.inFlight, rfl, kept.shows⟩
  | write offset data =>
      by_cases inside : offset + data.size ≤ registerSpace
      · simp only [Account.serve, writeRegisters, if_pos inside]
        exact ⟨kept.usual, kept.taken, kept.script, kept.answered, kept.inFlight, kept.refusing,
          kept.shows.overwrite inside⟩
      · simp only [Account.serve, writeRegisters, if_neg inside]
        exact kept
  | read offset length =>
      by_cases inside : offset + length ≤ registerSpace
      · simp only [Account.serve, readRegisters, if_pos inside]
        exact kept.recorded _
      · simp only [Account.serve, readRegisters, if_neg inside]
        exact kept
  | announceLineBuffers entries => exact kept.recorded _
  | announcePatches table => exact kept.recorded _
  | send => exact kept.sends
  | poll => exact kept.polls placed

/-- After any uses the device keeps step with the account. -/
theorem kept_after {usual : Completion} (placed : usual.Addressable) {uses : List Use}
    (own : ∀ use ∈ uses, use.Addressable) :
    (after usual uses).Kept usual ∧ (after usual uses).Placed usual := by
  induction uses using List.reverseRecOn with
  | nil => exact ⟨.fresh usual, .fresh placed⟩
  | append_singleton uses use ih =>
      rw [List.forall_mem_append, List.forall_mem_singleton] at own
      obtain ⟨kept, placed⟩ := ih own.1
      rw [after_concat]
      exact ⟨kept.serve placed use, placed.serve own.2⟩

end Account

/-! ### Register accesses -/

/-- Bytes that are read are those that were written last. -/
theorem Shows.read {device next : SimulatedDevice} {written : List (Nat × Byte)}
    (shows : Shows device.registers written) {offset length : Nat} {bytes : Bytes}
    (read : readRegisters offset length device = .ok bytes next) :
    bytes.size = length ∧ next.registers = device.registers ∧
      ∀ position < length, bytes.at0 position = lastWritten written (offset + position) := by
  by_cases inside : offset + length ≤ registerSpace
  · rw [readRegisters, if_pos inside] at read
    cases read
    refine ⟨?_, rfl, fun position known => ?_⟩
    · rw [Array.size_extract, shows.space]
      omega
    · rw [Bytes.at0_extract, if_pos (by omega), shows.bytes]
  · rw [readRegisters, if_neg inside] at read
    cases read

namespace Account

/-! ### Polls -/

section Polls

variable {usual : Completion} {account : Account}

end Polls

/-! ### After any uses -/

end Account

end SimulatedDevice

end VideoAccel
