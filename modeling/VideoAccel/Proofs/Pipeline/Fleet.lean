import VideoAccel.Proofs.Memory.Ledger
import VideoAccel.Proofs.Memory.Numbering
import VideoAccel.Proofs.Pipeline.Balance
import VideoAccel.Proofs.Pipeline.Progress
import Mathlib.Algebra.Ring.Nat
import Mathlib.Data.List.Perm.Basic

/-!
Decoders that share one allocator.

The decoders of a `Fleet` join at any time and are initialised, used, closed and initialised again in
any order; in between the allocator may be told to refuse and to grant again. The buffers that are
out are at every moment exactly those of the decoders at work (`Fleet.Accounted`), and none of them
ever goes back twice (`Fleet.Run.accounted`).
-/

namespace VideoAccel

variable {δ α : Type}

namespace Decoder

/-- The decoder on the allocator as it is now. -/
def onMemory (memory : α) : Decoder δ α → Decoder δ α :=
  mapBoard fun board => { board with memory }

@[simp] theorem board_mapBoard (change : Board δ α → Board δ α) (decoder : Decoder δ α) :
    (decoder.mapBoard change).board = change decoder.board := by
  cases decoder <;> rfl

@[simp] theorem owned_mapBoard (change : Board δ α → Board δ α) (decoder : Decoder δ α) :
    (decoder.mapBoard change).owned = decoder.owned := by
  cases decoder <;> rfl

@[simp] theorem owned_onMemory (memory : α) (decoder : Decoder δ α) :
    (decoder.onMemory memory).owned = decoder.owned :=
  owned_mapBoard _ decoder

theorem onMemory_of_eq {memory : α} {decoder : Decoder δ α} (same : decoder.board.memory = memory) :
    decoder.onMemory memory = decoder := by
  subst same
  cases decoder <;> rfl

@[simp] theorem memory_onMemory (memory : α) (decoder : Decoder δ α) :
    (decoder.onMemory memory).board.memory = memory := by
  rw [onMemory, board_mapBoard]

end Decoder

/-- An allocator and the decoders that take their buffers from it. -/
structure Fleet (δ α : Type) where
  memory : α
  decoders : List (Decoder δ α)

namespace Fleet

/-- The decoders on one allocator. -/
def on (memory : α) (decoders : List (Decoder δ α)) : Fleet δ α :=
  ⟨memory, decoders.map (·.onMemory memory)⟩

/-- The tags of all buffers of all decoders. -/
def owned (fleet : Fleet δ α) : List (Handle × Nat) :=
  fleet.decoders.flatMap Decoder.owned

/-- The tags of all buffers of all decoders but one. -/
def ownedBesides (fleet : Fleet δ α) (i : Nat) : List (Handle × Nat) :=
  (fleet.decoders.eraseIdx i).flatMap Decoder.owned

/-- All decoders see the allocator as it is. -/
def Coherent (fleet : Fleet δ α) : Prop :=
  ∀ decoder ∈ fleet.decoders, decoder.board.memory = fleet.memory

@[simp] theorem memory_on (memory : α) (decoders : List (Decoder δ α)) :
    (on memory decoders).memory = memory := rfl

theorem getElem?_on (memory : α) (decoders : List (Decoder δ α)) (i : Nat) :
    (on memory decoders).decoders[i]? = decoders[i]?.map (·.onMemory memory) :=
  List.getElem?_map

@[simp] theorem owned_on (memory : α) (decoders : List (Decoder δ α)) :
    (on memory decoders).owned = decoders.flatMap Decoder.owned := by
  simp [on, owned, List.flatMap_map]

theorem coherent_on (memory : α) (decoders : List (Decoder δ α)) : (on memory decoders).Coherent := by
  intro decoder member
  obtain ⟨before, -, rfl⟩ := List.mem_map.mp member
  exact Decoder.memory_onMemory memory before

/-- What all decoders own does not depend on their boards. -/
theorem flatMap_owned_modify (decoders : List (Decoder δ α)) (i : Nat)
    (change : Board δ α → Board δ α) :
    (decoders.modify i (·.mapBoard change)).flatMap Decoder.owned =
      decoders.flatMap Decoder.owned := by
  have same : (decoders.modify i (·.mapBoard change)).map Decoder.owned =
      decoders.map Decoder.owned := by
    apply List.ext_getElem?
    intro j
    rw [List.getElem?_map, List.getElem?_map, List.getElem?_modify]
    by_cases here : i = j
    · simp [here, Function.comp_def]
    · simp [here]
  rw [List.flatMap_def, same, List.flatMap_def]

theorem on_of_coherent {fleet : Fleet δ α} (coherent : fleet.Coherent) :
    on fleet.memory fleet.decoders = fleet := by
  have same : fleet.decoders.map (·.onMemory fleet.memory) = fleet.decoders := by
    conv => rhs; rw [← List.map_id fleet.decoders]
    exact List.map_congr_left fun decoder member => Decoder.onMemory_of_eq (coherent decoder member)
  rw [on, same]

theorem owned_perm {fleet : Fleet δ α} {i : Nat} {decoder : Decoder δ α}
    (found : fleet.decoders[i]? = some decoder) :
    fleet.owned.Perm (decoder.owned ++ fleet.ownedBesides i) := by
  obtain ⟨inside, rfl⟩ := List.getElem?_eq_some_iff.mp found
  exact (List.getElem_cons_eraseIdx_perm inside).symm.flatMap_right Decoder.owned

section Memory

variable [Device δ] [Allocator α]

/-- One decoder makes a call, and all see what it did to the allocator. -/
def call (fleet : Fleet δ α) (i : Nat) (call : Call) : Fleet δ α :=
  match fleet.decoders[i]? with
  | none => fleet
  | some decoder =>
      on (call.next decoder).board.memory (fleet.decoders.set i (call.next decoder))

/-- The fleets that can come of an allocator. -/
inductive Run (outside : α → α → Prop) (memory : α) : Fleet δ α → Prop where
  | start : Run outside memory ⟨memory, []⟩
  /-- A decoder joins that is not at work. -/
  | join {fleet : Fleet δ α} (earlier : Run outside memory fleet) (board : Board δ α) :
      Run outside memory (on fleet.memory (fleet.decoders ++ [.idle board]))
  | call {fleet : Fleet δ α} (earlier : Run outside memory fleet) (i : Nat) (call : Call) :
      Run outside memory (fleet.call i call)
  /-- A decoder gets another device, other pictures or another journal. -/
  | refit {fleet : Fleet δ α} (earlier : Run outside memory fleet) (i : Nat) (board : Board δ α) :
      Run outside memory
        (on fleet.memory (fleet.decoders.modify i (·.mapBoard fun _ => board)))
  /-- Someone else turns to the allocator. -/
  | outside {fleet : Fleet δ α} (earlier : Run outside memory fleet) {after : α}
      (allowed : outside fleet.memory after) : Run outside memory (on after fleet.decoders)

variable {fleet : Fleet δ α} {i : Nat} {decoder : Decoder δ α}

theorem call_of_found (found : fleet.decoders[i]? = some decoder) (call : Call) :
    fleet.call i call =
      on (call.next decoder).board.memory (fleet.decoders.set i (call.next decoder)) := by
  rw [Fleet.call, found]

theorem Run.coherent {outside : α → α → Prop} {memory : α} (run : Run outside memory fleet) :
    fleet.Coherent := by
  induction run with
  | start => exact fun _ impossible => absurd impossible List.not_mem_nil
  | join earlier board ih => exact coherent_on _ _
  | @call fleet earlier i call ih =>
      cases found : fleet.decoders[i]? with
      | none =>
          rw [Fleet.call, found]
          exact ih
      | some decoder =>
          rw [call_of_found found]
          exact coherent_on _ _
  | refit earlier i board ih => exact coherent_on _ _
  | outside earlier allowed ih => exact coherent_on _ _

/-- The decoder after its call. -/
theorem getElem?_call (found : fleet.decoders[i]? = some decoder) (call : Call) :
    (fleet.call i call).decoders[i]? = some (call.next decoder) := by
  obtain ⟨inside, -⟩ := List.getElem?_eq_some_iff.mp found
  rw [call_of_found found]
  simp [on, inside, Decoder.onMemory_of_eq]

@[simp] theorem length_call (fleet : Fleet δ α) (i : Nat) (call : Call) :
    (fleet.call i call).decoders.length = fleet.decoders.length := by
  unfold Fleet.call
  split
  · rfl
  · simp [on]

/-! ### The books of a fleet -/

variable [Books α]

omit [Device δ] in
/-- What others own is, for one decoder, what all other decoders own. -/
theorem balanced_of_owes (coherent : fleet.Coherent) (owes : Books.Owes fleet.memory fleet.owned)
    (found : fleet.decoders[i]? = some decoder) : decoder.Balanced (fleet.ownedBesides i) := by
  unfold Decoder.Balanced
  rw [coherent decoder (List.mem_of_getElem? found)]
  exact Books.perm owes (owned_perm found)

theorem Run.owes {outside : α → α → Prop} {memory : α} (run : Run outside memory fleet)
    (calm : ∀ {before after tags}, outside before after → Books.Owes before tags →
      Books.Owes after tags)
    (begins : Books.Owes memory []) : Books.Owes fleet.memory fleet.owned := by
  induction run with
  | start => exact begins
  | @join fleet earlier board ih =>
      rw [owned_on, List.flatMap_append]
      simpa [Decoder.owned, owned] using ih
  | @call fleet earlier i call ih =>
      cases found : fleet.decoders[i]? with
      | none =>
          rw [Fleet.call, found]
          exact ih
      | some decoder =>
          have next := (balanced_of_owes earlier.coherent ih found).next call
          obtain ⟨inside, -⟩ := List.getElem?_eq_some_iff.mp found
          rw [call_of_found found, owned_on]
          exact Books.perm next
            ((List.set_perm_cons_eraseIdx inside (call.next decoder)).symm.flatMap_right _)
  | @refit fleet earlier i board ih =>
      rw [owned_on, flatMap_owned_modify]
      exact ih
  | outside earlier allowed ih =>
      rw [owned_on]
      exact calm allowed ih

end Memory

end Fleet

/-! ### Fleets on an arena -/

/-- The arena is told to refuse from some buffer on, or to grant every one. -/
def Arena.Injects (before after : Arena) : Prop :=
  ∃ failAfter, after = { before with failAfter }

/-- The same for an arena that writes down what goes back. -/
def Ledger.Injects (before after : Ledger) : Prop :=
  ∃ failAfter, after = { before with arena := { before.arena with failAfter } }

namespace Fleet

/-- A decoder is idle afterwards; what is out belongs to the others, and none of the buffers that
were its own is live. -/
structure Vacates (before : Fleet δ Arena) (i : Nat) (decoder : Decoder δ Arena)
    (after : Fleet δ Arena) : Prop where
  idle : ∃ board, after.decoders[i]? = some (.idle board)
  live : after.memory.live.Perm (before.ownedBesides i)
  dead : ∀ tag ∈ decoder.owned, ¬ after.memory.Live tag.1

variable [Device δ]

/-- The buffers that are out are those of the decoders, and they stay in order when a decoder is
closed or cannot be initialised. -/
structure Accounted (fleet : Fleet δ Arena) : Prop where
  live : fleet.memory.live.Perm fleet.owned
  distinct : (fleet.memory.live.map Prod.fst).Nodup
  bytes : fleet.memory.liveBytes = (fleet.owned.map Prod.snd).sum
  /-- When one decoder alone is at work, its buffers are all that is out. -/
  alone : ∀ (i : Nat) (session : Session δ Arena), fleet.decoders[i]? = some (.working session) →
    (∀ (j : Nat) (other : Session δ Arena), fleet.decoders[j]? = some (.working other) → j = i) →
    fleet.memory.live.Perm
      ((session.lines.memory.toList ++ session.motion.buffers ++ [session.scratch]).map (·.tag))
  closed : ∀ (i : Nat) decoder, fleet.decoders[i]? = some decoder →
    fleet.Vacates i decoder (fleet.call i .release)
  /-- Usable settings, but no scratch buffer. -/
  starved : ∀ (i : Nat) decoder config reporting fault after, fleet.decoders[i]? = some decoder →
    config.validate = .ok () →
    Decoder.initialise config reporting decoder = .error fault after →
    fleet.Vacates i decoder (fleet.call i (.initialise config reporting))
  /-- A pipeline depth outside the supported range. -/
  rejected : ∀ (i : Nat) config reporting,
    config.pipelineDepth = 0 ∨ Config.maxDepth < config.pipelineDepth →
    (∀ decoder : Decoder δ Arena, ∃ fault,
      Decoder.initialise config reporting decoder = .error fault decoder) ∧
    fleet.call i (.initialise config reporting) = fleet

variable {fleet : Fleet δ Arena}

/-- A call after which a decoder is idle vacates its buffers. -/
theorem vacates_of_idle (coherent : fleet.Coherent) (owes : fleet.memory.Owes fleet.owned) {i : Nat}
    {decoder : Decoder δ Arena} (found : fleet.decoders[i]? = some decoder) {call : Call}
    {board : Board δ Arena} (idle : call.next decoder = .idle board) :
    fleet.Vacates i decoder (fleet.call i call) := by
  have before : decoder.board.memory.Owes (decoder.owned ++ fleet.ownedBesides i) :=
    balanced_of_owes coherent owes found
  have after : (call.next decoder).Balanced (fleet.ownedBesides i) :=
    (balanced_of_owes coherent owes found).next call
  rw [idle] at after
  have left : (fleet.call i call).memory.Owes (fleet.ownedBesides i) := by
    rw [call_of_found found, idle]
    exact after
  refine ⟨⟨board, ?_⟩, left.live, fun tag member => before.dead left member⟩
  rw [getElem?_call found, idle]

theorem Accounted.of_run (run : Run Arena.Injects {} fleet) : fleet.Accounted := by
  have coherent := run.coherent
  have owes : fleet.memory.Owes fleet.owned := run.owes
    (fun injects owes => by
      obtain ⟨failAfter, rfl⟩ := injects
      exact Arena.Owes.of_same owes rfl rfl)
    (Arena.owes_nil rfl)
  refine ⟨owes.live, ?_, ?_, ?_, ?_, ?_, ?_⟩
  · exact (owes.live.map Prod.fst).nodup_iff.mpr owes.distinct
  · exact (owes.live.map Prod.snd).sum_nat
  · intro i session found only
    have none : fleet.ownedBesides i = [] := by
      refine List.flatMap_eq_nil_iff.mpr fun decoder member => ?_
      obtain ⟨j, apart, there⟩ := List.mem_eraseIdx_iff_getElem?.mp member
      cases decoder with
      | idle board => rfl
      | working other => exact absurd (only j other there) apart
    have mine := owes.live.trans (owned_perm found)
    rw [none, List.append_nil] at mine
    simpa [Decoder.owned, Session.owned, LineBufferCache.tags, MotionPool.tags] using mine
  · intro i decoder found
    cases decoder with
    | idle board => exact vacates_of_idle coherent owes found rfl
    | working session => exact vacates_of_idle coherent owes found rfl
  · intro i decoder config reporting fault after found valid ran
    have idle : ∃ board, (Call.initialise config reporting).next decoder = .idle board := by
      rw [Call.next_initialise]
      rcases Decoder.initialise_cases config reporting decoder with
        ⟨other, invalid, -⟩ | ⟨other, board, -, -, refused⟩ | ⟨scratch, board, -, -, opened⟩
      · cases valid.symm.trans invalid
      · exact ⟨_, by rw [refused, Action.after_error]⟩
      · cases ran.symm.trans opened
    obtain ⟨board, idle⟩ := idle
    exact vacates_of_idle coherent owes found idle
  · intro i config reporting outside
    have refused : ∀ decoder : Decoder δ Arena, ∃ fault,
        Decoder.initialise config reporting decoder = .error fault decoder := by
      intro decoder
      exact ⟨_, by rw [Decoder.initialise, Config.validate, if_pos outside]⟩
    refine ⟨refused, ?_⟩
    cases found : fleet.decoders[i]? with
    | none => rw [Fleet.call, found]
    | some decoder =>
        obtain ⟨fault, ran⟩ := refused decoder
        obtain ⟨inside, same⟩ := List.getElem?_eq_some_iff.mp found
        rw [call_of_found found, Call.next_initialise, ran, Action.after_error,
          coherent decoder (List.mem_of_getElem? found), ← same, List.set_getElem_self]
        exact on_of_coherent coherent

/-- On a fresh arena the handles that are out are those of signed words of 32 bits, as long as no more
than `2 ^ 31 - 10` buffers were handed out. -/
theorem Run.handle_lt (run : Run Arena.Injects {} fleet)
    (few : 10 + (fleet.memory.allocCount : Int) ≤ Numeral.bound31) :
    ∀ tag ∈ fleet.owned, tag.1.value < Numeral.bound31 := by
  have numbered : fleet.memory.NumberedFrom 10 := by
    let _ := Arena.numbering 10
    refine run.owes (fun injects numbered => ?_) rfl
    obtain ⟨failAfter, rfl⟩ := injects
    exact numbered
  refine numbered.handle_lt ?_ few
  refine run.owes (fun injects owes => ?_) (Arena.owes_nil rfl)
  obtain ⟨failAfter, rfl⟩ := injects
  exact Arena.Owes.of_same owes rfl rfl

/-- In every fleet on a fresh arena, whatever its decoders were asked to do and whenever the arena was
told to refuse, the buffers that are out are those of the decoders; and on an arena that writes down
what goes back, every buffer is live or went back exactly once. Buffers are told apart by numbers without
a bound; `Run.handle_lt` tells how long 32 bits are enough for them. -/
theorem Run.accounted :
    (∀ fleet : Fleet δ Arena, Run Arena.Injects {} fleet → fleet.Accounted) ∧
    ∀ fleet : Fleet δ Ledger, Run Ledger.Injects {} fleet →
      fleet.memory.returned.Nodup ∧
      (∀ handle ∈ fleet.memory.returned, ¬ fleet.memory.arena.Live handle) ∧
      fleet.memory.arena.allocCount =
        fleet.memory.arena.liveCount + fleet.memory.returned.length := by
  refine ⟨fun fleet run => .of_run run, fun fleet run => ?_⟩
  have owes : fleet.memory.Owes fleet.owned := run.owes
    (fun injects owes => by
      obtain ⟨failAfter, rfl⟩ := injects
      exact Ledger.Owes.of_same owes rfl rfl rfl rfl)
    ⟨Arena.owes_nil rfl, List.nodup_nil, nofun, nofun, rfl⟩
  refine ⟨owes.once, fun handle member live => ?_, ?_⟩
  · obtain ⟨tag, known, rfl⟩ := owes.live.live_iff.mp live
    exact owes.gone _ member (List.mem_map_of_mem known)
  · rw [owes.complete, Arena.liveCount, owes.live.live.length_eq]

/-- A decoder is initialised and asked for the registers of two pictures, the second time with no
buffer to be had, and then closed; another one, on an arena that writes down what goes back, is
initialised twice. -/
theorem starved_picture_accounted :
    (∃ (fleet : Fleet SimulatedDevice Arena) (session : Session SimulatedDevice Arena),
      fleet.memory.failAfter = some 0 ∧ fleet.decoders[0]? = some (.working session) ∧
      fleet.memory.live.Perm
        ((session.lines.memory.toList ++ session.motion.buffers ++ [session.scratch]).map (·.tag)) ∧
      (fleet.call 0 (.generate (.ofSize 1 128 64))).memory.live.Perm
        (fleet.call 0 (.generate (.ofSize 1 128 64))).owned ∧
      (fleet.call 0 .release).memory.live = []) ∧
    ∃ fleet : Fleet SimulatedDevice Ledger,
      fleet.decoders.length = 1 ∧ fleet.memory.returned.Nodup := by
  constructor
  · obtain ⟨opened, initialised, -⟩ := @Decoder.initialise_atRest {} rfl true 1 64 64
    let joined : Fleet SimulatedDevice Arena := on {} [.idle (Board.atRest 1 64 64)]
    let begun := joined.call 0 (.initialise {} true)
    let built := begun.call 0 (.generate (.ofSize 0 64 64))
    let starving := on { built.memory with failAfter := some 0 } built.decoders
    have run : Run Arena.Injects {} starving :=
      .outside (.call (.call (.join .start (Board.atRest 1 64 64)) 0 _) 0 _) ⟨some 0, rfl⟩
    have first : begun.decoders[0]? = some (.working opened) := by
      rw [getElem?_call (show joined.decoders[0]? = some (.idle (Board.atRest 1 64 64)) from rfl),
        Call.next_initialise, initialised, Action.after_ok]
    have second := getElem?_call first (.generate (.ofSize 0 64 64))
    rw [Call.next_generate] at second
    have third := getElem?_on starving.memory built.decoders 0
    rw [second] at third
    obtain ⟨session, third⟩ : ∃ session, starving.decoders[0]? = some (.working session) :=
      ⟨_, third⟩
    have alone : starving.decoders.length = 1 := by
      simp [starving, on, built, begun, joined]
    have accounted := Run.accounted.1 starving run
    have starved := Run.accounted.1 _ (run.call 0 (.generate (.ofSize 1 128 64)))
    refine ⟨starving, session, rfl, third, accounted.alone 0 session third ?_, starved.live, ?_⟩
    · intro j other there
      obtain ⟨inside, -⟩ := List.getElem?_eq_some_iff.mp there
      omega
    · have vacated := (accounted.closed 0 (.working session) third).live
      have none : starving.ownedBesides 0 = [] := by
        have nobody : starving.decoders.eraseIdx 0 = [] :=
          List.eq_nil_of_length_eq_zero (by rw [List.length_eraseIdx_of_lt (by omega), alone])
        rw [ownedBesides, nobody, List.flatMap_nil]
      rw [none] at vacated
      exact List.perm_nil.mp vacated
  · have run : Run (δ := SimulatedDevice) Ledger.Injects {} _ :=
      .call (.call (.join .start ⟨.idle .done, {}, .ofSize 1 64 64 .nv12, #[], #[]⟩) 0
        (.initialise {} true)) 0 (.initialise {} true)
    refine ⟨_, ?_, (Run.accounted.2 _ run).1⟩
    simp [on]

end Fleet

end VideoAccel
