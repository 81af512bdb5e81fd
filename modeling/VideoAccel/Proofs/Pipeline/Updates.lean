import VideoAccel.Proofs.Pipeline.Caches
import VideoAccel.Proofs.Pipeline.Progress

/-!
Announced changes of the parameter sets, outside fast mode.

There is a single slot, and its cache comes to see exactly those pictures whose `generate` got as far
as building registers (`Moment.served`). A picture that is skipped because of its flags, or refused a
shared buffer, never reaches the cache, and neither does the change that it announces. What a
generated task finds in its region is the header that the pictures before it left in use, with its
own bitmaps (`Run.parameters_tell`). It is the task's own header if the pictures that reached the
cache announce every change among themselves; that the pictures presented to the decoder do is not
enough (`skipped_update_lost`).
-/

namespace VideoAccel

variable {δ α : Type}

namespace Moment

/-- The picture of the task that a `generate` is given. -/
def presented? (moment : Moment δ α) : Option Picture :=
  match moment.call with
  | .generate task => some task.coded.picture
  | _ => none

/-- The pictures that were presented, in order. -/
def presented (moments : List (Moment δ α)) : List Picture :=
  moments.filterMap presented?

variable [Allocator α]

/-- The picture of a `generate` that gets as far as building registers. -/
def served? (moment : Moment δ α) : Option Picture :=
  match moment.call, moment.before with
  | .generate task, .working session =>
      if session.reaches task then some task.coded.picture else none
  | _, _ => none

/-- The pictures that came to the cache, in order. -/
def served (moments : List (Moment δ α)) : List Picture :=
  moments.filterMap served?

theorem served_concat (moments : List (Moment δ α)) (moment : Moment δ α) :
    served (moments ++ [moment]) = served moments ++ moment.served?.toList :=
  filterMap_concat served? moments moment

theorem served_of_none {moments : List (Moment δ α)} {moment : Moment δ α}
    (none : moment.served? = none) : served (moments ++ [moment]) = served moments := by
  rw [served_concat, none]
  exact List.append_nil _

theorem served?_generate (session : Session δ α) (task : Task) :
    served? ⟨.working session, .generate task⟩ =
      if session.reaches task then some task.coded.picture else none := rfl

theorem served?_of_taskless (before : Decoder δ α) {call : Call} (taskless : call.task? = none) :
    served? ⟨before, call⟩ = none := by
  cases call with
  | generate task => cases taskless
  | start task => cases taskless
  | wait task => cases taskless
  | control command => rfl
  | reset => rfl
  | flush => rfl
  | initialise config reporting => rfl
  | release => rfl

end Moment

namespace Session

/-- Outside fast mode there is only slot 0. -/
theorem Formed.sole {session : Session δ α} (formed : session.Formed)
    (slow : session.config.fastMode = false) {index : Nat} {slot : Slot SlotContent}
    (found : session.slots.get? index = some slot) : index = 0 := by
  obtain ⟨inside, -⟩ := List.getElem?_eq_some_iff.mp found
  have capacity := formed.capacity
  rw [Config.slotCount, slow, if_neg Bool.false_ne_true] at capacity
  exact Nat.lt_one_iff.mp (capacity ▸ inside)

/-- The session works outside fast mode, and the cache of its slot stands for the header that these
pictures left in use. -/
structure Tells (session : Session δ α) (pictures : List Picture) : Prop where
  slow : session.config.fastMode = false
  holds : ∀ cache, session.cacheOf? 0 = some cache → cache.Holds (Picture.headerOf pictures)

theorem Tells.of_same {pictures : List Picture} {before after : Session δ α}
    (tells : before.Tells pictures) (config : after.config = before.config)
    (same : ∀ index, after.cacheOf? index = before.cacheOf? index) : after.Tells pictures where
  slow := config ▸ tells.slow
  holds cache found := tells.holds cache (same 0 ▸ found)

/-- A `generate` that reaches the cache leaves the header in use after its picture, any other one
leaves the header. -/
theorem Tells.generates [Allocator α] {prior : List (Moment δ α)} {session later : Session δ α}
    {task : Task} {outcome : Except Fault Task} (formed : session.Formed)
    (tells : session.Tells (Moment.served prior))
    (generates : Generates session task outcome later) :
    later.Tells (Moment.served (prior ++ [⟨.working session, .generate task⟩])) := by
  rw [Moment.served_concat, Moment.served?_generate]
  cases generates.caches with
  | kept stops same =>
      rw [stops, if_neg Bool.false_ne_true, Option.toList_none, List.append_nil]
      exact tells.of_same generates.settings.1 same
  | @served reaches own slot first caches =>
      obtain rfl := formed.sole tells.slow first.found
      rw [reaches, if_pos rfl, Option.toList_some]
      have holds := tells.holds _ (cacheOf?_of_found first.found)
      refine ⟨generates.settings.1 ▸ tells.slow, fun cache found => ?_⟩
      rw [caches, if_pos rfl] at found
      cases found
      rw [Picture.headerOf_concat, ← tells.slow]
      exact (holds.update task.coded.picture session.config.fastMode).1

/-- Outside fast mode an opened session has an unused cache. -/
theorem Tells.opened {config : Config} (slow : config.fastMode = false) (reporting : Bool)
    (scratch : Buffer) (board : Board δ α) :
    (Session.opened config reporting scratch board).Tells [] where
  slow := slow
  holds cache found := by
    rw [cacheOf?_opened found]
    exact ParameterCache.holds_empty

end Session

section Runs

variable [Device δ] [Allocator α] {surroundings : Board δ α → Board δ α → Prop}

/-- Along a run the cache of the slot follows the pictures that come to it. -/
theorem Run.tells {config : Config} {reporting : Bool} {decoder final : Decoder δ α}
    {capability : Capability} {first : Session δ α}
    (opens : Decoder.initialise config reporting decoder = .ok capability (.working first))
    (slow : config.fastMode = false) {moments : List (Moment δ α)}
    (run : Run surroundings (.working first) moments final)
    (continues : ∀ moment ∈ moments, moment.call.Continues) :
    ∃ session, final = .working session ∧ session.Formed ∧
      session.Tells (Moment.served moments) := by
  obtain ⟨valid, scratch, left, rfl, -, -⟩ := Decoder.initialise_eq_ok opens
  refine run.history (I := fun prior session => session.Tells (Moment.served prior))
    ?_ ?_ ?_ ?_ ?_ (.opened valid reporting scratch left) (.opened slow reporting scratch left)
    continues
  · exact fun formed tells _ generates => tells.generates formed generates
  · intro prior session task outcome later _ tells _ starts
    rw [Moment.served_of_none rfl]
    exact tells.of_same starts.settings.1 starts.caches
  · intro prior session task outcome later _ tells _ waits
    rw [Moment.served_of_none rfl]
    exact tells.of_same waits.settings.1 waits.caches
  · intro prior session call later tells taskless still
    rw [Moment.served_of_none (Moment.served?_of_taskless _ taskless)]
    exact tells.of_same still.config (Session.cacheOf?_of_same still.slots)
  · exact fun tells _ => tells.of_same rfl (Session.cacheOf?_of_same rfl)

/-- Outside fast mode, after a task was generated each of the 256 entries of its region has the header
that is in use after the pictures that reached the cache, with the bitmaps of the task's own picture.
The region is byte for byte what a serialisation from scratch leaves there exactly if that header
reads like the task's own. So it is whenever every change of the parameter sets among the pictures
that reached the cache is announced: no matter how many tasks were skipped or refused in between, as
long as the announcements were not theirs. -/
theorem Run.parameters_tell {config : Config} {reporting : Bool} {decoder : Decoder δ α}
    {capability : Capability} {first session later : Session δ α} {task : Task} {index : Nat}
    (opens : Decoder.initialise config reporting decoder = .ok capability (.working first))
    (slow : config.fastMode = false) {moments : List (Moment δ α)}
    (run : Run surroundings (.working first) moments (.working session))
    (continues : ∀ moment ∈ moments, moment.call.Continues)
    (generated : session.Generated task index later) :
    let picture := task.coded.picture
    let start := (later.layout.region index).parameters
    ∃ header, Picture.headerOf (Moment.served moments ++ [picture]) = some header ∧
      (∀ copy < 256, ∃ next, ParameterEntry.read (later.scratch.reader (start + copy * 48) 6) =
          .ok ((ParameterEntry.of picture).withHeader header) next ∧
        next.ahead = List.replicate 227 false) ∧
      (later.scratch.HoldsCopies start picture.freshEntry ↔
        Writer.string header.headerFields = Writer.string picture.headerFields) ∧
      ((Moment.served moments ++ [picture]).IsChain Picture.Announces →
        later.scratch.HoldsCopies start picture.freshEntry) := by
  intro picture start
  obtain ⟨_, same, formed, tells⟩ := Run.tells opens slow run continues
  cases same
  obtain ⟨layout, -, cache, found, -, blobs⟩ := generated.blobs formed
  -- The run speaks of the cache of slot 0, which is the slot that the task got.
  obtain ⟨slot, there, -⟩ := Option.map_eq_some_iff.mp found
  obtain rfl := formed.sole tells.slow there
  obtain ⟨-, bits⟩ := (tells.holds cache found).update picture session.config.fastMode
  have parameters := blobs.parameters
  rw [← layout] at parameters
  have fresh := ParameterCache.holdsCopies_fresh_iff bits parameters
  have used := Picture.headerOf_concat (Moment.served moments) picture
  rw [← tells.slow] at used
  refine ⟨_, used, fun copy known => ParameterCache.copy_reads bits parameters known, fresh, ?_⟩
  intro announced
  have own := (Picture.headerOf_announced announced).1
  rw [used, List.getLast?_concat] at own
  exact fresh.mpr (congrArg Writer.string (Option.some.inj own))

end Runs

/-- A picture is generated, started and waited for, then another task comes. -/
def Session.pictureAndTask (task : Task)
    (opened generated started waited : Session SimulatedDevice Arena) :
    List (Moment SimulatedDevice Arena) :=
  [⟨.working opened, .generate (.ofSize 0 64 64)⟩,
    ⟨.working generated, .start ((Task.ofSize 0 64 64).placed 0)⟩,
    ⟨.working started, .wait ((Task.ofSize 0 64 64).placed 0)⟩,
    ⟨.working waited, .generate task⟩]

/-- Outside fast mode, on a board at rest, a picture is decoded and the next task skipped; the slot
is free again. -/
theorem Session.picture_and_skip {task : Task} (flagged : task.flags.hasError = true) :
    ∃ opened generated started waited session : Session SimulatedDevice Arena, ∃ slot,
      Decoder.initialise { fastMode := false } true (.idle (Board.atRest 1 64 64)) =
        .ok (Decoder.capability { fastMode := false }) (.working opened) ∧
      Run (fun _ _ => False) (.working opened) (pictureAndTask task opened generated started waited)
        (.working session) ∧
      Moment.served (pictureAndTask task opened generated started waited) =
        [(Task.ofSize 0 64 64).coded.picture] ∧
      session.Able ∧ session.slots.FirstFree 0 slot := by
  obtain ⟨opened, initialised, able, slots, device, -, compressed, -⟩ :=
    @Decoder.initialise_atRest { fastMode := false } rfl true 1 64 64
  have free : opened.slots.FirstFree 0 ⟨false, .idle, .fresh { fastMode := false }⟩ := by
    rw [slots]
    exact SlotPool.ofDepth_firstFree (by decide) _
  obtain ⟨supply, scratch, content, journal, prepares, generated, able₁⟩ :=
    @generate_of_able _ able (.ofSize 0 64 64) rfl (fun _ => nofun) _ _ free (by
      rw [shapeOf_ofSize compressed]
      decide)
  have there := SlotPool.get?_put_self free.found ⟨true, .built, content⟩
  have owns : (opened.settle 0 ⟨true, .built, content⟩ supply scratch journal).Owns
      ((Task.ofSize 0 64 64).placed 0) .built 0 ⟨true, .built, content⟩ :=
    ⟨rfl, there, rfl, prepares.serves, rfl⟩
  obtain ⟨taken, later, sends, started, able₂⟩ :=
    @start_of_able _ able₁ ((Task.ofSize 0 64 64).placed 0) rfl _ _ owns
  have held := SlotPool.get?_put_self there ⟨true, .submitted, content⟩
  have atRest : (opened.settle 0 ⟨true, .built, content⟩ supply scratch journal).board.device =
      .idle .done := device
  have inFlight : taken.inFlight = [.done] := by
    rw [sends.inFlight, atRest]
    rfl
  obtain ⟨freed, file, last, -, waited, able₃⟩ :=
    @wait_of_able _ able₂ ((Task.ofSize 0 64 64).placed 0) rfl _ _
      ⟨rfl, held, rfl, prepares.serves, rfl⟩ _ _ inFlight
  obtain ⟨note, skipped, able₄⟩ := generate_of_flagged able₃ flagged
  have run₁ : Run (fun _ _ => False) (.working opened) _ _ := .call .nil (.generate (.ofSize 0 64 64))
  rw [Call.next_generate, generated, Action.after_ok] at run₁
  have run₂ := run₁.call (.start ((Task.ofSize 0 64 64).placed 0))
  rw [Call.next_start, started, Action.after_ok] at run₂
  have run₃ := run₂.call (.wait ((Task.ofSize 0 64 64).placed 0))
  rw [Call.next_wait, waited, Action.after_ok] at run₃
  have run₄ := run₃.call (.generate task)
  rw [Call.next_generate, skipped, Action.after_ok] at run₄
  refine ⟨opened, _, _, _, _, ⟨false, .idle, content.withFile (Layout.status.set 0 file)⟩,
    initialised, run₄, ?_, able₄, ?_, rfl,
    fun other before => absurd before (Nat.not_lt_zero other)⟩
  · have picture : opened.Generated (.ofSize 0 64 64) 0 _ := ⟨rfl, generated⟩
    simp [Moment.served, pictureAndTask, Moment.served?, picture.reaches, reaches_of_flagged flagged]
  · rw [recorded, reported_slots]
    exact SlotPool.get?_put_self held _

/-- The first picture is 64 pixels wide. The task that announces the change to 128 pixels is skipped,
and so the next one, which has nothing to announce, finds a header in its region that says 4
macroblocks. -/
theorem skipped_update_lost :
    let next : Task := .ofSize 2 128 64
    let updated : Picture := { next.coded.picture with parametersUpdated := true }
    let skipped : Task := { Task.ofSize 1 128 64 with
      flags := { parseError := true }, coded := { picture := updated } }
    ∃ opened generated started waited session later : Session SimulatedDevice Arena,
      let moments := Session.pictureAndTask skipped opened generated started waited
      Decoder.initialise { fastMode := false } true (.idle (Board.atRest 1 64 64)) =
        .ok (Decoder.capability { fastMode := false }) (.working opened) ∧
      Run (fun _ _ => False) (.working opened) moments (.working session) ∧
      session.Generated next 0 later ∧
      (Moment.presented moments ++ [next.coded.picture]).IsChain Picture.Announces ∧
      (∃ entry rest, ParameterEntry.read
          (later.scratch.reader (later.layout.region 0).parameters 6) = .ok entry rest ∧
        entry.sequence.widthInMacroblocks = 4) ∧
      ¬ later.scratch.HoldsCopies (later.layout.region 0).parameters
        next.coded.picture.freshEntry := by
  intro next updated skipped
  obtain ⟨opened, generated, started, waited, session, slot, opens, run, served, able, first⟩ :=
    @Session.picture_and_skip skipped rfl
  have continues : ∀ moment ∈ Session.pictureAndTask skipped opened generated started waited,
      moment.call.Continues := by
    simp [Session.pictureAndTask, Call.Continues]
  have placed : ∀ compressed, ∀ buffer ∈ LineBuffer.place ⟨128, 64, 8, 1, false, compressed⟩
      (LineBufferClass.all.zip Layout.lineBufferRegisters), buffer.offset < Numeral.bound32 := by
    decide
  obtain ⟨supply, scratch, content, journal, -, again, -⟩ :=
    @Session.generate_of_able session able next rfl (fun _ => nofun) _ _ first
      (placed session.compressed)
  obtain ⟨header, used, entries, fresh, -⟩ := Run.parameters_tell opens rfl run continues ⟨rfl, again⟩
  rw [served] at used
  obtain rfl : (Task.ofSize 0 64 64).coded.picture = header := Option.some.inj used
  obtain ⟨rest, entry, -⟩ := entries 0 (by decide)
  rw [Nat.zero_mul, Nat.add_zero] at entry
  refine ⟨opened, generated, started, waited, session, _, opens, run, ⟨rfl, again⟩, ?_,
    ⟨_, rest, entry, by decide⟩, fun holds => ?_⟩
  · exact .cons_cons (.inr (.inl rfl)) (.cons_cons (.inr (.inr ⟨rfl, rfl⟩)) (.singleton _))
  · have other : Writer.string (Task.ofSize 0 64 64).coded.picture.headerFields ≠
        Writer.string next.coded.picture.headerFields := by decide +kernel
    exact other (fresh.mp holds)

end VideoAccel
