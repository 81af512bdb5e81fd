import VideoAccel.Proofs.Pipeline.History
import VideoAccel.Proofs.Program.Blobs

/-!
The parameter caches of the slots.

Of all calls only a `generate` brings a cache up to date, and only one that gets as far as building
registers (`Session.reaches`): one that is skipped, finds no slot, or is refused a shared buffer
leaves every cache as it was (`Session.Generates.caches`). A task that was generated finds the blobs
of its own picture in its region, the parameter sets as its slot's cache has them
(`Session.Generated.blobs`).
-/

namespace VideoAccel

namespace Session

variable {δ α : Type}

/-- The parameter cache of a slot. -/
def cacheOf? (session : Session δ α) (index : Nat) : Option ParameterCache :=
  (session.slots.get? index).map (·.content.cache)

/-- A parameter cache after a task was served from it. -/
def serve (session : Session δ α) (task : Task) (cache : ParameterCache) : ParameterCache :=
  cache.update task.coded.picture
    (cache.mustSerialise task.coded.picture session.config.fastMode)

theorem cacheOf?_of_found {session : Session δ α} {index : Nat} {slot : Slot SlotContent}
    (found : session.slots.get? index = some slot) :
    session.cacheOf? index = some slot.content.cache := by
  rw [cacheOf?, found, Option.map_some]

theorem cacheOf?_of_same {before after : Session δ α} (slots : after.slots = before.slots)
    (index : Nat) : after.cacheOf? index = before.cacheOf? index := by
  rw [cacheOf?, slots, cacheOf?]

theorem cacheOf?_of_put {before after : Session δ α} {own : Nat} {old slot : Slot SlotContent}
    (found : before.slots.get? own = some old) (slots : after.slots = before.slots.put own slot)
    (index : Nat) :
    after.cacheOf? index = if own = index then some slot.content.cache else before.cacheOf? index := by
  rw [cacheOf?, slots]
  by_cases same : own = index
  · subst same
    rw [SlotPool.get?_put_self found, if_pos rfl, Option.map_some]
  · rw [SlotPool.get?_put_of_ne _ same, if_neg same, cacheOf?]

/-- Only the slot itself has changed, and its cache has not. -/
theorem cacheOf?_of_kept {before after : Session δ α} {own : Nat} {old : Slot SlotContent}
    (found : before.slots.get? own = some old) (slot : Slot SlotContent)
    (slots : after.slots = before.slots.put own slot)
    (kept : slot.content.cache = old.content.cache) (index : Nat) :
    after.cacheOf? index = before.cacheOf? index := by
  rw [cacheOf?_of_put found slots, kept]
  split
  · rename_i same
    rw [← same, cacheOf?_of_found found]
  · rfl

section Memory

variable [Allocator α]

/-- A `generate` of the task gets as far as building registers: the task carries no error flags and
holds no slot, there is a free one, and the shared buffers can be had. -/
def reaches (session : Session δ α) (task : Task) : Bool :=
  !task.flags.hasError && !(task.slot.any fun index => session.holds index task.id) &&
    session.slots.acquire.isSome &&
    (Action.outcome (session.provision task.coded.picture session.supply)).isOk

/-- Preparing a task brings its slot's cache up to date once the shared buffers are there. -/
theorem Prepares.cache {session : Session δ α} {index : Nat} {task : Task}
    {content final : SlotContent} {outcome : Except Fault Unit} {supply : Supply α}
    {scratch : Buffer}
    (prepares : Prepares session index task content outcome supply scratch final) :
    final.cache =
      if (Action.outcome (session.provision task.coded.picture session.supply)).isOk then
        session.serve task content.cache
      else content.cache := by
  have served : ∀ supply : Supply α,
      (session.jobWith index task supply).nextCache content.cache =
        session.serve task content.cache := fun _ => rfl
  have build := fun supply : Supply α =>
    (Draft.cache_build (session.jobWith index task supply) (content.draft session.scratch)).trans
      (served supply)
  cases prepares with
  | starved refused =>
      rw [refused]
      rfl
  | @unbuilt supply fault draft granted refused =>
      have cache := build supply
      rw [refused] at cache
      rw [granted]
      exact cache
  | @unsynced supply full draft fault memory granted built refused =>
      have cache := build supply
      rw [built] at cache
      rw [granted]
      exact cache
  | @ready supply full draft memory granted built synced =>
      have cache := build supply
      rw [built] at cache
      rw [granted]
      exact cache

/-- Preparing that succeeds leaves the blobs of the task in its region. -/
theorem Prepares.blobs {session : Session δ α} (formed : session.Formed) {index : Nat}
    (known : index < session.layout.copies) {task : Task} {content final : SlotContent}
    {supply : Supply α} {scratch : Buffer}
    (prepares : Prepares session index task content (.ok ()) supply scratch final) :
    scratch.HoldsBlobs (session.layout.region index) task.coded
      (session.serve task content.cache) := by
  cases prepares with
  | ready granted built synced =>
      exact Draft.build_holds (ScratchLayout.ordered_region formed.sizes formed.fits known) built

/-- What a `generate` of the task does to the caches. -/
inductive ServesCaches (session : Session δ α) (task : Task) (later : Session δ α) : Prop where
  /-- It does not get as far as looking at one. -/
  | kept (stops : session.reaches task = false)
      (same : ∀ index, later.cacheOf? index = session.cacheOf? index) :
      ServesCaches session task later
  /-- It brings the cache of the slot it takes up to date. -/
  | served (reaches : session.reaches task = true) {own : Nat} {slot : Slot SlotContent}
      (first : session.slots.FirstFree own slot)
      (caches : ∀ index, later.cacheOf? index =
        if own = index then some (session.serve task slot.content.cache)
        else session.cacheOf? index) :
      ServesCaches session task later

/-- A task reaches the build if it is admitted and the shared buffers can be had. -/
theorem reaches_eq (session : Session δ α) (task : Task) :
    session.reaches task = (session.seats task &&
      (Action.outcome (session.provision task.coded.picture session.supply)).isOk) := rfl

theorem reaches_of_turned {session : Session δ α} {task : Task} (out : ¬ session.Admits task) :
    session.reaches task = false := by
  rw [reaches_eq, seats_eq_false_iff.mpr out, Bool.false_and]

/-- A task with error flags reaches nothing. -/
theorem reaches_of_flagged {session : Session δ α} {task : Task}
    (flagged : task.flags.hasError = true) : session.reaches task = false := by
  refine reaches_of_turned fun admits => ?_
  cases admits.unflagged.symm.trans flagged

theorem reaches_of_admits {session : Session δ α} {task : Task} (admits : session.Admits task) :
    session.reaches task =
      (Action.outcome (session.provision task.coded.picture session.supply)).isOk := by
  rw [reaches_eq, seats_iff.mpr admits, Bool.true_and]

theorem Prepares.caches {session later : Session δ α} {task : Task} (admits : session.Admits task)
    {own : Nat} {slot : Slot SlotContent} (first : session.slots.FirstFree own slot)
    {outcome : Except Fault Unit} {supply : Supply α} {scratch : Buffer} {content : SlotContent}
    (prepares : Prepares session own task slot.content outcome supply scratch content)
    {taken : Bool} {stage : Stage}
    (slots : later.slots = session.slots.put own ⟨taken, stage, content⟩) :
    ServesCaches session task later := by
  have cache := prepares.cache
  rw [← reaches_of_admits admits] at cache
  cases reached : session.reaches task with
  | false =>
      rw [reached] at cache
      exact .kept reached (cacheOf?_of_kept first.found _ slots cache)
  | true =>
      rw [reached, if_pos rfl] at cache
      refine .served reached first fun index => ?_
      rw [cacheOf?_of_put first.found slots, cache]

theorem Generates.caches {session later : Session δ α} {task : Task} {outcome : Except Fault Task}
    (generates : Generates session task outcome later) : ServesCaches session task later := by
  rcases generates.admission with
    ⟨out, journal, rfl⟩ | ⟨admits, index, slot, answer, supply, scratch, content, taken, stage,
      journal, first, prepares, rfl⟩
  · exact .kept (reaches_of_turned out) (cacheOf?_of_same rfl)
  · exact prepares.caches admits first rfl

end Memory

/-! ### The other calls -/

section Hardware

variable [Device δ]

theorem Starts.caches {session later : Session δ α} {task : Task} {outcome : Except Fault Unit}
    (starts : Starts session task outcome later) (index : Nat) :
    later.cacheOf? index = session.cacheOf? index := by
  cases starts with
  | skipped flagged journal => exact cacheOf?_of_same rfl index
  | refused unflagged misdirected kind => rfl
  | failed unflagged owns refused journal =>
      exact cacheOf?_of_kept owns.found ⟨false, .idle, _⟩ rfl rfl index
  | started unflagged owns accepted journal =>
      exact cacheOf?_of_kept owns.found ⟨true, .submitted, _⟩ rfl rfl index

theorem Waits.caches {session later : Session δ α} {task : Task} {outcome : Except Fault Unit}
    (waits : Waits session task outcome later) (index : Nat) :
    later.cacheOf? index = session.cacheOf? index := by
  have settled : ∀ {device : δ} {own : Nat} {slot : Slot SlotContent} {file : Bytes}
      {journal : Journal} {report : Report}, session.slots.get? own = some slot →
      ((session.redevice device own ⟨false, .idle, slot.content.withFile file⟩ journal).reported
        report).cacheOf? index = session.cacheOf? index := by
    intro device own slot file journal report found
    rw [cacheOf?_of_same (reported_slots _ report)]
    exact cacheOf?_of_kept found ⟨false, .idle, slot.content.withFile file⟩ rfl rfl index
  cases waits with
  | skipped flagged => exact cacheOf?_of_same (reported_slots session _) index
  | refused unflagged misdirected kind => rfl
  | lost unflagged owns silent journal => exact settled owns.found
  | finished unflagged owns collected stored journal => exact settled owns.found

end Hardware

/-! ### Generated tasks -/

section Memory

variable [Allocator α]

/-- A task without error flags was generated and got this slot. -/
structure Generated (session : Session δ α) (task : Task) (index : Nat) (later : Session δ α) :
    Prop where
  unflagged : task.flags.hasError = false
  answered : generate task session = .ok { task with slot := some index } later

/-- A generated task reached the build. -/
theorem Generated.reaches {session later : Session δ α} {task : Task} {index : Nat}
    (generated : session.Generated task index later) : session.reaches task = true := by
  have ended := generate_spec session task
  rw [generated.answered, Action.outcome_ok, Action.after_ok] at ended
  cases ended with
  | built _ unheld first prepares journal =>
      rw [reaches_of_admits ⟨generated.unflagged, unheld, _, _, first⟩]
      cases prepares with
      | ready granted built synced =>
          rw [granted]
          rfl

/-- A generated task had the slot to itself, reached the build, and finds its blobs in its region of
scratch memory. -/
theorem Generated.blobs {session later : Session δ α} (formed : session.Formed)
    {task : Task} {index : Nat} (generated : session.Generated task index later) :
    later.layout = session.layout ∧ session.reaches task = true ∧
      ∃ cache, session.cacheOf? index = some cache ∧
        later.cacheOf? index = some (session.serve task cache) ∧
        later.scratch.HoldsBlobs (session.layout.region index) task.coded
          (session.serve task cache) := by
  have reached := generated.reaches
  have ended := generate_spec session task
  rw [generated.answered, Action.outcome_ok, Action.after_ok] at ended
  cases ended with
  | @built _ unheld _ slot first supply scratch content prepares journal =>
      have cache := prepares.cache
      rw [← reaches_of_admits ⟨generated.unflagged, unheld, _, _, first⟩, reached, if_pos rfl] at cache
      refine ⟨rfl, reached, _, cacheOf?_of_found first.found, ?_,
        prepares.blobs formed (formed.index_lt first.found)⟩
      rw [cacheOf?_of_put first.found rfl, if_pos rfl, cache]

end Memory

/-! ### Every cache stands for a header -/

/-- Every parameter cache stands for a header, or for none yet. -/
def Caching (session : Session δ α) : Prop :=
  ∀ index cache, session.cacheOf? index = some cache → ∃ header, cache.Holds header

/-- In an opened session the caches are unused. -/
theorem cacheOf?_opened {config : Config} {reporting : Bool} {scratch : Buffer} {board : Board δ α}
    {index : Nat} {cache : ParameterCache}
    (found : (Session.opened config reporting scratch board).cacheOf? index = some cache) :
    cache = {} := by
  obtain ⟨slot, there, rfl⟩ := Option.map_eq_some_iff.mp found
  have known : slot ∈ (SlotPool.ofDepth config.slotCount fun _ => SlotContent.fresh config).slots :=
    List.mem_of_getElem? there
  obtain ⟨i, -, rfl⟩ := List.mem_map.mp known
  rfl

theorem Caching.of_same {before after : Session δ α} (caching : before.Caching)
    (same : ∀ index, after.cacheOf? index = before.cacheOf? index) : after.Caching :=
  fun index cache found => caching index cache (same index ▸ found)

theorem Caching.serves [Allocator α] {before after : Session δ α} {task : Task}
    (caching : before.Caching) (serves : before.ServesCaches task after) : after.Caching := by
  cases serves with
  | kept stops same => exact caching.of_same same
  | @served reaches own slot first caches =>
      intro index cache found
      rw [caches] at found
      split at found
      · cases found
        obtain ⟨header, holds⟩ := caching own _ (cacheOf?_of_found first.found)
        exact ⟨_, (holds.update task.coded.picture before.config.fastMode).1⟩
      · exact caching index cache found

end Session

theorem Reachable.caching {δ α : Type} [Device δ] [Allocator α]
    {surroundings : Board δ α → Board δ α → Prop} {session : Session δ α}
    (reached : Reachable surroundings session) : session.Caching := by
  obtain ⟨board, moments, run⟩ := reached
  refine run.invariant ?_ ?_ ?_ ?_ ?_ ?_ (fun _ impossible => by cases impossible) session rfl
  · intro config reporting scratch board valid index cache found
    rw [Session.cacheOf?_opened found]
    exact ⟨none, ParameterCache.holds_empty⟩
  · exact fun caching generates => caching.serves generates.caches
  · exact fun caching starts => caching.of_same starts.caches
  · exact fun caching waits => caching.of_same waits.caches
  · exact fun caching => caching.of_same (Session.cacheOf?_of_same rfl)
  · exact fun caching => caching.of_same (Session.cacheOf?_of_same rfl)

end VideoAccel
