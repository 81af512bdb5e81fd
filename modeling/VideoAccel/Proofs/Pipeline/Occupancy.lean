import Mathlib.Data.List.Induction
import Mathlib.Data.List.Nodup
import Mathlib.Order.Bounds.Basic
import VideoAccel.Proofs.Pipeline.Slots

/-!
A pool of slots as the set of indices that it has handed out.

An index is held from the moment a pool answers a request with it until it is given back. Whatever is
asked of a pool in the meantime, also under indices that it does not have, that are free or that were
given back before, the slots taken are those held (`Tenancy.Kept`), since all that a request can do to
the marks of the slots is to set one of them (`flags_modify_set`) or none (`flags_modify_of_keeps`).
`held_indices` draws the conclusions: the pool hands out the least index that is not held, so none twice,
takes back what is held and nothing else, and leaves all other slots as they are (`get?_of_not_touches`).
-/

namespace VideoAccel.SlotPool

variable {τ : Type}

/-! ### The marks of the slots -/

/-- For every slot, whether it is taken. -/
def flags (pool : SlotPool τ) : List Bool :=
  pool.slots.map (·.taken)

theorem length_flags (pool : SlotPool τ) : pool.flags.length = pool.capacity := by
  simp [flags, capacity]

theorem count_flags (pool : SlotPool τ) : pool.flags.count true = pool.inUse := by
  simp [flags, inUse, List.count, List.countP_map, Function.comp_def]

theorem getElem?_flags (pool : SlotPool τ) (index : Nat) :
    pool.flags[index]? = (pool.get? index).map (·.taken) := by
  simp [flags, get?]

/-- The mark at an index is set if there is such a slot and it is taken. -/
theorem flag_iff {pool : SlotPool τ} {index : Nat} :
    pool.flags[index]? = some true ↔ ∃ slot, pool.get? index = some slot ∧ slot.taken = true := by
  simp [getElem?_flags, Option.map_eq_some_iff]

/-- A change that sets the mark of a slot. An index without a slot has no mark. -/
theorem flags_modify_set (pool : SlotPool τ) (index : Nat) {change : Slot τ → Slot τ} {flag : Bool}
    (sets : ∀ slot, (change slot).taken = flag) :
    (pool.modify index change).flags = pool.flags.set index flag := by
  apply List.ext_getElem?
  intro other
  rw [getElem?_flags, get?_modify, List.getElem?_set, getElem?_flags, length_flags]
  by_cases same : index = other
  · subst same
    cases found : pool.get? index with
    | none =>
        have outside : pool.capacity ≤ index := List.getElem?_eq_none_iff.mp found
        simp [outside]
    | some slot =>
        obtain ⟨inside, -⟩ := List.getElem?_eq_some_iff.mp found
        have known : index < pool.capacity := inside
        simp [known, sets]
  · simp [same]

/-- A change that leaves the mark of a slot alone. -/
theorem flags_modify_of_keeps (pool : SlotPool τ) (index : Nat) {change : Slot τ → Slot τ}
    (keeps : ∀ slot, (change slot).taken = slot.taken) :
    (pool.modify index change).flags = pool.flags := by
  apply List.ext_getElem?
  intro other
  rw [getElem?_flags, get?_modify, getElem?_flags]
  split
  · simp [Function.comp_def, keeps]
  · rfl

theorem flags_mapContent (pool : SlotPool τ) (change : τ → τ) :
    (pool.mapContent change).flags = pool.flags := by
  simp [flags, mapContent, Function.comp_def]

theorem flags_ofDepth (depth : Nat) (content : Nat → τ) :
    (ofDepth depth content).flags = List.replicate depth false := by
  simp [flags, ofDepth, Function.comp_def]

/-! ### Requests in a row -/

/-- What is asked of a pool. -/
inductive Request (τ : Type) where
  | acquire
  | release (index : Nat)
  | setStage (index : Nat) (stage : Stage)
  | setContent (index : Nat) (content : τ)
  | mapContent (change : τ → τ)

/-- The request may change the slot: the pool answers with its index, or it is the one that is asked
for. -/
def Touches (pool : SlotPool τ) : Request τ → Nat → Prop
  | .acquire, other => ∃ next, pool.acquire = some (other, next)
  | .release index, other | .setStage index _, other | .setContent index _, other => index = other
  | .mapContent _, _ => True

/-- A pool, and the indices that it answered with and that were not given back since, the latest
first. -/
structure Tenancy (τ : Type) where
  pool : SlotPool τ
  held : List Nat

namespace Tenancy

/-- What a request makes of a pool and of the indices held. -/
def serve (tenancy : Tenancy τ) : Request τ → Tenancy τ
  | .acquire =>
      match tenancy.pool.acquire with
      | none => tenancy
      | some (index, pool) => ⟨pool, index :: tenancy.held⟩
  | .release index =>
      ⟨(tenancy.pool.release index).2, tenancy.held.filter (· != index)⟩
  | .setStage index stage => { tenancy with pool := tenancy.pool.setStage index stage }
  | .setContent index content => { tenancy with pool := tenancy.pool.setContent index content }
  | .mapContent change => { tenancy with pool := tenancy.pool.mapContent change }

/-- What requests in a row make of a new pool. -/
def after (depth : Nat) (content : Nat → τ) (requests : List (Request τ)) : Tenancy τ :=
  requests.foldl serve ⟨ofDepth depth content, []⟩

theorem after_concat (depth : Nat) (content : Nat → τ) (requests : List (Request τ))
    (request : Request τ) :
    after depth content (requests ++ [request]) = (after depth content requests).serve request :=
  List.foldl_concat ..

/-- The slots taken are those whose indices are held, each of them once. -/
structure Kept (depth : Nat) (tenancy : Tenancy τ) : Prop where
  length : tenancy.pool.flags.length = depth
  distinct : tenancy.held.Nodup
  taken : ∀ index, index ∈ tenancy.held ↔ tenancy.pool.flags[index]? = some true
  count : tenancy.pool.flags.count true = tenancy.held.length

variable {depth : Nat} {tenancy : Tenancy τ}

theorem Kept.fresh (depth : Nat) (content : Nat → τ) : Kept depth ⟨ofDepth depth content, []⟩ where
  length := by simp [flags_ofDepth]
  distinct := List.nodup_nil
  taken index := by simp [flags_ofDepth, List.getElem?_replicate]
  count := by simp [flags_ofDepth, List.count_replicate]

theorem Kept.of_same (kept : tenancy.Kept depth) {pool : SlotPool τ}
    (same : pool.flags = tenancy.pool.flags) : Kept depth ⟨pool, tenancy.held⟩ := by
  obtain ⟨length, distinct, taken, count⟩ := kept
  rw [← same] at length taken count
  exact ⟨length, distinct, taken, count⟩

/-- A free slot is handed out. -/
theorem Kept.acquired (kept : tenancy.Kept depth) {index : Nat} {pool : SlotPool τ}
    (free : tenancy.pool.flags[index]? = some false)
    (marked : pool.flags = tenancy.pool.flags.set index true) :
    Kept depth ⟨pool, index :: tenancy.held⟩ := by
  obtain ⟨known, unmarked⟩ := List.getElem?_eq_some_iff.mp free
  have unheld : index ∉ tenancy.held := by simp [kept.taken, free]
  refine ⟨?_, List.nodup_cons.mpr ⟨unheld, kept.distinct⟩, fun other => ?_, ?_⟩
  · simp [marked, kept.length]
  · rw [List.mem_cons, kept.taken, marked, List.getElem?_set]
    by_cases same : index = other
    · simp [← same, known]
    · simp [same, Ne.symm same]
  · simp [marked, List.count_set known, unmarked, kept.count]

/-- A slot is given back, whether it was taken or not. -/
theorem Kept.released (kept : tenancy.Kept depth) {index : Nat} {pool : SlotPool τ}
    (marked : pool.flags = tenancy.pool.flags.set index false) :
    Kept depth ⟨pool, tenancy.held.filter (· != index)⟩ := by
  refine ⟨?_, kept.distinct.filter _, fun other => ?_, ?_⟩
  · simp [marked, kept.length]
  · rw [List.mem_filter, kept.taken, marked, List.getElem?_set]
    by_cases same : index = other
    · simp [← same]
    · simp [same, Ne.symm same]
  · simp only [marked, ← kept.distinct.erase_eq_filter, List.length_erase, ← kept.count]
    by_cases known : index < tenancy.pool.flags.length
    · rw [List.count_set known]
      by_cases held : index ∈ tenancy.held
      · have mark := (kept.taken index).mp held
        rw [List.getElem?_eq_getElem known] at mark
        simp [held, Option.some.inj mark]
      · have mark := mt (kept.taken index).mpr held
        rw [List.getElem?_eq_getElem known, Option.some.injEq] at mark
        simp [held, mark]
    · have unheld : index ∉ tenancy.held := by
        simp [kept.taken, Nat.not_lt.mp known]
      simp [unheld, List.set_eq_of_length_le (Nat.not_lt.mp known)]

theorem Kept.serve (kept : tenancy.Kept depth) (request : Request τ) :
    (tenancy.serve request).Kept depth := by
  cases request with
  | acquire =>
      unfold Tenancy.serve
      rcases acquire_cases tenancy.pool with ⟨index, slot, first, answered⟩ | ⟨-, refused⟩
      · simp only [answered]
        have free : tenancy.pool.flags[index]? = some false := by
          simp [getElem?_flags, first.found, first.free]
        exact kept.acquired free (flags_modify_set _ _ fun _ => rfl)
      · simp only [refused]
        exact kept
  | release index => exact kept.released (flags_modify_set _ _ fun _ => rfl)
  | setStage index stage => exact kept.of_same (flags_modify_of_keeps _ _ fun _ => rfl)
  | setContent index content => exact kept.of_same (flags_modify_of_keeps _ _ fun _ => rfl)
  | mapContent change => exact kept.of_same (flags_mapContent _ _)

/-- After any requests the slots taken are those held. -/
theorem kept_after (depth : Nat) (content : Nat → τ) (requests : List (Request τ)) :
    (after depth content requests).Kept depth := by
  induction requests using List.reverseRecOn with
  | nil => exact .fresh depth content
  | append_singleton requests request ih =>
      rw [after_concat]
      exact ih.serve request

/-- A request leaves alone the slots that it does not touch. -/
theorem get?_of_not_touches {request : Request τ} {other : Nat}
    (apart : ¬ tenancy.pool.Touches request other) :
    (tenancy.serve request).pool.get? other = tenancy.pool.get? other := by
  cases request with
  | acquire =>
      unfold Tenancy.serve
      rcases acquire_cases tenancy.pool with ⟨index, slot, first, answered⟩ | ⟨-, refused⟩
      · simp only [answered]
        refine get?_put_of_ne _ (fun same => apart ?_) _
        exact ⟨_, same ▸ answered⟩
      · simp only [refused]
  | release index => exact get?_modify_of_ne _ apart _
  | setStage index stage => exact get?_modify_of_ne _ apart _
  | setContent index content => exact get?_modify_of_ne _ apart _
  | mapContent change => exact absurd trivial apart

/-- The first free slot has the least index that is not held. -/
theorem Kept.isLeast (kept : tenancy.Kept depth) {index : Nat} {slot : Slot τ}
    (first : tenancy.pool.FirstFree index slot) :
    IsLeast {index | index < depth ∧ index ∉ tenancy.held} index := by
  have mark : tenancy.pool.flags[index]? = some false := by
    simp [getElem?_flags, first.found, first.free]
  obtain ⟨known, -⟩ := List.getElem?_eq_some_iff.mp mark
  refine ⟨⟨kept.length ▸ known, by simp [kept.taken, mark]⟩, fun other ⟨_, unheld⟩ => ?_⟩
  by_contra less
  exact unheld ((kept.taken other).mpr (flag_iff.mpr (first.least other (Nat.not_le.mp less))))

end Tenancy

/-! ### The indices held after any requests -/

/-- The pool that requests in a row lead to. -/
def poolAfter (depth : Nat) (content : Nat → τ) (requests : List (Request τ)) : SlotPool τ :=
  (Tenancy.after depth content requests).pool

/-- The indices that the pool answered with and that were not given back since. -/
def heldAfter (depth : Nat) (content : Nat → τ) (requests : List (Request τ)) : List Nat :=
  (Tenancy.after depth content requests).held

/-- After any requests the slots taken are those held, none of them twice. The pool answers with the
least index that is not held, and finds its slot idle, or has none when all are held. It takes back
exactly what is held, and that index only. A slot that a request does not touch stays as it is. -/
theorem held_indices (depth : Nat) (content : Nat → τ) (requests : List (Request τ)) :
    let pool := poolAfter depth content requests
    let held := heldAfter depth content requests
    (held.Nodup ∧ pool.inUse = held.length ∧
      ∀ index, index ∈ held ↔ ∃ slot, pool.get? index = some slot ∧ slot.taken = true) ∧
    ((∀ index, (∃ next, pool.acquire = some (index, next)) ↔
        IsLeast {index | index < depth ∧ index ∉ held} index) ∧
      (pool.acquire = none ↔ ∀ index < depth, index ∈ held) ∧
      ∀ index next, pool.acquire = some (index, next) → ∃ slot, pool.get? index = some slot ∧
        next.get? index = some ⟨true, .idle, slot.content⟩) ∧
    (∀ index, ((pool.release index).1 = true ↔ index ∈ held) ∧
      ∀ other, (∃ slot, (pool.release index).2.get? other = some slot ∧ slot.taken = true) ↔
        other ∈ held ∧ other ≠ index) ∧
    ∀ request other, ¬ pool.Touches request other →
      (poolAfter depth content (requests ++ [request])).get? other = pool.get? other := by
  intro pool held
  have kept : Tenancy.Kept depth ⟨pool, held⟩ := Tenancy.kept_after depth content requests
  have taken : ∀ index, index ∈ held ↔ ∃ slot, pool.get? index = some slot ∧ slot.taken = true :=
    fun index => (kept.taken index).trans flag_iff
  refine ⟨⟨kept.distinct, ?_, taken⟩, ?_, fun index => ⟨?_, fun other => ?_⟩, ?_⟩
  · rw [← count_flags]
    exact kept.count
  · rcases acquire_cases pool with ⟨first, slot, free, answered⟩ | ⟨busy, refused⟩
    · have least := kept.isLeast free
      refine ⟨fun index => ⟨?_, fun other => ?_⟩, ⟨?_, fun all => ?_⟩, ?_⟩
      · rintro ⟨next, same⟩
        rw [answered] at same
        cases same
        exact least
      · rw [other.unique least]
        exact ⟨_, answered⟩
      · intro none
        cases answered.symm.trans none
      · exact absurd (all first least.1.1) least.1.2
      · intro index next same
        rw [answered] at same
        cases same
        exact ⟨slot, free.found, get?_put_self free.found _⟩
    · have all : ∀ index < depth, index ∈ held := by
        intro index known
        rw [← kept.length, length_flags] at known
        exact (taken index).mpr ⟨_, List.getElem?_eq_getElem known,
          busy index _ (List.getElem?_eq_getElem known)⟩
      refine ⟨fun index => ⟨?_, fun least => ?_⟩, ⟨fun _ => all, fun _ => refused⟩, ?_⟩
      · rintro ⟨next, answered⟩
        cases refused.symm.trans answered
      · exact absurd (all index least.1.1) least.1.2
      · intro index next answered
        cases refused.symm.trans answered
  · rw [taken]
    simp [release, Option.any_eq_true]
  · have released := (kept.serve (.release index)).taken other
    rw [flag_iff] at released
    simpa [Tenancy.serve] using released.symm
  · intro request other apart
    have stays := @Tenancy.get?_of_not_touches _ ⟨pool, held⟩ request other apart
    rw [poolAfter, Tenancy.after_concat]
    exact stays

/-- Three slots are taken; the second one is given back twice, gets another stage while it is free, and an
index is given back that the pool does not have. -/
def returnedTwice : List (Request Nat) :=
  [.acquire, .acquire, .acquire, .release 1, .release 1, .setStage 1 .submitted, .setContent 2 7,
    .release 9]

/-- Two slots are held. The one given back is the next to be handed out, at rest and with what it held
before; it cannot be given back once more, and handing it out does not touch the last one. -/
theorem held_indices_returned :
    heldAfter 3 id returnedTwice = [2, 0] ∧ (poolAfter 3 id returnedTwice).inUse = 2 ∧
    (∃ next, (poolAfter 3 id returnedTwice).acquire = some (1, next) ∧
      next.get? 1 = some ⟨true, .idle, 1⟩) ∧
    ((poolAfter 3 id returnedTwice).release 1).1 = false ∧
    (poolAfter 3 id (returnedTwice ++ [.acquire])).get? 2 = some ⟨true, .idle, 7⟩ := by
  obtain ⟨⟨-, count, -⟩, ⟨least, -, fresh⟩, released, apart⟩ := held_indices 3 id returnedTwice
  have held : heldAfter 3 id returnedTwice = [2, 0] := rfl
  have next : ∃ next, (poolAfter 3 id returnedTwice).acquire = some (1, next) := by
    rw [least, held]
    refine ⟨by simp, fun other ⟨known, unheld⟩ => ?_⟩
    simp only [List.mem_cons, List.not_mem_nil, or_false, not_or] at unheld
    omega
  obtain ⟨pool, answered⟩ := next
  obtain ⟨slot, found, ready⟩ := fresh 1 pool answered
  refine ⟨held, count, ⟨pool, answered, ?_⟩, ?_, ?_⟩
  · cases found
    exact ready
  · rw [Bool.eq_false_iff]
    exact mt (released 1).1.mp (by simp [held])
  · refine (apart .acquire 2 ?_).trans rfl
    rintro ⟨other, same⟩
    cases answered.symm.trans same

end VideoAccel.SlotPool
