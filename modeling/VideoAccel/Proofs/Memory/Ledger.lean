import VideoAccel.Proofs.Memory.Holdings

/-!
An arena that writes down what goes back.

A `Ledger` hands out and takes back like the arena it keeps, and records the handle of every buffer
that anyone gives back, live or not. `Ledger.Owes` adds to the books of the arena that no handle was
recorded twice, none of them is owned by anyone, and nothing that was handed out is missing.
-/

namespace VideoAccel

structure Ledger where
  arena : Arena := {}
  /-- The handles of the buffers that were given back, latest first. -/
  returned : List Handle := []
deriving DecidableEq, Repr

namespace Ledger

instance : Allocator Ledger where
  alloc size := Action.on (·.arena) (fun arena ledger => { ledger with arena }) (Arena.alloc size)
  release buffer ledger := ⟨Arena.release buffer ledger.arena, buffer.handle :: ledger.returned⟩
  sync _ := pure ()

/-- The live buffers are the tagged ones, and every other buffer went back once. -/
structure Owes (ledger : Ledger) (tags : List (Handle × Nat)) : Prop where
  live : ledger.arena.Owes tags
  once : ledger.returned.Nodup
  issued : ∀ handle ∈ ledger.returned, handle.value < ledger.arena.nextHandle
  gone : ∀ handle ∈ ledger.returned, handle ∉ tags.map Prod.fst
  complete : ledger.arena.allocCount = tags.length + ledger.returned.length

variable {ledger after : Ledger} {tags : List (Handle × Nat)}

theorem Owes.perm {other : List (Handle × Nat)} (owes : ledger.Owes tags) (perm : tags.Perm other) :
    ledger.Owes other where
  live := owes.live.perm perm
  once := owes.once
  issued := owes.issued
  gone handle member known :=
    owes.gone handle member ((perm.map Prod.fst).mem_iff.mpr known)
  complete := by rw [← perm.length_eq, owes.complete]

/-- The surroundings may change what the arena refuses. -/
theorem Owes.of_same {other : Ledger} (owes : ledger.Owes tags)
    (live : other.arena.live = ledger.arena.live)
    (next : other.arena.nextHandle = ledger.arena.nextHandle)
    (sizes : other.arena.sizes = ledger.arena.sizes) (returned : other.returned = ledger.returned) :
    other.Owes tags where
  live := owes.live.of_same live next
  once := returned ▸ owes.once
  issued := by
    rw [returned, next]
    exact owes.issued
  gone := returned ▸ owes.gone
  complete := by
    unfold Arena.allocCount
    rw [sizes, returned]
    exact owes.complete

theorem alloc_owes {size : Nat} {buffer : Buffer} (owes : ledger.Owes tags)
    (ran : Allocator.alloc size ledger = .ok buffer after) : after.Owes (buffer.tag :: tags) := by
  rcases Arena.alloc_cases size ledger.arena with ⟨-, refused⟩ | ⟨-, granted⟩
  · cases ran.symm.trans (Action.on_of_error refused)
  · have held := Arena.alloc_owes owes.live granted
    cases ran.symm.trans (Action.on_of_ok granted)
    refine ⟨held, owes.once, ?_, ?_, ?_⟩
    · intro handle member
      exact Int.lt_trans (owes.issued handle member) (Int.lt_succ _)
    · intro handle member known
      rcases List.mem_cons.mp known with rfl | old
      · exact absurd (owes.issued _ member) (Int.lt_irrefl _)
      · exact owes.gone handle member old
    · have complete := owes.complete
      simp only [Arena.allocCount, List.length_append, List.length_cons, List.length_nil] at complete ⊢
      omega

theorem alloc_refused {size : Nat} {fault : Fault}
    (ran : Allocator.alloc size ledger = .error fault after) : after = ledger := by
  rcases Arena.alloc_cases size ledger.arena with ⟨-, refused⟩ | ⟨-, granted⟩
  · cases ran.symm.trans (Action.on_of_error refused)
    rfl
  · cases ran.symm.trans (Action.on_of_ok granted)

theorem release_owes {buffer : Buffer} (owes : ledger.Owes (buffer.tag :: tags)) :
    (Allocator.release buffer ledger).Owes tags := by
  have fresh : buffer.handle ∉ tags.map Prod.fst := (List.nodup_cons.mp owes.live.distinct).1
  refine ⟨Arena.release_owes owes.live, ?_, ?_, ?_, ?_⟩
  · refine List.nodup_cons.mpr ⟨fun again => ?_, owes.once⟩
    exact owes.gone _ again List.mem_cons_self
  · intro handle member
    rcases List.mem_cons.mp member with rfl | old
    · exact owes.live.issued buffer.tag List.mem_cons_self
    · exact owes.issued handle old
  · intro handle member known
    rcases List.mem_cons.mp member with rfl | old
    · exact fresh known
    · exact owes.gone handle old (List.mem_cons_of_mem _ known)
  · have complete := owes.complete
    simp only [List.length_cons] at complete
    show ledger.arena.allocCount = tags.length + (ledger.returned.length + 1)
    omega

instance : Books Ledger where
  Owes := Owes
  perm owes same := owes.perm same
  grant owes granted := alloc_owes owes granted
  refuse owes refused := alloc_refused refused ▸ owes
  release owes := release_owes owes
  sync _ owes := owes

end Ledger

end VideoAccel
