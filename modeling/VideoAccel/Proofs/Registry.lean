import Mathlib.Data.List.Dedup
import VideoAccel.Proofs.Sorting
import VideoAccel.Registry

/-!
What a registry answers, and in how far that depends on the order in which it is gone through.

A registry keeps the decoders of one codec in the order of their registration, but the codecs in no order
of their own: a search by name and the listing come to them in some order, each once (`Visits`). A decoder
made by its codec does not depend on that order (`create_eq`). One made by name does, unless the codecs
that have the name would all make the same one (`createByName_same_iff`); and the listing, which is sorted
by name in any order, does as soon as two codecs share a name, because the sort is stable and leaves the
two in the order in which they were come to (`list_same_iff`).
-/

namespace VideoAccel.Registry

/-- The registry that registrations in a row lead to. -/
def ofRegistrations (registrations : List (Codec × Registration)) : Registry :=
  registrations.foldl (fun registry entry => registry.register entry.1 entry.2) empty

/-- An order in which the codecs of a registry are come to, each once. -/
structure Visits (registry : Registry) (visit : List Codec) : Prop where
  distinct : visit.Nodup
  known : ∀ codec, codec ∈ visit ↔ ∃ registration, (codec, registration) ∈ registry.entries

/-- The decoder of a codec that was registered first under a name. -/
def firstNamed? (registry : Registry) (name : String) (codec : Codec) : Option Registration :=
  (registry.shelf codec).find? (·.name == name)

/-- The codecs and names of the registrations, as they are come to. -/
def visited (registry : Registry) (visit : List Codec) : List (Codec × String) :=
  visit.flatMap fun codec => (registry.shelf codec).map fun entry => (codec, entry.name)

theorem entries_ofRegistrations (registrations : List (Codec × Registration)) :
    (ofRegistrations registrations).entries = registrations := by
  have every : ∀ registry : Registry,
      (registrations.foldl (fun registry entry => registry.register entry.1 entry.2)
        registry).entries = registry.entries ++ registrations := by
    induction registrations with
    | nil => simp
    | cons entry rest ih =>
        intro registry
        rw [List.foldl_cons, ih, register, List.append_assoc]
        rfl
  exact every empty

variable {registry : Registry} {visit other : List Codec} {codec : Codec} {name : String}

theorem mem_shelf {registration : Registration} :
    registration ∈ registry.shelf codec ↔ (codec, registration) ∈ registry.entries := by
  simp [shelf]

theorem of_firstNamed? {registration : Registration}
    (first : registry.firstNamed? name codec = some registration) :
    (codec, registration) ∈ registry.entries ∧ registration.name = name := by
  unfold firstNamed? at first
  exact ⟨mem_shelf.mp (List.mem_of_find?_eq_some first), by simpa using List.find?_some first⟩

/-- By codec, the decoder registered first is made. -/
theorem create_eq (registry : Registry) (codec : Codec) :
    registry.create codec =
      match registry.entries.find? fun entry => entry.1 = codec with
      | some entry => entry.2.make
      | none => .error (.noDecoderFor codec) := by
  unfold create shelf
  rw [List.head?_map, List.head?_filter]
  cases registry.entries.find? fun entry => entry.1 = codec with
  | none => rfl
  | some entry => rfl

/-! ### Orders -/

/-- There is an order that comes to any known codec first. -/
theorem exists_visits_front (known : ∃ registration, (codec, registration) ∈ registry.entries) :
    ∃ rest, registry.Visits (codec :: rest) := by
  let codecs := (registry.entries.map Prod.fst).dedup
  have every : ∀ other, other ∈ codecs ↔ ∃ registration, (other, registration) ∈ registry.entries := by
    simp [codecs]
  have here : codec ∈ codecs := (every codec).mpr known
  have distinct : codecs.Nodup := List.nodup_dedup _
  have perm := List.perm_cons_erase here
  exact ⟨codecs.erase codec, perm.nodup_iff.mp distinct,
    fun other => perm.mem_iff.symm.trans (every other)⟩

theorem Visits.mem_of_firstNamed (visits : registry.Visits visit) {registration : Registration}
    (first : registry.firstNamed? name codec = some registration) : codec ∈ visit :=
  (visits.known codec).mpr ⟨_, (of_firstNamed? first).1⟩

/-! ### By name -/

theorem createByName_eq (registry : Registry) (visit : List Codec) (name : String) :
    registry.createByName visit name =
      match visit.findSome? (registry.firstNamed? name) with
      | some registration => registration.make
      | none => .error (.noDecoderNamed name) := by
  unfold createByName
  rw [List.find?_flatMap]
  rfl

/-- The codec come to first makes the decoder of a name, if it has one. -/
theorem createByName_front {registration : Registration}
    (first : registry.firstNamed? name codec = some registration) (rest : List Codec) :
    registry.createByName (codec :: rest) name = registration.make := by
  rw [createByName_eq, List.findSome?_cons, first]

/-- In any order the decoder of a name is the first one of some codec that has the name. -/
theorem Visits.createByName_cases (visits : registry.Visits visit) (name : String) :
    (registry.createByName visit name = .error (.noDecoderNamed name) ∧
      ∀ codec, registry.firstNamed? name codec = none) ∨
    ∃ codec registration, registry.firstNamed? name codec = some registration ∧
      registry.createByName visit name = registration.make := by
  rw [createByName_eq]
  cases found : visit.findSome? (registry.firstNamed? name) with
  | none =>
      refine .inl ⟨rfl, fun codec => ?_⟩
      rw [Option.eq_none_iff_forall_ne_some]
      intro registration first
      have none := List.findSome?_eq_none_iff.mp found codec (visits.mem_of_firstNamed first)
      cases none.symm.trans first
  | some registration =>
      obtain ⟨codec, -, first⟩ := List.exists_of_findSome?_eq_some found
      exact .inr ⟨codec, registration, first, rfl⟩

/-- Every order makes the same decoder of a name just when the codecs that have the name do. -/
theorem createByName_same_iff (registry : Registry) (name : String) :
    (∀ visit other, registry.Visits visit → registry.Visits other →
      registry.createByName visit name = registry.createByName other name) ↔
    ∀ codec other first second, registry.firstNamed? name codec = some first →
      registry.firstNamed? name other = some second → first.make = second.make := by
  constructor
  · intro same codec other first second here there
    obtain ⟨rest, visits⟩ := exists_visits_front ⟨first, (of_firstNamed? here).1⟩
    obtain ⟨rest', visits'⟩ := exists_visits_front ⟨second, (of_firstNamed? there).1⟩
    calc first.make
        = registry.createByName (codec :: rest) name := (createByName_front here rest).symm
      _ = registry.createByName (other :: rest') name := same _ _ visits visits'
      _ = second.make := createByName_front there rest'
  · intro same visit other visits visits'
    rcases visits.createByName_cases name with ⟨refused, none⟩ | ⟨codec, first, here, made⟩
    · rcases visits'.createByName_cases name with ⟨refused', -⟩ | ⟨codec, first, here, -⟩
      · rw [refused, refused']
      · cases (none codec).symm.trans here
    · rcases visits'.createByName_cases name with ⟨-, none⟩ | ⟨codec', second, there, made'⟩
      · cases (none codec).symm.trans here
      · rw [made, made', same codec codec' first second here there]

/-! ### The listing -/

/-- Two entries of the listing are in order. -/
def inOrder (a b : Codec × String) : Bool :=
  !decide (b.2 < a.2)

theorem inOrder_iff {a b : Codec × String} : inOrder a b = true ↔ a.2 ≤ b.2 := by
  rw [inOrder, Bool.not_eq_true', decide_eq_false_iff_not, String.not_lt]

theorem inOrder_trans (a b c : Codec × String) (first : inOrder a b = true)
    (second : inOrder b c = true) : inOrder a c = true :=
  inOrder_iff.mpr (String.le_trans (inOrder_iff.mp first) (inOrder_iff.mp second))

theorem inOrder_total (a b : Codec × String) : (inOrder a b || inOrder b a) = true := by
  rw [Bool.or_eq_true, inOrder_iff, inOrder_iff]
  exact String.le_total a.2 b.2

theorem list_eq (registry : Registry) (visit : List Codec) :
    registry.list visit = (registry.visited visit).mergeSort inOrder :=
  rfl

theorem list_sorted (registry : Registry) (visit : List Codec) :
    (registry.list visit).Pairwise fun a b => a.2 ≤ b.2 := by
  have sorted := List.pairwise_mergeSort inOrder_trans inOrder_total (registry.visited visit)
  exact sorted.imp inOrder_iff.mp

/-- Entries of one name stand in the order in which they were come to. -/
theorem list_filter (registry : Registry) (visit : List Codec) (name : String) :
    (registry.list visit).filter (·.2 == name) = (registry.visited visit).filter (·.2 == name) := by
  refine filter_mergeSort inOrder_trans inOrder_total (fun a b first second => ?_) _
  have same : a.2 = b.2 := (eq_of_beq first).trans (eq_of_beq second).symm
  exact inOrder_iff.mpr (same ▸ String.le_refl a.2)

/-- Shelf by shelf, all registrations are come to once. -/
theorem flatMap_shelf_perm {entries : List (Codec × Registration)} (distinct : visit.Nodup)
    (known : ∀ entry ∈ entries, entry.1 ∈ visit) :
    (visit.flatMap fun codec => entries.filter fun entry => entry.1 = codec).Perm entries := by
  induction visit generalizing entries with
  | nil =>
      have none : entries = [] :=
        List.eq_nil_iff_forall_not_mem.mpr fun entry member => List.not_mem_nil (known entry member)
      simp [none]
  | cons codec rest ih =>
      obtain ⟨fresh, distinct⟩ := List.nodup_cons.mp distinct
      let others := entries.filter fun entry => !decide (entry.1 = codec)
      have later : (rest.flatMap fun codec => entries.filter fun entry => entry.1 = codec) =
          rest.flatMap fun codec => others.filter fun entry => entry.1 = codec := by
        refine List.flatMap_congr fun other member => ?_
        have apart : other ≠ codec := fun same => fresh (same ▸ member)
        rw [List.filter_filter]
        refine List.filter_congr fun entry _ => ?_
        by_cases same : entry.1 = other
        · simp [same, apart]
        · simp [same]
      have known' : ∀ entry ∈ others, entry.1 ∈ rest := by
        intro entry member
        obtain ⟨among, apart⟩ := List.mem_filter.mp member
        rcases List.mem_cons.mp (known entry among) with same | later
        · simp [same] at apart
        · exact later
      rw [List.flatMap_cons, later]
      exact ((ih distinct known').append_left _).trans (List.filter_append_perm _ entries)

theorem Visits.list_perm (visits : registry.Visits visit) :
    (registry.list visit).Perm (registry.entries.map fun entry => (entry.1, entry.2.name)) := by
  have all := flatMap_shelf_perm visits.distinct
    fun entry member => (visits.known entry.1).mpr ⟨entry.2, member⟩
  have told : registry.visited visit =
      (visit.flatMap fun codec => registry.entries.filter fun entry => entry.1 = codec).map
        fun entry => (entry.1, entry.2.name) := by
    unfold visited shelf
    rw [List.map_flatMap]
    refine List.flatMap_congr fun codec _ => ?_
    rw [List.map_map]
    refine List.map_congr_left fun entry member => ?_
    have same : entry.1 = codec := of_decide_eq_true (List.mem_filter.mp member).2
    rw [same]
    rfl
  rw [list_eq]
  refine (List.mergeSort_perm _ _).trans ?_
  rw [told]
  exact all.map _

/-- Of the entries of one name, that of the codec come to first is listed first. -/
theorem head?_list_front {registration : Registration}
    (first : registry.firstNamed? name codec = some registration) (rest : List Codec) :
    ((registry.list (codec :: rest)).filter (·.2 == name)).head? = some (codec, name) := by
  have found : (registry.shelf codec).find? ((·.2 == name) ∘ fun entry => (codec, entry.name)) =
      some registration := first
  rw [list_filter, List.head?_filter, visited, List.flatMap_cons, List.find?_append, List.find?_map,
    found, Option.map_some, (of_firstNamed? first).2]
  rfl

/-- Every order lists the same just when no two codecs share a name. -/
theorem list_same_iff (registry : Registry) :
    (∀ visit other, registry.Visits visit → registry.Visits other →
      registry.list visit = registry.list other) ↔
    ∀ entry ∈ registry.entries, ∀ other ∈ registry.entries,
      entry.2.name = other.2.name → entry.1 = other.1 := by
  constructor
  · intro same entry member other member' shared
    have named : ∀ entry ∈ registry.entries,
        ∃ first, registry.firstNamed? entry.2.name entry.1 = some first := fun entry member =>
      Option.isSome_iff_exists.mp
        (List.find?_isSome.mpr ⟨entry.2, mem_shelf.mpr member, beq_self_eq_true _⟩)
    obtain ⟨first, here⟩ := named entry member
    obtain ⟨second, there⟩ := named other member'
    rw [← shared] at there
    obtain ⟨rest, visits⟩ := exists_visits_front ⟨entry.2, member⟩
    obtain ⟨rest', visits'⟩ := exists_visits_front ⟨other.2, member'⟩
    have heads := (head?_list_front here rest).symm
    rw [same _ _ visits visits', head?_list_front there rest'] at heads
    exact (Prod.mk.inj (Option.some.inj heads)).1
  · intro apart visit other visits visits'
    refine List.Perm.eq_of_pairwise (fun a b first second => ?_) (list_sorted registry visit)
      (list_sorted registry other) (visits.list_perm.trans visits'.list_perm.symm)
    intro below above
    obtain ⟨entry, member, rfl⟩ := List.mem_map.mp (visits.list_perm.mem_iff.mp first)
    obtain ⟨entry', member', rfl⟩ := List.mem_map.mp (visits'.list_perm.mem_iff.mp second)
    have named : entry.2.name = entry'.2.name := String.le_antisymm below above
    exact Prod.ext (apart entry member entry' member' named) named

/-! ### After any registrations -/

/-- After any registrations the decoder registered first for a codec is made by it, or none is known. A
search by name makes the first one of the name from some codec, in any order, but all orders make the same
one only if the codecs that have the name agree on it. In any order the listing has every registration once
and is sorted by name; all orders list the same only if no two codecs share a name. -/
theorem order_independent_iff (registrations : List (Codec × Registration)) :
    let registry := ofRegistrations registrations
    (∀ codec, registry.create codec =
      match registrations.find? fun entry => entry.1 = codec with
      | some entry => entry.2.make
      | none => .error (.noDecoderFor codec)) ∧
    (∀ visit, registry.Visits visit → ∀ name,
      (registry.createByName visit name = .error (.noDecoderNamed name) ∧
        ∀ codec, registry.firstNamed? name codec = none) ∨
      ∃ codec registration, registry.firstNamed? name codec = some registration ∧
        registry.createByName visit name = registration.make) ∧
    (∀ name,
      (∀ visit other, registry.Visits visit → registry.Visits other →
        registry.createByName visit name = registry.createByName other name) ↔
      ∀ codec other first second, registry.firstNamed? name codec = some first →
        registry.firstNamed? name other = some second → first.make = second.make) ∧
    (∀ visit, registry.Visits visit →
      (registry.list visit).Pairwise (fun a b => a.2 ≤ b.2) ∧
        (registry.list visit).Perm (registrations.map fun entry => (entry.1, entry.2.name))) ∧
    ((∀ visit other, registry.Visits visit → registry.Visits other →
        registry.list visit = registry.list other) ↔
      ∀ entry ∈ registrations, ∀ other ∈ registrations,
        entry.2.name = other.2.name → entry.1 = other.1) := by
  intro registry
  have entries : registry.entries = registrations := entries_ofRegistrations registrations
  rw [← entries]
  exact ⟨create_eq registry, fun visit visits => visits.createByName_cases,
    createByName_same_iff registry, fun visit visits => ⟨list_sorted registry visit, visits.list_perm⟩,
    list_same_iff registry⟩

/-- Two codecs that have a decoder of one name; the one registered first cannot be made. -/
def shared : List (Codec × Registration) :=
  [(.av1, ⟨"fast", .error (.reported .unsupported "factory")⟩), (.h264, ⟨"fast", .ok h264Decoder⟩)]

/-- The two have their order only from the order in which they are come to: one order finds the decoder
that cannot be made, the other the one that can, and they list the two in different orders. -/
theorem order_dependent_shared :
    ((ofRegistrations shared).Visits [.av1, .h264] ∧ (ofRegistrations shared).Visits [.h264, .av1]) ∧
    (ofRegistrations shared).create .av1 = .error (.reported .unsupported "factory") ∧
    (¬ ∀ visit other, (ofRegistrations shared).Visits visit → (ofRegistrations shared).Visits other →
      (ofRegistrations shared).createByName visit "fast" =
        (ofRegistrations shared).createByName other "fast") ∧
    ¬ ∀ visit other, (ofRegistrations shared).Visits visit → (ofRegistrations shared).Visits other →
      (ofRegistrations shared).list visit = (ofRegistrations shared).list other := by
  obtain ⟨made, -, byName, -, listed⟩ := order_independent_iff shared
  refine ⟨⟨⟨by decide, fun codec => ?_⟩, ⟨by decide, fun codec => ?_⟩⟩, made .av1, ?_, ?_⟩
  · rw [entries_ofRegistrations]
    cases codec <;> simp [shared]
  · rw [entries_ofRegistrations]
    cases codec <;> simp [shared]
  · rw [byName]
    intro same
    cases same .av1 .h264 _ _ rfl rfl
  · rw [listed]
    intro apart
    cases apart _ (List.mem_cons_self ..) _ (List.mem_cons_of_mem _ (List.mem_cons_self ..)) rfl

end VideoAccel.Registry
