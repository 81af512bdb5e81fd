import VideoAccel.Json.Reader

/-!
JSON objects of numbers and truth values, in one line.

`objectText` writes such an object without blanks, as a program prints it. The reader gives back its
members in their order, each with its value (`ofText?_objectText`). The lemmas before it follow the reader:
digits, numbers, keys, values, and then the members by induction on their list.
-/

namespace VideoAccel.Json

/-! ### Objects as text -/

/-- A value that is a natural number or a truth value. -/
inductive Scalar where
  | natural (value : Nat)
  | truth (value : Bool)

namespace Scalar

def text : Scalar → List Char
  | natural value => Nat.toDigits 10 value
  | truth value => (toString value).toList

def json : Scalar → Json
  | natural value => .number false value true
  | truth value => .bool value

end Scalar

/-- The characters stand for themselves between quotes. -/
def Plain (key : List Char) : Prop :=
  ∀ c ∈ key, c ≠ '"' ∧ c ≠ '\\' ∧ 0x20 ≤ c.toNat

instance (key : List Char) : Decidable (Plain key) :=
  List.decidableBAll _ key

def memberText (member : String × Scalar) : List Char :=
  '"' :: (member.1.toList ++ '"' :: ':' :: member.2.text)

/-- The members, with commas in between. -/
def membersText : List (String × Scalar) → List Char
  | [] => []
  | [member] => memberText member
  | member :: next :: rest => memberText member ++ ',' :: membersText (next :: rest)

def objectText (members : List (String × Scalar)) : String :=
  String.ofList ('\x7b' :: (membersText members ++ ['\x7d']))

namespace Reader

variable {rest : List Char}

/-! ### Numbers -/

theorem digits_append {text : List Char} (all : ∀ c ∈ text, c.isDigit = true)
    (stops : ∀ c ∈ rest.head?, c.isDigit = false) : digits (text ++ rest) = (text, rest) := by
  induction text with
  | nil =>
      cases rest with
      | nil => rfl
      | cons c rest =>
          have stop := stops c rfl
          simp [digits, stop]
  | cons c text ih =>
      obtain ⟨here, later⟩ := List.forall_mem_cons.mp all
      simp [digits, here, ih later]

theorem wholeOf_toDigits (value : Nat) : wholeOf (Nat.toDigits 10 value) = value := by
  have step : (fun value (c : Char) => value * 10 + (c.toNat - '0'.toNat)) =
      fun value c => 10 * value + (c.toNat - '0'.toNat) := by
    funext value c
    rw [Nat.mul_comm]
  rw [wholeOf, step]
  exact Nat.ofDigitChars_toDigits (by decide) (by decide)

/-- Only zero is written with a leading zero. -/
theorem head?_toDigits_ne {value : Nat} (positive : 0 < value) :
    (Nat.toDigits 10 value).head? ≠ some '0' := by
  induction value using Nat.strongRecOn with
  | ind value ih =>
      rw [Nat.toDigits_eq_if (by decide)]
      split
      · simp only [List.head?_cons, ne_eq, Option.some.injEq, Nat.digitChar_eq_zero]
        omega
      · rw [List.head?_append, Option.or_of_isSome (List.isSome_head?.mpr Nat.toDigits_ne_nil)]
        exact ih (value / 10) (by omega) (by omega)

/-- The decimal digits. -/
def decimals : List Char :=
  ['0', '1', '2', '3', '4', '5', '6', '7', '8', '9']

theorem mem_decimals {c : Char} (digit : c.isDigit = true) : c ∈ decimals := by
  have range : 48 ≤ c.toNat ∧ c.toNat ≤ 57 := by
    rw [Char.isDigit, Bool.and_eq_true, decide_eq_true_iff, decide_eq_true_iff] at digit
    exact digit
  have every : ∀ code ∈ List.range' 48 10, Char.ofNat code ∈ decimals := by decide
  rw [← Char.ofNat_toNat c]
  exact every _ (List.mem_range'_1.mpr (by omega))

/-- Text that begins with a digit is read as a number without a sign. -/
theorem value_of_isDigit {first : Char} (digit : first.isDigit = true) (steps : Nat)
    (text : List Char) :
    value (steps + 1) (first :: text) =
      match digits (first :: text) with
      | ([], _) => none
      | (first :: more, rest) =>
          if first = '0' ∧ more ≠ [] then none
          else do
            let (fractional, rest) ← fraction rest
            let (scaled, rest) ← exponent rest
            return (.number false (wholeOf (first :: more)) (!fractional && !scaled), rest) := by
  have known := mem_decimals digit
  simp only [decimals, List.mem_cons, List.not_mem_nil, or_false] at known
  rcases known with rfl | rfl | rfl | rfl | rfl | rfl | rfl | rfl | rfl | rfl <;> rfl

/-- What follows ends the value of a member. -/
def Ends (rest : List Char) : Prop :=
  ∃ c later, rest = c :: later ∧ (c = ',' ∨ c = '\x7d')

theorem value_toDigits (steps number : Nat) (ends : Ends rest) :
    value (steps + 1) (Nat.toDigits 10 number ++ rest) = some (.number false number true, rest) := by
  have all : ∀ c ∈ Nat.toDigits 10 number, c.isDigit = true := fun _ member =>
    Nat.isDigit_of_mem_toDigits (by decide) (by decide) member
  have read : digits (Nat.toDigits 10 number ++ rest) = (Nat.toDigits 10 number, rest) := by
    obtain ⟨c, later, rfl, closes⟩ := ends
    refine digits_append all fun other same => ?_
    cases same
    rcases closes with rfl | rfl <;> decide
  have whole : fraction rest = some (false, rest) ∧ exponent rest = some (false, rest) := by
    obtain ⟨c, later, rfl, rfl | rfl⟩ := ends <;> exact ⟨rfl, rfl⟩
  have value_eq := wholeOf_toDigits number
  have leading := @head?_toDigits_ne number
  cases written : Nat.toDigits 10 number with
  | nil => exact absurd written Nat.toDigits_ne_nil
  | cons first more =>
      have fine : ¬ (first = '0' ∧ more ≠ []) := by
        rintro ⟨rfl, longer⟩
        rcases Nat.eq_zero_or_pos number with rfl | positive
        · rw [Nat.toDigits_zero] at written
          exact longer (List.cons.inj written).2.symm
        · exact leading positive (by rw [written]; rfl)
      rw [written] at read all value_eq
      rw [List.cons_append] at read ⊢
      rw [value_of_isDigit (all first List.mem_cons_self), read]
      simp only [if_neg fine, whole.1, whole.2, value_eq, Option.bind_eq_bind, Option.bind_some]
      rfl

/-! ### Keys -/

theorem units_plain {key : List Char} (plain : Plain key) {steps : Nat} (enough : key.length < steps) :
    units steps (key ++ '"' :: rest) = some (key.map .inl, rest) := by
  induction key generalizing steps with
  | nil =>
      obtain ⟨steps, rfl⟩ := Nat.exists_eq_succ_of_ne_zero (Nat.ne_of_gt enough)
      simp [units]
  | cons c key ih =>
      obtain ⟨⟨quote, escape, printed⟩, later⟩ := List.forall_mem_cons.mp plain
      obtain ⟨steps, rfl⟩ : ∃ less, steps = less + 1 := ⟨steps - 1, by omega⟩
      have read := ih later (Nat.lt_of_succ_lt_succ enough)
      have stands : ¬ (c.toNat < 0x20 ∨ c = '\\') := by
        rintro (low | same)
        · exact Nat.not_lt.mpr printed low
        · exact escape same
      rw [List.cons_append, units, read, if_neg stands]
      · rfl
      · exact quote
      · exact fun _ same _ => escape same
      · exact fun _ _ same _ => escape same

theorem spell_plain (key : List Char) : spell (key.map .inl) = some key := by
  induction key with
  | nil => rfl
  | cons c key ih => simp [spell, ih]

theorem string_plain {key : String} (plain : Plain key.toList) :
    string (key.toList ++ '"' :: rest) = some (some key, rest) := by
  have read := @units_plain rest key.toList plain ((key.toList ++ '"' :: rest).length + 1)
    (by rw [List.length_append]; omega)
  rw [string, read]
  exact congrArg some
    (Prod.ext (by rw [spell_plain, Option.map_some, String.ofList_toList]) rfl)

/-! ### Members -/

/-- Text that begins with a brace and a quote is read as an object with members. -/
theorem value_object (steps : Nat) (text : List Char) :
    value (steps + 1) ('\x7b' :: '"' :: text) =
      (members steps ('"' :: text)).map fun (members, rest) => (.object members, rest) := by
  have brace : ∀ text, skipBlanks ('\x7b' :: text) = '\x7b' :: text := fun _ => rfl
  rw [value, brace]
  rfl

theorem value_scalar (scalar : Scalar) (steps : Nat) (ends : Ends rest) :
    value (steps + 1) (scalar.text ++ rest) = some (scalar.json, rest) := by
  cases scalar with
  | natural number => exact value_toDigits steps number ends
  | truth truth => cases truth <;> rfl

/-- A member is read up to the character behind it. -/
theorem members_memberText {member : String × Scalar} (plain : Plain member.1.toList) (steps : Nat)
    (ends : Ends rest) :
    members (steps + 2) (memberText member ++ rest) =
      match skipBlanks rest with
      | ',' :: rest => do
          let (more, rest) ← members (steps + 1) rest
          return ((some member.1, member.2.json) :: more, rest)
      | '\x7d' :: rest => return ([(some member.1, member.2.json)], rest)
      | _ => none := by
  have key := @string_plain (':' :: (member.2.text ++ rest)) member.1 plain
  have item := value_scalar member.2 steps ends
  have text : memberText member ++ rest =
      '"' :: (member.1.toList ++ '"' :: ':' :: (member.2.text ++ rest)) := by
    simp [memberText]
  have quote : ∀ text, skipBlanks ('"' :: text) = '"' :: text := fun _ => rfl
  rw [text, members, quote]
  -- The key is read, and behind its colon the value.
  refine (congrArg (Option.bind · _) key).trans ?_
  exact congrArg (Option.bind · _) item

theorem members_membersText {list : List (String × Scalar)} (filled : list ≠ [])
    (plain : ∀ key ∈ list.map Prod.fst, Plain key.toList) {steps : Nat}
    (enough : list.length < steps) :
    members steps (membersText list ++ '\x7d' :: rest) =
      some (list.map fun member => (some member.1, member.2.json), rest) := by
  induction list generalizing steps with
  | nil => exact absurd rfl filled
  | cons member list ih =>
      rw [List.map_cons] at plain
      obtain ⟨here, later⟩ := List.forall_mem_cons.mp plain
      obtain ⟨steps, rfl⟩ : ∃ less, steps = less + 2 :=
        ⟨steps - 2, by rw [List.length_cons] at enough; omega⟩
      cases list with
      | nil =>
          rw [membersText, members_memberText here steps ⟨_, _, rfl, .inr rfl⟩]
          rfl
      | cons next list =>
          have read := ih (List.cons_ne_nil _ _) later (Nat.lt_of_succ_lt_succ enough)
          rw [membersText, List.append_assoc, List.cons_append,
            members_memberText here steps ⟨_, _, rfl, .inl rfl⟩]
          have comma : ∀ text, skipBlanks (',' :: text) = ',' :: text := fun _ => rfl
          simp only [comma, read, Option.bind_eq_bind, Option.bind_some]
          rfl

end Reader

/-- Every member takes up text. -/
theorem length_le_membersText (list : List (String × Scalar)) :
    list.length ≤ (membersText list).length := by
  induction list with
  | nil => exact Nat.le_refl 0
  | cons member list ih =>
      cases list with
      | nil => simp [membersText, memberText]
      | cons next list =>
          have counted : (membersText (member :: next :: list)).length =
              (memberText member).length + ((membersText (next :: list)).length + 1) :=
            List.length_append
          rw [List.length_cons]
          omega

/-- An object that is written in one line is read back member by member. -/
theorem ofText?_objectText {list : List (String × Scalar)} (filled : list ≠ [])
    (plain : ∀ key ∈ list.map Prod.fst, Plain key.toList) :
    ofText? (objectText list) =
      some (.object (list.map fun member => (some member.1, member.2.json))) := by
  have steps : list.length < ('\x7b' :: (membersText list ++ ['\x7d'])).length := by
    have := length_le_membersText list
    rw [List.length_cons, List.length_append]
    omega
  have read := @Reader.members_membersText [] list filled plain _ steps
  -- The first member begins with its quote, so the object is not the empty one.
  obtain ⟨text, first⟩ : ∃ text, membersText list ++ ['\x7d'] = '"' :: text := by
    cases list with
    | nil => exact absurd rfl filled
    | cons member list => cases list <;> exact ⟨_, rfl⟩
  rw [ofText?, objectText, String.toList_ofList]
  rw [first] at read ⊢
  simp only [Reader.value_object, read, Option.map_some]
  rfl

end VideoAccel.Json
