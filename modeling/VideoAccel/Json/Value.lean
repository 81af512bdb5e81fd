import VideoAccel.Numeral

/-!
JSON values as far as settings and pictures need them.

A number keeps only whether it was written with a minus sign, its whole part, and whether it had
neither fraction nor exponent. A string is absent when its escapes name no character: such a
string is well formed and may stand where nobody reads it.

Two ways of reading an object are offered. `member?` looks one member up and takes `null` for
absence; whoever has to refuse repeated members walks through `members` instead.
-/

namespace VideoAccel

inductive Json where
  | null
  | bool (value : Bool)
  /-- A number; `plain` says that it was written without fraction and exponent. -/
  | number (negative : Bool) (whole : Nat) (plain : Bool)
  | string (text : Option String)
  | array (items : List Json)
  /-- Members in the order in which they were written, repeated keys included. -/
  | object (members : List (Option String × Json))
deriving Repr, Inhabited

namespace Json

/-! ### Readings of a value -/

def bool? : Json → Option Bool
  | bool value => some value
  | _ => none

/-- A number written as a plain one without sign, and below `bound`. -/
def natural? (bound : Nat) : Json → Option Nat
  | number false whole true => if whole < bound then some whole else none
  | _ => none

/-- A plain number of at most 32 bits. -/
def word32? : Json → Option Nat :=
  natural? Numeral.bound32

/-- A plain number of at most 64 bits. -/
def word64? : Json → Option Nat :=
  natural? Numeral.bound64

/-- A plain number of 32 bits in two's complement. -/
def signed32? : Json → Option Int
  | number false whole true => if whole < Numeral.bound31 then some whole else none
  | number true whole true => if whole ≤ Numeral.bound31 then some (-whole) else none
  | _ => none

def string? : Json → Option String
  | string text => text
  | _ => none

/-- The items of an array, each of them read. -/
def list? {α : Type} (read : Json → Option α) : Json → Option (List α)
  | array items => items.mapM read
  | _ => none

/-- A choice among names: the name itself, or an object that gives `null` to it alone. -/
def choice? {α : Type} (named : String → Option α) : Json → Option α
  | string (some name) => named name
  | object [(some name, null)] => named name
  | _ => none

/-! ### Members -/

/-- The first member of a name, unless it is null. -/
def member? (json : Json) (key : String) : Option Json :=
  match json with
  | object members =>
      match members.find? fun member => member.1 == some key with
      | none | some (_, null) => none
      | some (_, value) => some value
  | _ => none

/-- Reads a member that may be left out. -/
def memberOr {α : Type} (json : Json) (key : String) (read : Json → Option α) (default : α) :
    Option α :=
  match json.member? key with
  | none => some default
  | some value => read value

def boolOr (json : Json) (key : String) (default : Bool) : Option Bool :=
  json.memberOr key bool? default

def wordOr (json : Json) (key : String) (default : Nat) : Option Nat :=
  json.memberOr key word32? default

/-- Reads a place or a size. -/
def indexOr (json : Json) (key : String) (default : Nat) : Option Nat :=
  json.memberOr key word64? default

def signedOr (json : Json) (key : String) (default : Int) : Option Int :=
  json.memberOr key signed32? default

def listOr {α : Type} (json : Json) (key : String) (read : Json → Option α) : Option (List α) :=
  json.memberOr key (list? read) []

end Json

end VideoAccel
