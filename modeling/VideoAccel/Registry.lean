import VideoAccel.Pipeline.Decoder

/-!
Finding a decoder by codec or by name.

Decoders are registered under a codec, any number of them to a codec, and names need not be
unique. By codec, the one registered first is found. A search by name and the listing visit the
codecs in an order that the caller gives, and within a codec follow the order of registration.
-/

namespace VideoAccel

/-- A registered decoder: its name, and what making one comes to. -/
structure Registration where
  name : String
  make : Except Fault DecoderIdentity

structure Registry where
  /-- All registrations in order, each with its codec. -/
  entries : List (Codec × Registration)

namespace Registry

def empty : Registry := ⟨[]⟩

/-- Registers a decoder behind the others of its codec. -/
def register (registry : Registry) (codec : Codec) (registration : Registration) : Registry :=
  ⟨registry.entries ++ [(codec, registration)]⟩

/-- Registers the decoders of this library. -/
def registerAll (registry : Registry) : Registry :=
  registry.register h264Decoder.codec ⟨h264Decoder.name, .ok h264Decoder⟩

/-- The decoders of this library and no others. -/
def standard : Registry :=
  registerAll empty

/-- The registrations of a codec, in order. -/
def shelf (registry : Registry) (codec : Codec) : List Registration :=
  (registry.entries.filter fun entry => entry.1 = codec).map Prod.snd

/-- Makes the decoder registered first for a codec. -/
def create (registry : Registry) (codec : Codec) : Except Fault DecoderIdentity :=
  match (registry.shelf codec).head? with
  | some registration => registration.make
  | none => .error (.noDecoderFor codec)

/-- Makes the first decoder of a name, codec by codec in the order `visit`. -/
def createByName (registry : Registry) (visit : List Codec) (name : String) :
    Except Fault DecoderIdentity :=
  match (visit.flatMap registry.shelf).find? (·.name == name) with
  | some registration => registration.make
  | none => .error (.noDecoderNamed name)

/-- All registrations sorted by name. Registrations of one name keep the order in which `visit`
comes to their codecs. -/
def list (registry : Registry) (visit : List Codec) : List (Codec × String) :=
  (visit.flatMap fun codec => (registry.shelf codec).map fun entry => (codec, entry.name)).mergeSort
    fun a b => !decide (b.2 < a.2)

theorem shelf_register (registry : Registry) (codec other : Codec) (registration : Registration) :
    (registry.register codec registration).shelf other =
      if codec = other then registry.shelf other ++ [registration] else registry.shelf other := by
  unfold register shelf
  split <;> simp_all

end Registry

end VideoAccel
