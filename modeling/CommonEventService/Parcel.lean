import CommonEventService.Lib.Channel

/-!
# Parcels and string conversions

The classes that go from a process to the service are written to a `Parcel`
and read from it by primitives of another component, and their strings go, but
for one, through `Str8ToStr16` and `Str16ToStr8`. Here stand the primitives
that are used, and what is relied on: a parcel gives back in the order of the
writes what was written, each value to the read of its own kind.
-/

namespace CommonEventService

open Channel

variable {ρ σ ι : Type}

/-- **The primitives of a `Parcel`.** A write that fails and a read that returns
false give `none`. `ReadInt32` is there twice: as the read that gives a value
in any case, and, with the value as its parameter, as the one that says whether
it could. -/
structure Parcel (ρ σ : Type) where
  writeBool : Bool → StateT ρ Option Unit
  writeInt32 : Int32 → StateT ρ Option Unit
  writeUint32 : UInt32 → StateT ρ Option Unit
  writeString : String → StateT ρ Option Unit
  writeString16 : σ → StateT ρ Option Unit
  writeString16Vector : List σ → StateT ρ Option Unit
  writeInt32Vector : List Int32 → StateT ρ Option Unit
  /-- `WriteParcelable` of an object, which is written by its `Marshalling`. -/
  writeParcelable : StateT ρ Option Unit → StateT ρ Option Unit
  readBool : ρ → Bool × ρ
  readInt32 : ρ → Int32 × ρ
  readInt32To : StateT ρ Option Int32
  readUint32 : ρ → UInt32 × ρ
  readString : ρ → String × ρ
  readString16 : ρ → σ × ρ
  readString16Vector : StateT ρ Option (List σ)
  readInt32Vector : StateT ρ Option (List Int32)
  /-- `ReadParcelable` of a class, by its `Unmarshalling`. -/
  readParcelable : {α : Type} → StateT ρ Option α → StateT ρ Option α

/-- **First in, first out**: what is written is what the read of its kind gives,
and a parcelable is what its class makes of it. -/
structure Parcel.Fifo (P : Parcel ρ σ) (unread : ρ → List ι) : Prop where
  bool : ∀ b, Conveys unread (P.writeBool b) (value P.readBool) b
  int32 : ∀ n, Conveys unread (P.writeInt32 n) (value P.readInt32) n
  int32To : ∀ n, Conveys unread (P.writeInt32 n) P.readInt32To n
  uint32 : ∀ n, Conveys unread (P.writeUint32 n) (value P.readUint32) n
  string : ∀ s, Conveys unread (P.writeString s) (value P.readString) s
  string16 : ∀ s, Conveys unread (P.writeString16 s) (value P.readString16) s
  string16Vector : ∀ v, Conveys unread (P.writeString16Vector v) P.readString16Vector v
  int32Vector : ∀ v, Conveys unread (P.writeInt32Vector v) P.readInt32Vector v
  parcelable : ∀ {α : Type} {write : StateT ρ Option Unit} {read : StateT ρ Option α} {a : α},
    Conveys unread write read a →
      Conveys unread (P.writeParcelable write) (P.readParcelable read) a

/-- The conversions between strings of the two widths. -/
structure StringEx (σ : Type) where
  str8ToStr16 : String → σ
  str16ToStr8 : σ → String

/-- A string that is the same after both conversions. -/
def StringEx.Inverts (C : StringEx σ) (s : String) : Prop := C.str16ToStr8 (C.str8ToStr16 s) = s

theorem StringEx.map_inverts (C : StringEx σ) {strings : List String}
    (h : ∀ s ∈ strings, C.Inverts s) :
    (strings.map C.str8ToStr16).map C.str16ToStr8 = strings := by
  rw [List.map_map]
  exact (List.map_congr_left h).trans (List.map_id strings)

/-! ## A parcel of values

A parcel that keeps the values themselves, up to a number of them. -/

/-- A value in a parcel. -/
inductive ParcelItem (σ : Type) where
  | bool (b : Bool)
  | int32 (n : Int32)
  | uint32 (n : UInt32)
  | string (s : String)
  | string16 (s : σ)
  | string16Vector (v : List σ)
  | int32Vector (v : List Int32)
  deriving DecidableEq, Repr

namespace ParcelItem

/-- Put a value behind the others, where there is room. -/
def put (capacity : ℕ) (item : ParcelItem σ) : StateT (List (ParcelItem σ)) Option Unit :=
  fun items => if items.length < capacity then some ((), items ++ [item]) else none

/-- Take the next value, if it is of the kind that is asked for. -/
def take {α : Type} (kind : ParcelItem σ → Option α) : StateT (List (ParcelItem σ)) Option α
  | item :: items => (kind item).map (fun a => (a, items))
  | [] => none

/-- Take the next value, or give a default. -/
def takeD {α : Type} (kind : ParcelItem σ → Option α) (default : α) (items : List (ParcelItem σ)) :
    α × List (ParcelItem σ) :=
  ((take kind).run items).getD (default, items)

/-- Whether a parcelable follows. -/
def present : ParcelItem σ → Option Unit
  | .int32 n => if n = 0 then none else some ()
  | _ => none

theorem present_one : present (.int32 1 : ParcelItem σ) = some () := rfl

theorem writes_put (capacity : ℕ) (item : ParcelItem σ) : Writes id (put capacity item) [item] := by
  intro items items' hput
  have hput : (if items.length < capacity then some ((), items ++ [item]) else none)
      = some ((), items') := hput
  split at hput
  · cases hput
    rfl
  · cases hput

theorem conveys_take (capacity : ℕ) {item : ParcelItem σ} {α : Type}
    {kind : ParcelItem σ → Option α} {a : α} (h : kind item = some a) :
    Conveys id (put capacity item) (take kind) a := by
  refine ⟨[item], writes_put capacity item, ?_⟩
  rintro items rest rfl
  refine ⟨rest, ?_, rfl⟩
  show (kind item).map (fun a => (a, rest)) = some (a, rest)
  rw [h]
  rfl

theorem conveys_takeD (capacity : ℕ) {item : ParcelItem σ} {α : Type}
    {kind : ParcelItem σ → Option α} {a : α} (default : α) (h : kind item = some a) :
    Conveys id (put capacity item) (value (takeD kind default)) a := by
  refine ⟨[item], writes_put capacity item, ?_⟩
  rintro items rest rfl
  refine ⟨rest, ?_, rfl⟩
  show some (((kind item).map (fun a => (a, rest))).getD (default, item :: rest)) = some (a, rest)
  rw [h]
  rfl

end ParcelItem

open ParcelItem

/-- **A parcel of at most `capacity` values.** Before a parcelable stands that
there is one. -/
def Parcel.ofItems (capacity : ℕ) (empty : σ) : Parcel (List (ParcelItem σ)) σ where
  writeBool b := put capacity (.bool b)
  writeInt32 n := put capacity (.int32 n)
  writeUint32 n := put capacity (.uint32 n)
  writeString s := put capacity (.string s)
  writeString16 s := put capacity (.string16 s)
  writeString16Vector v := put capacity (.string16Vector v)
  writeInt32Vector v := put capacity (.int32Vector v)
  writeParcelable write := put capacity (.int32 1) >>= fun _ => write
  readBool := takeD (fun | .bool b => some b | _ => none) false
  readInt32 := takeD (fun | .int32 n => some n | _ => none) 0
  readInt32To := take (fun | .int32 n => some n | _ => none)
  readUint32 := takeD (fun | .uint32 n => some n | _ => none) 0
  readString := takeD (fun | .string s => some s | _ => none) ""
  readString16 := takeD (fun | .string16 s => some s | _ => none) empty
  readString16Vector := take (fun | .string16Vector v => some v | _ => none)
  readInt32Vector := take (fun | .int32Vector v => some v | _ => none)
  readParcelable read := take present >>= fun _ => read

theorem Parcel.ofItems_fifo (capacity : ℕ) (empty : σ) : (ofItems capacity empty).Fifo id where
  bool _ := conveys_takeD capacity _ rfl
  int32 _ := conveys_takeD capacity _ rfl
  int32To _ := conveys_take capacity rfl
  uint32 _ := conveys_takeD capacity _ rfl
  string _ := conveys_takeD capacity _ rfl
  string16 _ := conveys_takeD capacity _ rfl
  string16Vector _ := conveys_take capacity rfl
  int32Vector _ := conveys_take capacity rfl
  parcelable h := (conveys_take capacity present_one).andThen h

end CommonEventService
