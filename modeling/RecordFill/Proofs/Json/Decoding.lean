import RecordFill.Files.Format
import RecordFill.Proofs.Attempts
import RecordFill.Proofs.Json.RoundTrip

namespace RecordFill

namespace Json

open Value

theorem Value.readable_ofText (text : String) : (ofText text).Readable := .scalar (.text text)

/-- A number of 64 bits has at most twenty digits. -/
theorem Value.readable_ofInt {number : Int} (within : number.natAbs < UInt64.size) : (ofInt number).Readable := by
  have digits : UInt64.size ≤ 10 ^ integerDigits := by decide
  have short : (Nat.toDigits 10 number.natAbs).length ≤ integerDigits :=
    (Nat.length_toDigits_le_iff (by decide) (by decide)).mpr (Nat.lt_of_lt_of_le within digits)
  exact .scalar (.integer short)

/-- A record is read back when its members are. -/
theorem Value.readable_ofMembers {members : List (String × Value)}
    (readable : ∀ member ∈ members, member.2.Readable) : (ofMembers members).Readable := by
  apply Readable.object
  · intro keyed member
    obtain ⟨⟨key, value⟩, -, rfl⟩ := List.mem_map.mp member
    exact ⟨key, rfl⟩
  · intro keyed member
    obtain ⟨⟨key, value⟩, listed, rfl⟩ := List.mem_map.mp member
    exact readable _ listed

/-- The parts of a record written as an object are its members. -/
theorem Value.parts?_ofMembers (members : List (String × Value)) :
    parts? (ofMembers members) = some (.named members) := by
  have named : ((members.map fun member => (Content.text member.1, member.2)).mapM fun member => do
      return (← member.1.text?, member.2)) = some members := by
    apply mapM_map_of_inverse
    intro member
    rfl
  exact congrArg (Option.bind · fun parts => some (Parts.named parts)) named

/-- The fields of a record written as an object are asked for among its members. -/
theorem Value.fields?_ofMembers (shape : Shape) (members : List (String × Value)) :
    Datum.fields? shape (ofMembers members) = shape.names.mapM (Datum.part? members) := by
  have parts : Datum.parts? (ofMembers members) = some (.named members) := parts?_ofMembers members
  simp only [Datum.fields?, parts, Option.bind_eq_bind, Option.bind_some]

/-- What is written is read back, and is decoded as what it was written from. -/
structure Lossless {α : Type} (encode : α → Value) (decode : Value → Option α) : Prop where
  readable : ∀ item, (encode item).Readable
  decoded : ∀ item, decode (encode item) = some item

namespace Lossless

theorem text : Lossless ofText Datum.text? where
  readable := readable_ofText
  decoded _ := rfl

theorem unsigned : Lossless (fun number : UInt64 => ofInt number.toNat) Datum.unsigned? where
  readable number := readable_ofInt number.toNat_lt
  decoded number := by
    have natural : Datum.natural? (ofInt number.toNat) = some number.toNat := by
      show (if (0 : Int) ≤ number.toNat then some (number.toNat : Int).toNat else none) = some number.toNat
      simp
    have within : number.toNat < UInt64.size := number.toNat_lt
    simp only [Datum.unsigned?, natural, Option.bind_eq_bind, Option.bind_some, if_pos within, Option.pure_def,
      UInt64.ofNat_toNat]

theorem signed : Lossless (fun number : Int64 => ofInt number.toInt) Datum.signed? where
  readable number := by
    have lower := number.le_toInt
    have upper := number.toInt_lt
    have size : UInt64.size = 2 ^ 64 := rfl
    exact readable_ofInt (by omega)
  decoded number := by
    have integer : Datum.integer? (ofInt number.toInt) = some number.toInt := rfl
    rw [Datum.signed?, integer]
    exact Text.int64?_eq_some_iff.mpr rfl

/-- A truth value is the switch that is on when it is true. -/
theorem switch : Lossless ofBool fun value => (Datum.switch? value).map Switch.isOn where
  readable value := .scalar (.bool value)
  decoded _ := rfl

variable {α : Type} {encode : α → Value} {decode : Value → Option α}

/-- A list is written item by item. -/
theorem list (lossless : Lossless encode decode) :
    Lossless (fun items => .array (items.map encode)) (Datum.list? decode) where
  readable items := by
    apply Readable.array
    intro value member
    obtain ⟨item, -, rfl⟩ := List.mem_map.mp member
    exact lossless.readable item
  decoded := mapM_map_of_inverse lossless.decoded

/-- What is missing is written as null, which nothing else is written as. -/
theorem optional (lossless : Lossless encode decode)
    (present : ∀ item, Datum.absent? (encode item) = some false) :
    Lossless (fun item => item.elim null encode) (Datum.optional? decode) where
  readable
    | none => .scalar .null
    | some item => lossless.readable item
  decoded
    | none => rfl
    | some item => by
      simp only [Datum.optional?, Option.elim_some, present, lossless.decoded, Option.bind_eq_bind,
        Option.bind_some, Bool.false_eq_true, if_false, Option.pure_def]

end Lossless

end Json

namespace DataFormat

variable {α : Type} {encode : α → Json.Value} {decode : (ν : Type) → [Datum ν] → ν → Option α}

/-- What is written without loss is decoded from its printed text in front of blanks. -/
theorem decode?_toText_append (lossless : Json.Lossless encode (decode Json.Value)) (layout : Json.Layout)
    (shape : Shape) (item : α) {spaces : String} (blank : ∀ c ∈ spaces.toList, Json.isSpace c = true) :
    DataFormat.json.decode? shape decode ((encode item).toText layout ++ spaces) = some item := by
  rw [DataFormat.decode?, (lossless.readable item).read?_toText_append layout blank, Option.bind_some,
    lossless.decoded]

/-- What is written without loss is decoded from its printed text. -/
theorem decode?_toText (lossless : Json.Lossless encode (decode Json.Value)) (layout : Json.Layout) (shape : Shape)
    (item : α) : DataFormat.json.decode? shape decode ((encode item).toText layout) = some item := by
  have bare : DataFormat.json.decode? shape decode ((encode item).toText layout ++ "") = some item :=
    decode?_toText_append lossless layout shape item (by simp)
  rwa [String.append_empty] at bare

end DataFormat

end RecordFill
