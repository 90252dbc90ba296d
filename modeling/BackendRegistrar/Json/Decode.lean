import BackendRegistrar.Json.Basic

/-! Reading values out of JSON documents. A record is read from an object, whose members are
visited in order, or from an array of its fields in order. -/

namespace BackendRegistrar

inductive DecodeError
  | missing (field : String)
  | mismatch
deriving DecidableEq, Repr

abbrev Decoder (α : Type) := Json → Except DecodeError α

namespace Decoder

def string : Decoder String
  | .string s => .ok s
  | _ => .error .mismatch

def bool : Decoder Bool
  | .bool b => .ok b
  | _ => .error .mismatch

def int32 : Decoder Int32
  | .number (.integer n) =>
    if Int32.minValue.toInt ≤ n ∧ n ≤ Int32.maxValue.toInt then .ok (Int32.ofInt n)
    else .error .mismatch
  | _ => .error .mismatch

def int64 : Decoder Int64
  | .number (.integer n) =>
    if Int64.minValue.toInt ≤ n ∧ n ≤ Int64.maxValue.toInt then .ok (Int64.ofInt n)
    else .error .mismatch
  | _ => .error .mismatch

def orNull (decode : Decoder α) : Decoder (Option α)
  | .null => .ok none
  | j => (decode j).map some

def nullAs (value : α) (decode : Decoder α) : Decoder α
  | .null => .ok value
  | j => decode j

def items (decode : Decoder α) : List Json → Except DecodeError (List α)
  | [] => .ok []
  | j :: rest => do
    let first ← decode j
    let others ← items decode rest
    return first :: others

def list (decode : Decoder α) : Decoder (List α)
  | .array js => items decode js
  | _ => .error .mismatch

def membersOf (decode : Decoder α) : Json.Members → Except DecodeError (List (String × α))
  | [] => .ok []
  | (name, value) :: rest => do
    let first ← decode value
    let others ← membersOf decode rest
    return (name, first) :: others

def table (decode : Decoder α) : Decoder (List (String × α))
  | .object ms => membersOf decode ms
  | _ => .error .mismatch

def check (decode : Decoder α) : Decoder Unit := fun j => (decode j).map fun _ => ()

end Decoder

/-- A field of a record: its name, how its value is read, and what stands for it when an
object or an array does not have it. -/
structure Field (α : Type) where
  name : String
  decode : Decoder α
  absent : Except DecodeError α
  absentItem : Except DecodeError α

namespace Field

def required (name : String) (decode : Decoder α) : Field α :=
  ⟨name, decode, .error (.missing name), .error .mismatch⟩

def withDefault (name : String) (decode : Decoder α) (value : α) : Field α :=
  ⟨name, decode, .ok value, .ok value⟩

def optional (name : String) (decode : Decoder α) : Field (Option α) :=
  withDefault name (Decoder.orNull decode) none

/-- A field that an object may leave out, but not an array. -/
def optionalMember (name : String) (decode : Decoder α) : Field (Option α) :=
  ⟨name, Decoder.orNull decode, .ok none, .error .mismatch⟩

/-- A field for which null stands like absence for a given value. -/
def lenient (name : String) (decode : Decoder α) (value : α) : Field α :=
  withDefault name (Decoder.nullAs value decode) value

def ofMembers (field : Field α) (ms : Json.Members) : Except DecodeError α :=
  match ms.get? field.name with
  | some value => field.decode value
  | none => field.absent

def check (field : Field α) : Decoder Unit := field.decode.check

end Field

/-- How a record is read: which members it knows, and how it is built from the members of an
object or from the items of an array. -/
structure Record (α : Type) where
  checks : List (String × Decoder Unit)
  build : Json.Members → Except DecodeError α
  ofItems : List Json → Except DecodeError (α × List Json)

namespace Record

def start (value : α) : Record α where
  checks := []
  build _ := .ok value
  ofItems items := .ok (value, items)

def map (f : α → β) (record : Record α) : Record β where
  checks := record.checks
  build ms := (record.build ms).map f
  ofItems items := (record.ofItems items).map fun (value, rest) => (f value, rest)

def take (record : Record (α → β)) (field : Field α) : Record β where
  checks := record.checks ++ [(field.name, field.check)]
  build ms := do
    let f ← record.build ms
    let value ← field.ofMembers ms
    return f value
  ofItems items := do
    let (f, rest) ← record.ofItems items
    match rest with
    | item :: rest => do
      let value ← field.decode item
      return (f value, rest)
    | [] => do
      let value ← field.absentItem
      return (f value, [])

/-- A record that knows more members, without keeping their values; null stands for absence. -/
def know (record : Record α) (members : List (String × Decoder Unit)) : Record α :=
  { record with checks := record.checks ++ members.map fun m => (m.1, (Decoder.orNull m.2).check) }

/-- Visits members in order: a known one must not come twice, and its value must do. -/
def visit (checks : List (String × Decoder Unit)) (seen : List String) :
    Json.Members → Except DecodeError Unit
  | [] => .ok ()
  | (name, value) :: rest =>
    match checks.find? fun c => c.1 = name with
    | none => visit checks seen rest
    | some (_, check) =>
      if name ∈ seen then .error .mismatch
      else do
        check value
        visit checks (name :: seen) rest

/-- Reads the record from the members of an object. Wrong values come before missing fields. -/
def ofMembers (record : Record α) (ms : Json.Members) : Except DecodeError α := do
  visit record.checks [] ms
  record.build ms

def decodeObject (record : Record α) : Decoder α
  | .object ms => record.ofMembers ms
  | _ => .error .mismatch

/-- Reads the record from an object, or from an array of its fields with none left over. -/
def decode (record : Record α) : Decoder α
  | .object ms => record.ofMembers ms
  | .array items => do
    let (value, rest) ← record.ofItems items
    if rest.isEmpty then .ok value else .error .mismatch
  | _ => .error .mismatch

end Record

end BackendRegistrar
