import BackendRegistrar.Json.Decode

/-! Optional settings of a record: a table says which there are and what values each takes.
A setting that is null is absent. -/

namespace BackendRegistrar

inductive SettingKind
  | number
  | text
  | flag
  | document
deriving DecidableEq, Repr

/-- The settings that are present, with their values. -/
abbrev Settings := Json.Members

namespace SettingKind

/-- Reads a value of the kind; documents are put into canonical form. -/
def decode : SettingKind → Decoder Json
  | number => fun j => (Decoder.int32 j).map fun n => .int n.toInt
  | text => fun j => (Decoder.string j).map .string
  | flag => fun j => (Decoder.bool j).map .bool
  | document => fun j => .ok j.canonical

end SettingKind

structure SettingField where
  name : String
  kind : SettingKind
deriving DecidableEq, Repr

namespace Record

def present (f : SettingField) (value : Option Json) : Settings :=
  (value.map fun v => (f.name, v)).toList

/-- A record that waits for settings, with all the settings of a table put before them. -/
def takeSettings : List SettingField → Record (Settings → α) → Record (Settings → α)
  | [], record => record
  | f :: rest, record =>
    takeSettings rest
      ((record.map fun make value found => make (present f value ++ found)).take
        (.optional f.name f.kind.decode))

def withSettings (fields : List SettingField) (record : Record (Settings → α)) : Record α :=
  (takeSettings fields record).map fun make => make []

end Record

end BackendRegistrar
