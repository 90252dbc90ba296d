import BackendRegistrar.Json.Setting
import BackendRegistrar.Proofs.Canonical
import Mathlib.Data.List.Nodup

/-! Reading records back from what was written of them. Members with different names are visited
without a clash, and settings that were read once are read again as they are. -/

namespace BackendRegistrar

theorem bind_eq_ok {ε : Type} {x : Except ε α} {f : α → Except ε β} {value : β} :
    (x >>= f) = .ok value ↔ ∃ first, x = .ok first ∧ f first = .ok value := by
  cases x <;> simp [bind, Except.bind]

theorem map_eq_ok {ε : Type} {x : Except ε α} {f : α → β} {value : β} :
    x.map f = .ok value ↔ ∃ first, x = .ok first ∧ f first = value := by
  cases x <;> simp [Except.map]

theorem mapError_eq_ok {ε ε' : Type} {x : Except ε α} {f : ε → ε'} {value : α} : x.mapError f = .ok value ↔ x = .ok value := by
  cases x <;> simp [Except.mapError]

theorem ok_of_toOption {ε : Type} {x : Except ε α} {value : α} (found : x.toOption = some value) : x = .ok value := by
  cases x with
  | error e => cases found
  | ok other => exact congrArg Except.ok (Option.some.inj found)

namespace Json

/-- What reading and writing leaves of a member: null counts as absent, and a document is kept in
canonical form. -/
def kept : Option Json → Option Json
  | none | some .null => none
  | some j => some j.canonical

theorem Members.get?_append (first second : Members) (name : String) :
    Members.get? (first ++ second) name = (first.get? name).or (second.get? name) := by
  simp only [Members.get?, List.find?_append]
  cases first.find? fun m => m.1 = name <;> simp

theorem Members.get?_eq_none {ms : Members} {name : String} : ms.get? name = none ↔ name ∉ ms.map Prod.fst := by
  induction ms with
  | nil => simp
  | cons m rest ih =>
    rw [get?_cons, List.map_cons, List.mem_cons, not_or, ← ih]
    by_cases same : m.1 = name
    · simp [same]
    · simp [same, Ne.symm same]

/-- In canonical form a member has the last value of its name. -/
theorem canonicalMembers_get? (sorted ms : Members) (name : String) :
    Members.get? (canonicalMembers sorted ms) name =
      ((Members.get? ms.reverse name).map canonical).or (sorted.get? name) := by
  induction ms generalizing sorted with
  | nil => simp [canonicalMembers]
  | cons first rest ih =>
    obtain ⟨other, value⟩ := first
    rw [canonicalMembers, ih, Members.get?_insert, List.reverse_cons, Members.get?_append]
    cases Members.get? rest.reverse name with
    | some last => simp
    | none => by_cases same : other = name <;> simp [Members.get?_cons, same]

theorem string_ne_null (s : String) : string s ≠ .null := by simp

theorem int_ne_null (n : Int) : int n ≠ .null := by simp [int]

theorem ofMembers_ne_null (written : List (String × Option Json)) : ofMembers written ≠ .null := by simp [ofMembers]

/-- The members that are there. -/
def given (written : List (String × Option Json)) : Members := written.filterMap fun m => m.2.map (m.1, ·)

theorem given_names (written : List (String × Option Json)) :
    ((given written).map Prod.fst).Sublist (written.map Prod.fst) := by
  induction written with
  | nil => exact .slnil
  | cons m rest ih =>
    obtain ⟨name, value⟩ := m
    cases value with
    | none => exact ih.cons name
    | some j => exact ih.cons_cons name

theorem mem_given {written : List (String × Option Json)} {name : String} {j : Json} :
    (name, j) ∈ given written ↔ (name, some j) ∈ written := by
  simp only [given, List.mem_filterMap, Option.map_eq_some_iff, Prod.mk.injEq]
  constructor
  · rintro ⟨⟨_, _⟩, member, _, rfl, rfl, rfl⟩
    exact member
  · exact fun member => ⟨_, member, j, rfl, rfl, rfl⟩

theorem Members.get?_of_mem {ms : Members} (distinct : (ms.map Prod.fst).Nodup) {name : String} {j : Json}
    (member : (name, j) ∈ ms) : ms.get? name = some j := by
  induction ms with
  | nil => cases member
  | cons first rest ih =>
    obtain ⟨absent, later⟩ := List.nodup_cons.mp distinct
    rw [get?_cons]
    rcases List.mem_cons.mp member with rfl | among
    · exact if_pos rfl
    · have differs : first.1 ≠ name := fun same => absent (List.mem_map.mpr ⟨_, among, same.symm⟩)
      rw [if_neg differs, ih later among]

/-- A member is there just as it was written. -/
theorem given_get? {written : List (String × Option Json)} (distinct : (written.map Prod.fst).Nodup) {name : String}
    {value : Option Json} (member : (name, value) ∈ written) : (given written).get? name = value := by
  have apart : ((given written).map Prod.fst).Nodup := distinct.sublist (given_names written)
  cases value with
  | some j => exact Members.get?_of_mem apart (mem_given.mpr member)
  | none =>
    apply Members.get?_eq_none.mpr
    intro present
    obtain ⟨⟨_, j⟩, among, rfl⟩ := List.mem_map.mp present
    have same := List.inj_on_of_nodup_map distinct member (mem_given.mp among) rfl
    cases same

/-- What is written is told from the list of what there is to write. -/
theorem given_get?_eq {written : List (String × Option Json)} (distinct : (written.map Prod.fst).Nodup) (name : String) :
    (given written).get? name = (written.lookup name).join := by
  cases looked : written.lookup name with
  | some value =>
    obtain ⟨before, after, rfl, _⟩ := List.lookup_eq_some_iff.mp looked
    exact given_get? distinct (List.mem_append_right _ List.mem_cons_self)
  | none =>
    apply Members.get?_eq_none.mpr
    intro present
    obtain ⟨m, among, rfl⟩ := List.mem_map.mp ((given_names written).subset present)
    simpa using List.lookup_eq_none_iff.mp looked m among

theorem ofMembers_members {written : List (String × Option Json)} (distinct : (written.map Prod.fst).Nodup) :
    ((ofMembers written).members.map Prod.fst).Nodup ∧ ofMembers written = .object (ofMembers written).members :=
  ⟨distinct.sublist (given_names written), rfl⟩

end Json

namespace Decoder

@[simp] theorem int32_toInt (n : Int32) : int32 (.int n.toInt) = .ok n := by
  have fits : Int32.minValue.toInt ≤ n.toInt ∧ n.toInt ≤ Int32.maxValue.toInt :=
    ⟨Int32.minValue_le_toInt n, Int32.toInt_le n⟩
  rw [int32, if_pos fits, Int32.ofInt_toInt]

theorem int32_ok {j : Json} {n : Int32} (read : int32 j = .ok n) : j = .int n.toInt := by
  unfold int32 at read
  split at read
  next value =>
    split at read
    next fits =>
      cases read
      have low : -2 ^ 31 ≤ value := fits.1
      have high : value < 2 ^ 31 := Int.lt_add_one_of_le fits.2
      rw [Int32.toInt_ofInt_of_le low high]
    next => cases read
  next => cases read

theorem string_ok {j : Json} {s : String} (read : string j = .ok s) : j = .string s := by
  unfold string at read
  split at read
  · cases read
    rfl
  · cases read

theorem bool_ok {j : Json} {b : Bool} (read : bool j = .ok b) : j = .bool b := by
  unfold bool at read
  split at read
  · cases read
    rfl
  · cases read

theorem check_ok {decode : Decoder α} {j : Json} {value : α} (read : decode j = .ok value) :
    decode.check j = .ok () := by
  rw [check, read]
  rfl

theorem orNull_of_ne_null {decode : Decoder α} {j : Json} (some : j ≠ .null) :
    orNull decode j = (decode j).map .some := by
  cases j with
  | null => exact absurd rfl some
  | bool _ | number _ | string _ | array _ | object _ => rfl

theorem items_map {decode : Decoder α} {encode : β → Json} {f : β → α}
    (each : ∀ b, decode (encode b) = .ok (f b)) (bs : List β) :
    items decode (bs.map encode) = .ok (bs.map f) := by
  induction bs with
  | nil => rfl
  | cons b rest ih =>
    rw [List.map_cons, items, each b, ih]
    rfl

end Decoder

namespace SettingKind

theorem decode_ok {kind : SettingKind} {j value : Json} (read : kind.decode j = .ok value) :
    value = j.canonical ∧ kind.decode value = .ok value := by
  cases kind with
  | number =>
    obtain ⟨n, found, rfl⟩ := map_eq_ok.mp read
    obtain rfl := Decoder.int32_ok found
    exact ⟨rfl, read⟩
  | text =>
    obtain ⟨s, found, rfl⟩ := map_eq_ok.mp read
    obtain rfl := Decoder.string_ok found
    exact ⟨rfl, read⟩
  | flag =>
    obtain ⟨b, found, rfl⟩ := map_eq_ok.mp read
    obtain rfl := Decoder.bool_ok found
    exact ⟨rfl, read⟩
  | document =>
    cases read
    exact ⟨rfl, congrArg Except.ok j.canonical_canonical⟩

theorem orNull_ok {kind : SettingKind} {j : Json} {value : Option Json}
    (read : Decoder.orNull kind.decode j = .ok value) :
    value = Json.kept (some j) ∧ ∀ i, value = some i → kind.decode i = .ok i ∧ i ≠ .null := by
  by_cases empty : j = .null
  · subst empty
    cases read
    exact ⟨rfl, nofun⟩
  · rw [Decoder.orNull_of_ne_null empty] at read
    obtain ⟨other, decoded, rfl⟩ := map_eq_ok.mp read
    obtain ⟨rfl, fixed⟩ := decode_ok decoded
    constructor
    · cases j with
      | null => exact absurd rfl empty
      | bool _ | number _ | string _ | array _ | object _ => rfl
    · intro i same
      cases same
      exact ⟨fixed, fun null => empty (Json.canonical_eq_null.mp null)⟩

end SettingKind

namespace Record

section Visits

variable {checks : List (String × Decoder Unit)}

def knows (checks : List (String × Decoder Unit)) (name : String) : Bool := (checks.find? fun c => c.1 = name).isSome

/-- The value of a member passes the check that its name has, if any. -/
def Fits (checks : List (String × Decoder Unit)) (m : String × Json) : Prop :=
  ∀ c, checks.find? (fun c => c.1 = m.1) = some c → c.2 m.2 = .ok ()

theorem visit_cons_of_unknown {seen : List String} {m : String × Json} {rest : Json.Members}
    (unknown : checks.find? (fun c => c.1 = m.1) = none) : visit checks seen (m :: rest) = visit checks seen rest := by
  rw [visit, unknown]

theorem visit_cons_of_known {seen : List String} {m : String × Json} {rest : Json.Members} {c : String × Decoder Unit}
    (known : checks.find? (fun c => c.1 = m.1) = some c) :
    visit checks seen (m :: rest) = .ok () ↔
      m.1 ∉ seen ∧ c.2 m.2 = .ok () ∧ visit checks (m.1 :: seen) rest = .ok () := by
  rw [visit, known]
  dsimp only
  split
  next clash => simp [clash]
  next fresh => cases c.2 m.2 <;> simp [fresh, bind, Except.bind]

/-- Members are visited without a clash just if those that are known come once each, and fit. -/
theorem visit_ok {seen : List String} {ms : Json.Members} :
    visit checks seen ms = .ok () ↔
      ((ms.map Prod.fst).filter (knows checks)).Nodup ∧ (∀ m ∈ ms, knows checks m.1 = true → m.1 ∉ seen) ∧
        ∀ m ∈ ms, Fits checks m := by
  induction ms generalizing seen with
  | nil => simp [visit]
  | cons m rest ih =>
    cases found : checks.find? fun c => c.1 = m.1 with
    | none =>
      have unknown : knows checks m.1 = false := by simp [knows, found]
      have fits : Fits checks m := by simp [Fits, found]
      rw [visit_cons_of_unknown found, ih]
      simp [unknown, fits]
    | some c =>
      have known : knows checks m.1 = true := by simp [knows, found]
      have fits : Fits checks m ↔ c.2 m.2 = .ok () := by simp [Fits, found]
      rw [visit_cons_of_known found, ih, List.map_cons, List.filter_cons_of_pos known, List.nodup_cons,
        List.forall_mem_cons, List.forall_mem_cons, fits]
      constructor
      · rintro ⟨fresh, passes, distinct, apart, each⟩
        refine ⟨⟨?_, distinct⟩, ⟨fun _ => fresh, fun m member known => ?_⟩, passes, each⟩
        · intro clash
          obtain ⟨other, member, same⟩ := List.mem_map.mp (List.mem_filter.mp clash).1
          exact apart other member (same ▸ known) (same ▸ List.mem_cons_self)
        · exact fun seen => apart m member known (List.mem_cons_of_mem _ seen)
      · rintro ⟨⟨differs, distinct⟩, ⟨fresh, apart⟩, passes, each⟩
        refine ⟨fresh known, passes, distinct, ?_, each⟩
        intro other member knownToo clash
        rcases List.mem_cons.mp clash with same | seen
        · exact differs (List.mem_filter.mpr ⟨List.mem_map.mpr ⟨other, member, same⟩, known⟩)
        · exact apart other member knownToo seen

/-- Members of different names are visited without a clash when each known one fits. -/
theorem visit_of_fits {seen : List String} {ms : Json.Members} (distinct : (ms.map Prod.fst).Nodup)
    (fresh : ∀ m ∈ ms, m.1 ∉ seen) (fits : ∀ m ∈ ms, ∀ c ∈ checks, c.1 = m.1 → c.2 m.2 = .ok ()) :
    visit checks seen ms = .ok () := by
  refine visit_ok.mpr ⟨distinct.filter _, fun m member _ => fresh m member, ?_⟩
  intro m member c found
  exact fits m member c (List.mem_of_find?_eq_some found) (by simpa using List.find?_some found)

theorem ofMembers_ok {record : Record α} {ms : Json.Members} {value : α} :
    record.ofMembers ms = .ok value ↔ visit record.checks [] ms = .ok () ∧ record.build ms = .ok value := by
  rw [ofMembers, bind_eq_ok]
  constructor
  · rintro ⟨_, visited, built⟩
    exact ⟨visited, built⟩
  · rintro ⟨visited, built⟩
    exact ⟨(), visited, built⟩

theorem build_of_ofMembers {record : Record α} {ms : Json.Members} {value : α}
    (read : record.ofMembers ms = .ok value) : record.build ms = .ok value := (ofMembers_ok.mp read).2

end Visits

section Building

variable {ms : Json.Members} {items left : List Json}

theorem take_build_ok {record : Record (α → β)} {field : Field α} {value : β}
    (read : (record.take field).build ms = .ok value) :
    ∃ make part, record.build ms = .ok make ∧ field.ofMembers ms = .ok part ∧ value = make part := by
  obtain ⟨make, started, later⟩ := bind_eq_ok.mp read
  obtain ⟨part, found, same⟩ := bind_eq_ok.mp later
  cases same
  exact ⟨make, part, started, found, rfl⟩

theorem required_ofMembers_ok {name : String} {decode : Decoder α} {value : α}
    (read : (Field.required name decode).ofMembers ms = .ok value) :
    ∃ j, ms.get? name = some j ∧ decode j = .ok value := by
  simp only [Field.ofMembers, Field.required] at read
  split at read
  next j found => exact ⟨j, found, read⟩
  next => cases read

theorem take_ofItems_ok {record : Record (α → β)} {field : Field α} {value : β}
    (read : (record.take field).ofItems items = .ok (value, left)) :
    ∃ make rest part, record.ofItems items = .ok (make, rest) ∧ value = make part ∧
      (field.decode (rest.headD .null) = .ok part ∨ field.absentItem = .ok part) := by
  obtain ⟨⟨make, rest⟩, started, later⟩ := bind_eq_ok.mp read
  cases rest with
  | cons item more =>
    obtain ⟨part, decoded, same⟩ := bind_eq_ok.mp later
    cases same
    exact ⟨make, _, part, started, rfl, .inl decoded⟩
  | nil =>
    obtain ⟨part, absent, same⟩ := bind_eq_ok.mp later
    cases same
    exact ⟨make, _, part, started, rfl, .inr absent⟩

theorem map_ofItems_ok {record : Record α} {f : α → β} {value : β}
    (read : (record.map f).ofItems items = .ok (value, left)) :
    ∃ part, record.ofItems items = .ok (part, left) ∧ value = f part := by
  obtain ⟨⟨part, rest⟩, found, same⟩ := map_eq_ok.mp read
  cases same
  exact ⟨part, found, rfl⟩

end Building

section Settings

variable {fields : List SettingField} {ms : Json.Members} {settings : Settings}

/-- The settings of a table that an object has. -/
def readSettings : List SettingField → Json.Members → Except DecodeError Settings
  | [], _ => .ok []
  | f :: rest, ms => do
    let value ← (Field.optional f.name f.kind.decode).ofMembers ms
    let others ← readSettings rest ms
    return present f value ++ others

theorem readSettings_cons_ok {f : SettingField} {rest : List SettingField}
    (read : readSettings (f :: rest) ms = .ok settings) :
    ∃ value others, (Field.optional f.name f.kind.decode).ofMembers ms = .ok value ∧
      readSettings rest ms = .ok others ∧ settings = present f value ++ others := by
  obtain ⟨value, found, later⟩ := bind_eq_ok.mp read
  obtain ⟨others, more, same⟩ := bind_eq_ok.mp later
  cases same
  exact ⟨value, others, found, more, rfl⟩

theorem takeSettings_build (fields : List SettingField) (record : Record (Settings → α)) (ms : Json.Members) :
    (takeSettings fields record).build ms =
      (do let make ← record.build ms
          let settings ← readSettings fields ms
          return fun found => make (settings ++ found)) := by
  induction fields generalizing record with
  | nil =>
    rw [takeSettings]
    simp only [readSettings]
    cases record.build ms <;> rfl
  | cons f rest ih =>
    rw [takeSettings, ih]
    simp only [take, Record.map, readSettings]
    cases record.build ms with
    | error e => rfl
    | ok make =>
      simp only [bind, Except.bind, Except.map]
      cases (Field.optional f.name f.kind.decode).ofMembers ms with
      | error e => rfl
      | ok value =>
        cases readSettings rest ms with
        | error e => rfl
        | ok others => simp [pure, Except.pure]

theorem withSettings_build (fields : List SettingField) (record : Record (Settings → α)) (ms : Json.Members) :
    (withSettings fields record).build ms =
      (do let make ← record.build ms
          let settings ← readSettings fields ms
          return make settings) := by
  simp only [withSettings, Record.map, takeSettings_build]
  cases record.build ms with
  | error e => rfl
  | ok make =>
    cases readSettings fields ms with
    | error e => rfl
    | ok settings => simp [bind, Except.bind, pure, Except.pure, Except.map]

theorem withSettings_build_ok {record : Record (Settings → α)} {value : α}
    (read : (withSettings fields record).build ms = .ok value) :
    ∃ make settings, record.build ms = .ok make ∧ readSettings fields ms = .ok settings ∧ value = make settings := by
  rw [withSettings_build] at read
  obtain ⟨make, started, later⟩ := bind_eq_ok.mp read
  obtain ⟨settings, found, same⟩ := bind_eq_ok.mp later
  cases same
  exact ⟨make, settings, started, found, rfl⟩

theorem takeSettings_checks (fields : List SettingField) (record : Record (Settings → α)) :
    (takeSettings fields record).checks =
      record.checks ++ fields.map fun f => (f.name, (Decoder.orNull f.kind.decode).check) := by
  induction fields generalizing record with
  | nil => simp [takeSettings]
  | cons f rest ih =>
    rw [takeSettings, ih]
    simp [take, Record.map, Field.check, Field.optional, Field.withDefault]

theorem withSettings_checks (fields : List SettingField) (record : Record (Settings → α)) :
    (withSettings fields record).checks =
      record.checks ++ fields.map fun f => (f.name, (Decoder.orNull f.kind.decode).check) :=
  takeSettings_checks fields record

/-- Settings as reading leaves them: in the order of the table, each at most once, and with a value
that reading does not change any more. -/
inductive Settled : List SettingField → Settings → Prop
  | nil : Settled [] []
  | absent {f : SettingField} {rest : List SettingField} {settings : Settings}
      (others : Settled rest settings) : Settled (f :: rest) settings
  | present {f : SettingField} {rest : List SettingField} {settings : Settings} {value : Json}
      (fixed : f.kind.decode value = .ok value) (some : value ≠ .null) (others : Settled rest settings) :
      Settled (f :: rest) ((f.name, value) :: settings)

theorem optional_ofMembers_ok {f : SettingField} {value : Option Json}
    (read : (Field.optional f.name f.kind.decode).ofMembers ms = .ok value) :
    value = Json.kept (ms.get? f.name) ∧ ∀ j, value = some j → f.kind.decode j = .ok j ∧ j ≠ .null := by
  simp only [Field.ofMembers, Field.optional, Field.withDefault] at read
  cases found : ms.get? f.name with
  | none =>
    simp only [found] at read
    cases read
    exact ⟨rfl, nofun⟩
  | some j =>
    simp only [found] at read
    exact SettingKind.orNull_ok read

theorem readSettings_settled (read : readSettings fields ms = .ok settings) : Settled fields settings := by
  induction fields generalizing settings with
  | nil =>
    cases read
    exact .nil
  | cons f rest ih =>
    obtain ⟨value, others, found, later, rfl⟩ := readSettings_cons_ok read
    have settled := (optional_ofMembers_ok found).2
    cases value with
    | none => exact .absent (ih later)
    | some j => exact .present (settled j rfl).1 (settled j rfl).2 (ih later)

theorem takeSettings_ofItems {record : Record (Settings → α)} {items left : List Json} {g : Settings → α}
    (read : (takeSettings fields record).ofItems items = .ok (g, left)) :
    ∃ make others settings, record.ofItems items = .ok (make, others) ∧ Settled fields settings ∧
      ∀ found, g found = make (settings ++ found) := by
  induction fields generalizing record with
  | nil => exact ⟨g, left, [], read, .nil, fun found => rfl⟩
  | cons f rest ih =>
    obtain ⟨make, others, settings, taken, settled, builds⟩ := ih read
    obtain ⟨whole, more, value, mapped, rfl, decoded⟩ := take_ofItems_ok taken
    obtain ⟨before, started, rfl⟩ := map_ofItems_ok mapped
    have fixed : ∀ j, value = some j → f.kind.decode j = .ok j ∧ j ≠ .null := by
      rcases decoded with decoded | absent
      · exact (SettingKind.orNull_ok decoded).2
      · cases absent
        exact nofun
    refine ⟨before, more, present f value ++ settings, started, ?_, fun found => by simp [builds]⟩
    cases value with
    | none => exact .absent settled
    | some j => exact .present (fixed j rfl).1 (fixed j rfl).2 settled

/-- Settings are settled, too, that were read from the items of an array. -/
theorem withSettings_ofItems {record : Record (Settings → α)} {items left : List Json} {value : α}
    (read : (withSettings fields record).ofItems items = .ok (value, left)) :
    ∃ make others settings, record.ofItems items = .ok (make, others) ∧ Settled fields settings ∧
      value = make settings := by
  obtain ⟨g, taken, rfl⟩ := map_ofItems_ok read
  obtain ⟨make, others, settings, started, settled, builds⟩ := takeSettings_ofItems taken
  exact ⟨make, others, settings, started, settled, by simp [builds]⟩

theorem Settled.names (settled : Settled fields settings) : ∀ m ∈ settings, m.1 ∈ fields.map SettingField.name := by
  induction settled with
  | nil => nofun
  | absent _ ih => exact fun m member => List.mem_cons_of_mem _ (ih m member)
  | present _ _ _ ih =>
    intro m member
    rcases List.mem_cons.mp member with rfl | later
    · exact List.mem_cons_self
    · exact List.mem_cons_of_mem _ (ih m later)

theorem Settled.get?_eq_none {name : String} (settled : Settled fields settings)
    (other : name ∉ fields.map SettingField.name) : Json.Members.get? settings name = none := by
  apply Json.Members.get?_eq_none.mpr
  intro present
  obtain ⟨m, member, rfl⟩ := List.mem_map.mp present
  exact other (settled.names m member)

theorem Settled.distinct (settled : Settled fields settings) (table : (fields.map SettingField.name).Nodup) :
    (settings.map Prod.fst).Nodup := by
  induction settled with
  | nil => exact .nil
  | absent _ ih => exact ih (List.nodup_cons.mp table).2
  | present _ _ others ih =>
    obtain ⟨different, later⟩ := List.nodup_cons.mp table
    apply List.nodup_cons.mpr
    refine ⟨?_, ih later⟩
    exact Json.Members.get?_eq_none.mp (others.get?_eq_none different)

/-- Each setting fits the check that its field makes. -/
theorem Settled.fits (settled : Settled fields settings) (table : (fields.map SettingField.name).Nodup) :
    ∀ m ∈ settings, ∀ f ∈ fields, f.name = m.1 → (Decoder.orNull f.kind.decode).check m.2 = .ok () := by
  induction settled with
  | nil => nofun
  | absent others ih =>
    obtain ⟨different, later⟩ := List.nodup_cons.mp table
    intro m member f among same
    rcases List.mem_cons.mp among with rfl | among
    · exact absurd (same ▸ others.names m member) different
    · exact ih later m member f among same
  | @present first rest settings value fixed some others ih =>
    obtain ⟨different, later⟩ := List.nodup_cons.mp table
    intro m member f among same
    rcases List.mem_cons.mp member with rfl | inside
    · rcases List.mem_cons.mp among with rfl | among
      · have read : Decoder.orNull f.kind.decode value = .ok (.some value) := by
          rw [Decoder.orNull_of_ne_null some, fixed]
          rfl
        exact Decoder.check_ok read
      · exact absurd (List.mem_map.mpr ⟨f, among, same⟩) different
    · rcases List.mem_cons.mp among with rfl | among
      · exact absurd (same ▸ others.names m inside) different
      · exact ih later m inside f among same

/-- Settled settings are read again as they are, after members of other names. -/
theorem readSettings_again (settled : Settled fields settings) (table : (fields.map SettingField.name).Nodup)
    {before : Json.Members} (fresh : ∀ f ∈ fields, before.get? f.name = none) :
    readSettings fields (before ++ settings) = .ok settings := by
  induction settled generalizing before with
  | nil => rfl
  | @absent f rest settings others ih =>
    obtain ⟨different, later⟩ := List.nodup_cons.mp table
    have missing : Json.Members.get? (before ++ settings) f.name = none := by
      rw [Json.Members.get?_append, fresh f List.mem_cons_self, others.get?_eq_none different]
      rfl
    have reread := ih later fun g member => fresh g (List.mem_cons_of_mem _ member)
    simp only [readSettings, Field.ofMembers, Field.optional, Field.withDefault, missing, reread]
    rfl
  | @present f rest settings value fixed some others ih =>
    obtain ⟨different, later⟩ := List.nodup_cons.mp table
    have found : Json.Members.get? (before ++ (f.name, value) :: settings) f.name = .some value := by
      rw [Json.Members.get?_append, fresh f List.mem_cons_self, Json.Members.get?_cons, if_pos rfl]
      rfl
    have reread : readSettings rest (before ++ (f.name, value) :: settings) = .ok settings := by
      have moved : before ++ (f.name, value) :: settings = (before ++ [(f.name, value)]) ++ settings := by simp
      rw [moved]
      apply ih later
      intro g member
      have differs : f.name ≠ g.name := fun same => different (same ▸ List.mem_map_of_mem member)
      rw [Json.Members.get?_append, fresh g (List.mem_cons_of_mem _ member), Json.Members.get?_cons, if_neg differs]
      rfl
    simp only [readSettings, Field.ofMembers, Field.optional, Field.withDefault, found, reread,
      Decoder.orNull_of_ne_null some, fixed]
    rfl

theorem readSettings_get? (read : readSettings fields ms = .ok settings)
    (table : (fields.map SettingField.name).Nodup) :
    ∀ f ∈ fields, settings.get? f.name = Json.kept (ms.get? f.name) := by
  induction fields generalizing settings with
  | nil => nofun
  | cons first rest ih =>
    obtain ⟨different, later⟩ := List.nodup_cons.mp table
    obtain ⟨value, others, found, readOthers, rfl⟩ := readSettings_cons_ok read
    intro f member
    have kept := (optional_ofMembers_ok found).1
    rcases List.mem_cons.mp member with rfl | member
    · rw [← kept, Json.Members.get?_append, (readSettings_settled readOthers).get?_eq_none different]
      cases value <;> simp [present, Json.Members.get?_cons]
    · have differs : first.name ≠ f.name := fun same => different (same ▸ List.mem_map_of_mem member)
      rw [← ih readOthers later f member, Json.Members.get?_append]
      cases value <;> simp [present, Json.Members.get?_cons, differs]

end Settings

end Record

end BackendRegistrar
