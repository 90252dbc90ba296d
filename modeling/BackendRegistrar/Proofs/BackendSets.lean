import BackendRegistrar.Cloud.BackendSet
import BackendRegistrar.Proofs.Records

/-! What an update says is what is read from it: the policy, the health checker and the options that
were read of a backend set, and the backends that were put into it. -/

namespace BackendRegistrar.Cloud
open Record

variable {kind : Kind}

namespace Kind

theorem healthFields_distinct (kind : Kind) : ("protocol" :: kind.healthFields.map SettingField.name).Nodup := by
  cases kind <;> decide

/-- The members of a set that are no options. -/
def ownNames : List String := ["name", "policy", "backends", "healthChecker"]

theorem optionFields_distinct (kind : Kind) : (ownNames ++ kind.optionFields.map SettingField.name).Nodup := by
  cases kind <;> decide

end Kind

namespace HealthChecker

theorem record_checks (kind : Kind) :
    (record kind).checks = ("protocol", Decoder.string.check) ::
      kind.healthFields.map fun f => (f.name, (Decoder.orNull f.kind.decode).check) :=
  withSettings_checks _ _

theorem record_build (kind : Kind) (ms : Json.Members) :
    (record kind).build ms =
      (do let protocol ← (Field.required "protocol" Decoder.string).ofMembers ms
          let settings ← readSettings kind.healthFields ms
          return ⟨protocol, settings⟩) := by
  rw [record, withSettings_build]
  simp only [take, start]
  cases (Field.required "protocol" Decoder.string).ofMembers ms <;> rfl

theorem record_build_ok {ms : Json.Members} {h : HealthChecker} (built : (record kind).build ms = .ok h) :
    ms.get? "protocol" = some (.string h.protocol) ∧ readSettings kind.healthFields ms = .ok h.settings := by
  obtain ⟨make, settings, started, found, rfl⟩ := withSettings_build_ok built
  obtain ⟨start, protocol, begun, named, rfl⟩ := take_build_ok started
  cases begun
  obtain ⟨j, member, text⟩ := required_ofMembers_ok named
  obtain rfl := Decoder.string_ok text
  exact ⟨member, found⟩

theorem settled_of_decode {j : Json} {h : HealthChecker} (read : (record kind).decode j = .ok h) :
    Settled kind.healthFields h.settings := by
  unfold Record.decode at read
  split at read
  next ms => exact readSettings_settled (record_build_ok (build_of_ofMembers read)).2
  next items =>
    obtain ⟨⟨read, left⟩, taken, later⟩ := bind_eq_ok.mp read
    obtain ⟨make, others, settings, started, settled, rfl⟩ := withSettings_ofItems taken
    obtain ⟨start, _, protocol, begun, rfl, _⟩ := take_ofItems_ok started
    cases begun
    cases left with
    | nil =>
      cases later
      exact settled
    | cons item more => cases later
  next => cases read

theorem decode_encode {h : HealthChecker} (settled : Settled kind.healthFields h.settings) :
    (record kind).decode h.encode = .ok h := by
  obtain ⟨different, table⟩ := List.nodup_cons.mp kind.healthFields_distinct
  have visited : visit (record kind).checks [] (("protocol", .string h.protocol) :: h.settings) = .ok () := by
    apply visit_of_fits
    · rw [List.map_cons]
      exact List.nodup_cons.mpr ⟨Json.Members.get?_eq_none.mp (settled.get?_eq_none different), settled.distinct table⟩
    · exact fun _ _ => List.not_mem_nil
    · rw [record_checks]
      intro m member c among same
      rcases List.mem_cons.mp member with rfl | inside
      · rcases List.mem_cons.mp among with rfl | among
        · rfl
        · obtain ⟨f, field, rfl⟩ := List.mem_map.mp among
          exact absurd (List.mem_map.mpr ⟨f, field, same⟩) different
      · rcases List.mem_cons.mp among with rfl | among
        · have named : m.1 = "protocol" := same.symm
          exact absurd (named ▸ settled.names m inside) different
        · obtain ⟨f, field, rfl⟩ := List.mem_map.mp among
          exact settled.fits table m inside f field same
  have reread : readSettings kind.healthFields (("protocol", .string h.protocol) :: h.settings) = .ok h.settings := by
    have fresh : ∀ f ∈ kind.healthFields, Json.Members.get? [("protocol", .string h.protocol)] f.name = none := by
      intro f field
      have differs : "protocol" ≠ f.name := fun same => different (same ▸ List.mem_map_of_mem field)
      simp [Json.Members.get?_cons, differs]
    exact readSettings_again settled table fresh
  simp only [encode, Record.decode, Record.ofMembers, visited, record_build, reread, Field.ofMembers, Field.required,
    Json.Members.get?_cons]
  rfl

end HealthChecker

namespace Backend

theorem decode_encodeBackend (kind : Kind) (t : Target) :
    (record kind).decode (BackendSetUpdate.encodeBackend t) = .ok ⟨"", t.address, t.port, t.weight⟩ := by
  cases kind <;>
    simp [record, Kind.addressField, BackendSetUpdate.encodeBackend, Json.ofMembers, Json.Members.get?_cons,
      Record.decode, Record.ofMembers, visit, take, start, Field.check, Field.ofMembers, Field.required,
      Field.withDefault, Decoder.check, Decoder.string, bind, Except.bind, Except.map, pure, Except.pure]

end Backend

namespace BackendSetUpdate

/-- The update has settings that reading does not change. -/
structure Settled (kind : Kind) (u : BackendSetUpdate) : Prop where
  health : Record.Settled kind.healthFields u.healthChecker.settings
  options : Record.Settled kind.optionFields u.options

/-- The set that an update describes. -/
def described (u : BackendSetUpdate) : BackendSet :=
  ⟨"", u.policy, u.backends.map fun t => ⟨"", t.address, t.port, t.weight⟩, u.healthChecker, u.options⟩

@[simp] theorem described_targets (u : BackendSetUpdate) : u.described.targets = u.backends := by
  simp [described, BackendSet.targets, Backend.target, Function.comp_def]

def ownMembers (u : BackendSetUpdate) : Json.Members :=
  [("policy", .string u.policy), ("backends", u.encodeBackends), ("healthChecker", u.healthChecker.encode)]

theorem encode_eq (u : BackendSetUpdate) : u.encode = .object (u.ownMembers ++ u.options) := rfl

theorem ownMembers_names (u : BackendSetUpdate) : ∀ m ∈ u.ownMembers, m.1 ∈ Kind.ownNames := by
  simp [ownMembers, Kind.ownNames]

theorem decode_encodeBackends (kind : Kind) (u : BackendSetUpdate) :
    Decoder.list (Backend.record kind).decode u.encodeBackends = .ok u.described.backends :=
  Decoder.items_map (Backend.decode_encodeBackend kind) u.backends

variable {u : BackendSetUpdate}

theorem Settled.distinct (settled : u.Settled kind) : ((u.ownMembers ++ u.options).map Prod.fst).Nodup := by
  obtain ⟨own, table, apart⟩ := List.nodup_append.mp kind.optionFields_distinct
  rw [List.map_append]
  apply List.nodup_append.mpr
  have different : (u.ownMembers.map Prod.fst).Nodup := by
    rw [show u.ownMembers.map Prod.fst = ["policy", "backends", "healthChecker"] from rfl]
    decide
  refine ⟨different, settled.options.distinct table, ?_⟩
  intro name first other second same
  obtain ⟨m, member, rfl⟩ := List.mem_map.mp first
  obtain ⟨n, present, rfl⟩ := List.mem_map.mp second
  exact apart _ (u.ownMembers_names m member) _ (settled.options.names n present) same

theorem Settled.own_get? (settled : u.Settled kind) {name : String} (own : name ∈ Kind.ownNames) :
    Json.Members.get? (u.ownMembers ++ u.options) name = u.ownMembers.get? name := by
  obtain ⟨_, _, apart⟩ := List.nodup_append.mp kind.optionFields_distinct
  have missing := settled.options.get?_eq_none fun present => apart _ own _ present rfl
  rw [Json.Members.get?_append, missing, Option.or_none]

theorem ownMembers_get?_option {f : SettingField} (field : f ∈ kind.optionFields) :
    u.ownMembers.get? f.name = none := by
  obtain ⟨_, _, apart⟩ := List.nodup_append.mp kind.optionFields_distinct
  apply Json.Members.get?_eq_none.mpr
  intro present
  obtain ⟨m, member, same⟩ := List.mem_map.mp present
  exact apart _ (u.ownMembers_names m member) _ (List.mem_map_of_mem field) same

theorem option_get? {f : SettingField} (field : f ∈ kind.optionFields) :
    Json.Members.get? (u.ownMembers ++ u.options) f.name = u.options.get? f.name := by
  rw [Json.Members.get?_append, ownMembers_get?_option field, Option.none_or]

theorem Settled.visit_own (settled : u.Settled kind) :
    visit (BackendSet.record kind).checks [] (u.ownMembers ++ u.options) = .ok () := by
  obtain ⟨_, _, apart⟩ := List.nodup_append.mp kind.optionFields_distinct
  apply visit_of_fits settled.distinct
  · exact fun _ _ => List.not_mem_nil
  · intro m member c among same
    have known : c.1 ∈ Kind.ownNames := by
      have names : (BackendSet.record kind).checks.map Prod.fst = Kind.ownNames := rfl
      exact names ▸ List.mem_map_of_mem among
    rcases List.mem_append.mp member with own | option
    · simp only [ownMembers, List.mem_cons, List.not_mem_nil, or_false] at own
      have policy : Decoder.string.check (.string u.policy) = .ok () := rfl
      have backends := Decoder.check_ok (decode_encodeBackends kind u)
      have health := Decoder.check_ok (HealthChecker.decode_encode settled.health)
      simp only [BackendSet.record, take, start, Field.check, Field.withDefault, Field.required, List.nil_append,
        List.cons_append, List.mem_cons, List.not_mem_nil, or_false] at among
      rcases own with rfl | rfl | rfl <;> rcases among with rfl | rfl | rfl | rfl <;>
        first
          | exact policy
          | exact backends
          | exact health
          | simp at same
    · exact absurd same (apart _ known _ (settled.options.names m option))

theorem Settled.visit_options (settled : u.Settled kind) :
    visit (BackendSet.optionRecord kind).checks [] (u.ownMembers ++ u.options) = .ok () := by
  obtain ⟨_, table, apart⟩ := List.nodup_append.mp kind.optionFields_distinct
  apply visit_of_fits settled.distinct
  · exact fun _ _ => List.not_mem_nil
  · intro m member c among same
    rw [BackendSet.optionRecord, withSettings_checks] at among
    obtain ⟨f, field, rfl⟩ := List.mem_map.mp (by simpa [start] using among)
    rcases List.mem_append.mp member with own | option
    · exact absurd same.symm (apart _ (u.ownMembers_names m own) _ (List.mem_map_of_mem field))
    · exact settled.options.fits table m option f field same

theorem Settled.read_own (settled : u.Settled kind) :
    (BackendSet.record kind).ofMembers (u.ownMembers ++ u.options) =
      .ok fun options => { u.described with options } := by
  have backends := decode_encodeBackends kind u
  have health := HealthChecker.decode_encode settled.health
  rw [Record.ofMembers, settled.visit_own]
  simp only [BackendSet.record, take, start, Field.ofMembers, Field.withDefault, Field.required]
  rw [settled.own_get? (by decide), settled.own_get? (by decide), settled.own_get? (by decide),
    settled.own_get? (by decide)]
  simp [ownMembers, Json.Members.get?_cons, Decoder.string, backends, health, bind, Except.bind, pure, Except.pure,
    described]

theorem Settled.read_options (settled : u.Settled kind) :
    (BackendSet.optionRecord kind).ofMembers (u.ownMembers ++ u.options) = .ok u.options := by
  obtain ⟨_, table, _⟩ := List.nodup_append.mp kind.optionFields_distinct
  have options : readSettings kind.optionFields (u.ownMembers ++ u.options) = .ok u.options :=
    readSettings_again settled.options table fun _ field => ownMembers_get?_option field
  rw [Record.ofMembers, settled.visit_options, BackendSet.optionRecord]
  simp only [bind, Except.bind, withSettings_build, start, options]
  rfl

/-- What is read of an update's document is the set that the update describes. -/
theorem decode_encode (settled : u.Settled kind) : BackendSet.decode kind u.encode = .ok u.described := by
  rw [encode_eq, BackendSet.decode, settled.read_own, settled.read_options]
  rfl

end BackendSetUpdate

namespace BackendSet

variable {j : Json} {s : BackendSet}

/-- A set that was read comes from the members of an object. -/
structure ReadFrom (kind : Kind) (ms : Json.Members) (s : BackendSet) : Prop where
  policy : ms.get? "policy" = some (.string s.policy)
  health : ∃ j, ms.get? "healthChecker" = some j ∧ (HealthChecker.record kind).decode j = .ok s.healthChecker
  options : readSettings kind.optionFields ms = .ok s.options

theorem decode_ok (read : decode kind j = .ok s) : ∃ ms, j = .object ms ∧ ReadFrom kind ms s := by
  unfold decode at read
  split at read
  next ms =>
    refine ⟨ms, rfl, ?_⟩
    obtain ⟨make, own, later⟩ := bind_eq_ok.mp read
    obtain ⟨options, optional, same⟩ := bind_eq_ok.mp later
    cases same
    obtain ⟨start, settings, begun, found, rfl⟩ := withSettings_build_ok (build_of_ofMembers optional)
    cases begun
    obtain ⟨_, checker, three, checked, rfl⟩ := take_build_ok (build_of_ofMembers own)
    obtain ⟨_, backends, two, _, rfl⟩ := take_build_ok three
    obtain ⟨_, policy, one, named, rfl⟩ := take_build_ok two
    obtain ⟨_, name, none, _, rfl⟩ := take_build_ok one
    cases none
    obtain ⟨text, member, isText⟩ := required_ofMembers_ok named
    obtain rfl := Decoder.string_ok isText
    exact ⟨member, required_ofMembers_ok checked, found⟩
  next => cases read

/-- The update that gives a set other backends does not change what was read of the set. -/
theorem replacing_settled (read : decode kind j = .ok s) (targets : List Target) :
    (s.replacing targets).Settled kind := by
  obtain ⟨ms, _, from_⟩ := decode_ok read
  obtain ⟨_, _, health⟩ := from_.health
  exact ⟨HealthChecker.settled_of_decode health, readSettings_settled from_.options⟩

theorem decode_replacing (read : decode kind j = .ok s) (targets : List Target) :
    decode kind (s.replacing targets).encode = .ok (s.replacing targets).described :=
  BackendSetUpdate.decode_encode (replacing_settled read targets)

end BackendSet

end BackendRegistrar.Cloud
