import BackendRegistrar.Json.Basic
import BackendRegistrar.PhaseUpdate
import BackendRegistrar.Proofs.Records

/-! Updates of stored documents. A merge patch puts members in the place of others of the same name, so
what is decoded afterwards is what was decoded before but for the members that the patch names. An update
of a phase leaves a document that is decoded to the registrar with its status updated. -/

namespace BackendRegistrar

namespace Json

namespace Members

/-- Puts a member in the place of all of the same name. -/
def put (name : String) (value : Json) (ms : Members) : Members := (ms.erase name).insert name value

@[simp] theorem get?_put (ms : Members) (name other : String) (value : Json) :
    get? (put name value ms) other = if name = other then some value else get? ms other := by
  rw [put, get?_insert, get?_erase]
  by_cases same : name = other
  · simp [same]
  · simp [same, Ne.symm same]

theorem erase_eq_filter (name : String) (ms : Members) : ms.erase name = ms.filter fun m => m.1 ≠ name := by
  induction ms with
  | nil => rfl
  | cons m rest ih => by_cases same : m.1 = name <;> simp [erase, same, ih]

theorem insert_perm {ms : Members} {name : String} (value : Json) (absent : ∀ m ∈ ms, m.1 ≠ name) :
    (ms.insert name value).Perm ((name, value) :: ms) := by
  induction ms with
  | nil => exact .refl _
  | cons m rest ih =>
    have later := ih fun m member => absent m (List.mem_cons_of_mem _ member)
    rw [insert, if_neg (absent m List.mem_cons_self).symm]
    split
    · exact .refl _
    · exact (later.cons m).trans (.swap _ _ _)

theorem put_perm (ms : Members) (name : String) (value : Json) :
    (put name value ms).Perm ((name, value) :: ms.filter fun m => m.1 ≠ name) := by
  rw [put, erase_eq_filter]
  apply insert_perm
  intro m member
  simpa using (List.mem_filter.mp member).2

end Members

theorem mergePatch_object (j : Json) (patch : Members) :
    j.mergePatch (.object patch) = .object (mergeMembers j.members patch) := by
  rw [mergePatch]

theorem mergePatch_string (j : Json) (s : String) : j.mergePatch (.string s) = .string s := by
  simp [mergePatch]

theorem mergePatch_int (j : Json) (n : Int) : j.mergePatch (.int n) = .int n := by
  simp [mergePatch]

theorem mergeMembers_cons {target rest : Members} {name : String} {value : Json} (given : value ≠ .null) :
    mergeMembers target ((name, value) :: rest) =
      mergeMembers (target.put name (((target.get? name).getD .null).mergePatch value)) rest := by
  cases value with
  | null => exact absurd rfl given
  | bool _ | number _ | string _ | array _ | object _ => simp [mergeMembers, Members.put]

theorem mergeMembers_append (target first second : Members) :
    mergeMembers target (first ++ second) = mergeMembers (mergeMembers target first) second := by
  induction first generalizing target with
  | nil => simp [mergeMembers]
  | cons m rest ih =>
    obtain ⟨name, value⟩ := m
    by_cases empty : value = .null
    · subst empty
      simp [mergeMembers, ih]
    · rw [List.cons_append, mergeMembers_cons empty, mergeMembers_cons empty, ih]

end Json

theorem Field.ofMembers_of_get? {field : Field α} {ms : Json.Members} {value : Json} {part : α}
    (found : ms.get? field.name = some value) (decoded : field.decode value = .ok part) :
    field.ofMembers ms = .ok part := by
  rw [Field.ofMembers, found]
  exact decoded

theorem Field.ofMembers_congr {field : Field α} {ms changed : Json.Members}
    (same : changed.get? field.name = ms.get? field.name) : field.ofMembers changed = field.ofMembers ms := by
  rw [Field.ofMembers, Field.ofMembers, same]

namespace Record

theorem visit_put {checks : List (String × Decoder Unit)} {ms : Json.Members} {name : String} {value : Json}
    (visited : visit checks [] ms = .ok ()) (fits : Fits checks (name, value)) :
    visit checks [] (ms.put name value) = .ok () := by
  obtain ⟨distinct, _, each⟩ := visit_ok.mp visited
  have permuted := ms.put_perm name value
  refine visit_ok.mpr ⟨?_, fun _ _ _ => List.not_mem_nil, ?_⟩
  · rw [((permuted.map Prod.fst).filter _).nodup_iff, List.map_cons]
    have rest : (((ms.filter fun m => m.1 ≠ name).map Prod.fst).filter (knows checks)).Nodup :=
      distinct.sublist ((List.filter_sublist.map _).filter _)
    by_cases known : knows checks name = true
    · rw [List.filter_cons_of_pos known]
      refine List.nodup_cons.mpr ⟨?_, rest⟩
      intro clash
      obtain ⟨m, member, same⟩ := List.mem_map.mp (List.mem_filter.mp clash).1
      simp [same] at member
    · rw [List.filter_cons_of_neg known]
      exact rest
  · intro m member
    rcases List.mem_cons.mp (permuted.mem_iff.mp member) with rfl | among
    · exact fits
    · exact each m (List.mem_filter.mp among).1

theorem take_build {record : Record (α → β)} {field : Field α} {ms : Json.Members} {make : α → β} {part : α}
    (started : record.build ms = .ok make) (found : field.ofMembers ms = .ok part) :
    (record.take field).build ms = .ok (make part) := by
  change (record.build ms >>= fun f => field.ofMembers ms >>= fun value => .ok (f value)) = _
  rw [started, found]
  rfl

section Changes

variable {ms changed : Json.Members} {R : β → β → Prop}

/-- What is built of changed members is as it should be beside what was built of the members before. -/
def Changes (ms changed : Json.Members) (R : α → α → Prop) (record : Record α) : Prop :=
  ∀ value, record.build ms = .ok value → ∃ other, record.build changed = .ok other ∧ R value other

theorem changes_start {value : β} (same : R value value) : Changes ms changed R (start value) := by
  intro other built
  cases built
  exact ⟨value, rfl, same⟩

theorem Changes.take {record : Record (α → β)} {field : Field α} {Q : α → α → Prop}
    (read : ∀ part, field.ofMembers ms = .ok part → ∃ other, field.ofMembers changed = .ok other ∧ Q part other)
    (before : Changes ms changed (fun f g => ∀ part other, Q part other → R (f part) (g other)) record) :
    Changes ms changed R (record.take field) := by
  intro value built
  obtain ⟨make, part, started, found, rfl⟩ := take_build_ok built
  obtain ⟨make', started', alike⟩ := before make started
  obtain ⟨part', found', related⟩ := read part found
  exact ⟨make' part', take_build started' found', alike _ _ related⟩

/-- A field whose member has not changed. -/
theorem Changes.kept {record : Record (α → β)} {field : Field α} (same : changed.get? field.name = ms.get? field.name)
    (before : Changes ms changed (fun f g => ∀ part, R (f part) (g part)) record) :
    Changes ms changed R (record.take field) := by
  refine Changes.take (Q := Eq) ?_ ?_
  · intro part found
    refine ⟨part, ?_, rfl⟩
    rw [Field.ofMembers, same]
    exact found
  · intro value built
    obtain ⟨other, rebuilt, related⟩ := before value built
    refine ⟨other, rebuilt, ?_⟩
    rintro part _ rfl
    exact related part

end Changes

end Record

namespace Decoder

@[simp] theorem int64_toInt (n : Int64) : int64 (.int n.toInt) = .ok n := by
  have fits : Int64.minValue.toInt ≤ n.toInt ∧ n.toInt ≤ Int64.maxValue.toInt :=
    ⟨Int64.minValue_le_toInt n, Int64.toInt_le n⟩
  rw [int64, if_pos fits, Int64.ofInt_toInt]

end Decoder

namespace Cluster.Metadata

variable {ms : Json.Members} {m : Metadata}

/-- A document that gives this version of itself is decoded as before otherwise. -/
theorem decode_put_version (decoded : decode (.object ms) = .ok m) (version : String) :
    decode (.object (ms.put "resourceVersion" (.string version))) = .ok { m with resourceVersion := some version } := by
  obtain ⟨visited, built⟩ := Record.ofMembers_ok.mp decoded
  have fits : Record.Fits record.checks ("resourceVersion", .string version) := by
    rintro c ⟨⟩
    rfl
  have changes : Record.Changes ms (ms.put "resourceVersion" (.string version))
      (fun m other => other = { m with resourceVersion := some version }) record := by
    unfold record
    iterate 11 refine Record.Changes.kept (Json.Members.get?_put _ _ _ _) ?_
    refine Record.Changes.take (Q := fun _ given => given = some version) ?_ ?_
    · exact fun _ _ => ⟨some version, Field.ofMembers_of_get? (Json.Members.get?_put _ _ _ _) rfl, rfl⟩
    iterate 3 refine Record.Changes.kept (Json.Members.get?_put _ _ _ _) ?_
    apply Record.changes_start
    rintro _ _ _ _ _ rfl _ _ _ _ _ _ _ _ _ _ _
    rfl
  obtain ⟨other, rebuilt, rfl⟩ := changes m built
  exact Record.ofMembers_ok.mpr ⟨Record.visit_put visited fits, rebuilt⟩

/-- The version that was decoded is the one that the document names. -/
theorem get?_version_of_decode (decoded : decode (.object ms) = .ok m) {version : String}
    (found : m.resourceVersion = some version) : ms.get? "resourceVersion" = some (.string version) := by
  obtain ⟨_, built⟩ := Record.ofMembers_ok.mp decoded
  have reads : Record.Changes ms ms
      (fun m _ => ∀ version, m.resourceVersion = some version → ms.get? "resourceVersion" = some (.string version))
      record := by
    unfold record
    iterate 11 refine Record.Changes.kept rfl ?_
    refine Record.Changes.take
      (Q := fun part _ => ∀ version, part = some version → ms.get? "resourceVersion" = some (.string version)) ?_ ?_
    · intro part read
      refine ⟨part, read, ?_⟩
      rintro version rfl
      simp only [Field.ofMembers, Field.optional, Field.withDefault] at read
      cases named : ms.get? "resourceVersion" with
      | none => simp [named] at read
      | some j =>
        simp only [named] at read
        cases j with
        | null => cases read
        | string text =>
          cases read
          rfl
        | bool _ | number _ | array _ | object _ => cases read
    iterate 3 refine Record.Changes.kept rfl ?_
    apply Record.changes_start
    exact fun _ _ _ _ _ names _ _ _ _ _ _ _ _ _ _ _ => names
  obtain ⟨_, _, names⟩ := reads m built
  exact names version found

end Cluster.Metadata

namespace Status

/-- A status as a change of it starts from. There is nothing to keep of a status that was written as a list. -/
def kept (document : Option Json) (status : Option Status) : Option Status :=
  match document with
  | some (.array _) => none
  | _ => status

/-- The members that a change of a status starts from. -/
def base (document : Option Json) : Json.Members := (document.getD .null).members

variable {document : Option Json} {status : Option Status}

/-- How the status of a registrar is read from its member, if it has one. -/
def Read (document : Option Json) (status : Option Status) : Prop :=
  match document with
  | some j => Decoder.orNull decode j = .ok status
  | none => status = none

theorem Read.base (read : Read document status) :
    Record.visit record.checks [] (base document) = .ok () ∧
      (Field.optional "observedGeneration" Decoder.int64).ofMembers (Status.base document) =
        .ok ((kept document status).bind Status.observedGeneration) := by
  cases document with
  | none =>
    cases read
    exact ⟨rfl, rfl⟩
  | some j =>
    cases j with
    | null =>
      cases read
      exact ⟨rfl, rfl⟩
    | object ms =>
      obtain ⟨found, decoded, rfl⟩ := map_eq_ok.mp read
      obtain ⟨visited, built⟩ := Record.ofMembers_ok.mp decoded
      obtain ⟨make, generation, started, given, rfl⟩ := Record.take_build_ok built
      obtain ⟨_, _, begun, _, rfl⟩ := Record.take_build_ok started
      cases begun
      exact ⟨visited, given⟩
    | array items => exact ⟨rfl, rfl⟩
    | bool _ | number _ | string _ => cases read

theorem decode_of_members {ms : Json.Members} {phase : Phase} {generation : Option Int64}
    (visited : Record.visit record.checks [] ms = .ok ()) (named : ms.get? "phase" = some phase.encode)
    (generated : (Field.optional "observedGeneration" Decoder.int64).ofMembers ms = .ok generation) :
    decode (.object ms) = .ok ⟨phase, generation⟩ := by
  refine Record.ofMembers_ok.mpr ⟨visited, ?_⟩
  have started : (Record.start Status.mk).build ms = .ok Status.mk := rfl
  exact Record.take_build
    (Record.take_build started (Field.ofMembers_of_get? named (Phase.decode_encode phase))) generated

end Status

namespace PhaseUpdate

variable {document : Option Json} {status : Option Status}

/-- The status that an update leaves is decoded to the update of the status that was decoded before. -/
theorem decode_statusPatch (u : PhaseUpdate) (read : Status.Read document status) :
    ∃ ms, (document.getD .null).mergePatch u.statusPatch = .object ms ∧
      Status.decode (.object ms) = .ok (u.apply (Status.kept document status)) := by
  obtain ⟨visited, generated⟩ := read.base
  have phased : Record.visit Status.record.checks [] ((Status.base document).put "phase" u.phase.encode) = .ok () := by
    refine Record.visit_put visited ?_
    rintro c ⟨⟩
    exact Decoder.check_ok (Phase.decode_encode u.phase)
  cases given : u.observedGeneration with
  | none =>
    refine ⟨(Status.base document).put "phase" u.phase.encode, ?_, ?_⟩
    · simp [statusPatch, given, Json.ofMembers, Json.mergePatch_object, Status.base, Phase.encode,
        Json.mergePatch_string, Json.mergeMembers, Json.Members.put]
    · refine Status.decode_of_members phased (Json.Members.get?_put _ _ _ _) ?_
      rw [Field.ofMembers_congr (Json.Members.get?_put _ _ _ _), generated, given]
      rfl
  | some generation =>
    refine ⟨((Status.base document).put "phase" u.phase.encode).put "observedGeneration" (.int generation.toInt), ?_, ?_⟩
    · simp [statusPatch, given, Json.ofMembers, Json.mergePatch_object, Status.base, Phase.encode,
        Json.mergePatch_string, Json.mergePatch_int, Json.mergeMembers, Json.Members.put]
    · have read : Decoder.orNull Decoder.int64 (.int generation.toInt) = .ok (some generation) := by
        change (Decoder.int64 (.int generation.toInt)).map some = _
        rw [Decoder.int64_toInt]
        rfl
      refine Status.decode_of_members (Record.visit_put phased ?_) ?_ ?_
      · rintro c ⟨⟩
        exact Decoder.check_ok read
      · rw [Json.Members.get?_put, Json.Members.get?_put]
        rfl
      · rw [given]
        exact Field.ofMembers_of_get? (Json.Members.get?_put _ _ _ _) read

end PhaseUpdate

namespace Registrar

variable {ms : Json.Members} {r : Registrar}

/-- The members of a document show a registrar. -/
structure Shown (ms : Json.Members) (r : Registrar) : Prop where
  visited : Record.visit record.checks [] ms = .ok ()
  metadata : ∃ inner : Json.Members, ms.get? "metadata" = some (.object inner) ∧
    Cluster.Metadata.decode (.object inner) = .ok r.metadata
  spec : (Field.required "spec" Spec.decode).ofMembers ms = .ok r.spec
  status : Status.Read (ms.get? "status") r.status

private theorem read_status {status : Option Status} :
    (Field.optionalMember "status" Status.decode).ofMembers ms = .ok status ↔ Status.Read (ms.get? "status") status := by
  unfold Field.ofMembers Status.Read
  simp only [Field.optionalMember]
  cases ms.get? "status" with
  | none => simp [eq_comm]
  | some j => rfl

theorem decode_ok : decode (.object ms) = .ok r ↔ Shown ms r := by
  constructor
  · intro decoded
    obtain ⟨visited, built⟩ := Record.ofMembers_ok.mp decoded
    obtain ⟨_, status, specified, statusRead, rfl⟩ := Record.take_build_ok built
    obtain ⟨_, spec, described, specRead, rfl⟩ := Record.take_build_ok specified
    obtain ⟨_, metadata, started, metadataRead, rfl⟩ := Record.take_build_ok described
    cases started
    obtain ⟨j, found, decoded⟩ := Record.required_ofMembers_ok metadataRead
    refine ⟨visited, ?_, specRead, read_status.mp statusRead⟩
    cases j with
    | object inner => exact ⟨inner, found, decoded⟩
    | null | bool _ | number _ | string _ | array _ => cases decoded
  · rintro ⟨visited, ⟨inner, found, decoded⟩, spec, status⟩
    refine Record.ofMembers_ok.mpr ⟨visited, ?_⟩
    have started : (Record.start Registrar.mk).build ms = .ok Registrar.mk := rfl
    have described : (Field.required "metadata" Cluster.Metadata.decode).ofMembers ms = .ok r.metadata :=
      Field.ofMembers_of_get? found decoded
    exact Record.take_build (Record.take_build (Record.take_build started described) spec) (read_status.mpr status)

/-- The part of a patch that names a version. -/
def versionPatch (version : String) : Json.Members := [("metadata", .object [("resourceVersion", .string version)])]

theorem Shown.versioned (shown : Shown ms r) (version : String) :
    Shown (Json.mergeMembers ms (versionPatch version))
        { r with metadata := { r.metadata with resourceVersion := some version } } ∧
      (Json.mergeMembers ms (versionPatch version)).get? "status" = ms.get? "status" := by
  obtain ⟨inner, found, decoded⟩ := shown.metadata
  have merged : Json.mergeMembers ms (versionPatch version) =
      ms.put "metadata" (.object (inner.put "resourceVersion" (.string version))) := by
    simp [versionPatch, Json.mergeMembers, found, Json.mergePatch_object, Json.members, Json.mergePatch_string,
      Json.Members.put]
  have redecoded := Cluster.Metadata.decode_put_version decoded version
  rw [merged]
  refine ⟨⟨?_, ⟨_, Json.Members.get?_put _ _ _ _, redecoded⟩, ?_, ?_⟩, Json.Members.get?_put _ _ _ _⟩
  · refine Record.visit_put shown.visited ?_
    rintro c ⟨⟩
    exact Decoder.check_ok redecoded
  · rw [Field.ofMembers_congr (Json.Members.get?_put _ _ _ _)]
    exact shown.spec
  · rw [Json.Members.get?_put]
    exact shown.status

theorem Shown.phased (shown : Shown ms r) (u : PhaseUpdate) :
    Shown (Json.mergeMembers ms [("status", u.statusPatch)])
        { r with status := some (u.apply (Status.kept (ms.get? "status") r.status)) } ∧
      ∃ inner, (Json.mergeMembers ms [("status", u.statusPatch)]).get? "status" = some (.object inner) := by
  obtain ⟨inner, patched, decoded⟩ := u.decode_statusPatch shown.status
  have merged : Json.mergeMembers ms [("status", u.statusPatch)] = ms.put "status" (.object inner) := by
    rw [Json.mergeMembers_cons (by simp [PhaseUpdate.statusPatch, Json.ofMembers]), patched]
    simp [Json.mergeMembers]
  have read : Decoder.orNull Status.decode (.object inner) =
      .ok (some (u.apply (Status.kept (ms.get? "status") r.status))) := by
    change (Status.decode (.object inner)).map some = _
    rw [decoded]
    rfl
  rw [merged]
  refine ⟨⟨?_, ?_, ?_, ?_⟩, inner, Json.Members.get?_put _ _ _ _⟩
  · refine Record.visit_put shown.visited ?_
    rintro c ⟨⟩
    exact Decoder.check_ok read
  · obtain ⟨inner, found, described⟩ := shown.metadata
    exact ⟨inner, by rw [Json.Members.get?_put]; exact found, described⟩
  · rw [Field.ofMembers_congr (Json.Members.get?_put _ _ _ _)]
    exact shown.spec
  · rw [Json.Members.get?_put]
    exact read

end Registrar

namespace PhaseUpdate

/-- What a document becomes by an update: the patch is merged into it, and it is given another version. -/
def stored (u : PhaseUpdate) (version : String) (document : Json) : Json :=
  (document.mergePatch u.toPatch).mergePatch (.object (Registrar.versionPatch version))

theorem toPatch_eq (u : PhaseUpdate) :
    u.toPatch = .object ((u.resourceVersion.toList.flatMap Registrar.versionPatch) ++ [("status", u.statusPatch)]) := by
  cases given : u.resourceVersion <;> simp [toPatch, Json.ofMembers, given, Registrar.versionPatch]

variable {ms : Json.Members} {r : Registrar}

theorem stored_object (u : PhaseUpdate) (version : String) :
    u.stored version (.object ms) =
      .object (Json.mergeMembers (Json.mergeMembers (Json.mergeMembers ms
        (u.resourceVersion.toList.flatMap Registrar.versionPatch)) [("status", u.statusPatch)])
        (Registrar.versionPatch version)) := by
  rw [stored, toPatch_eq, Json.mergePatch_object, Json.mergePatch_object, Json.members, Json.members,
    Json.mergeMembers_append]

/-- A stored update is decoded to the registrar in its new version, with its status updated. -/
theorem decode_stored (u : PhaseUpdate) (version : String) (decoded : Registrar.decode (.object ms) = .ok r) :
    ∃ changed : Json.Members, u.stored version (.object ms) = .object changed ∧
      Registrar.decode (.object changed) = .ok
        { r with
          metadata := { r.metadata with resourceVersion := some version }
          status := some (u.apply (Status.kept (ms.get? "status") r.status)) } ∧
      ∃ inner, changed.get? "status" = some (.object inner) := by
  have shown := Registrar.decode_ok.mp decoded
  refine ⟨_, u.stored_object version, ?_⟩
  cases u.resourceVersion with
  | none =>
    obtain ⟨phased, inner, found⟩ := shown.phased u
    obtain ⟨versioned, same⟩ := phased.versioned version
    exact ⟨Registrar.decode_ok.mpr versioned, inner, same.trans found⟩
  | some old =>
    obtain ⟨checked, kept⟩ := shown.versioned old
    obtain ⟨phased, inner, found⟩ := checked.phased u
    obtain ⟨versioned, same⟩ := phased.versioned version
    rw [kept] at versioned
    exact ⟨Registrar.decode_ok.mpr versioned, inner, same.trans found⟩

end PhaseUpdate

end BackendRegistrar
