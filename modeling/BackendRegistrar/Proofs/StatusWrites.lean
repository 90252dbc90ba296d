import BackendRegistrar.Cluster.Read
import BackendRegistrar.Proofs.Patching

/-! Status writes as a server sees them that knows nothing but documents. It merges the patch of an update into
what it stores, unless the patch names another version than the stored one. The status that is then read of the
document is what the update makes of the status that was read before, and whatever an update does not name stays. -/

namespace BackendRegistrar

namespace Json

/-- A member of a member. -/
def inner (j : Json) (outer name : String) : Option Json := (j.get? outer).bind fun member => member.get? name

theorem getD_get? (member : Option Json) (name : String) :
    (member.getD .null).get? name = member.bind fun member => member.get? name := by
  cases member <;> rfl

/-- What a patch that names a member makes of its value; null removes it. -/
def patched (old : Option Json) : Json → Option Json
  | .null => none
  | value => some ((old.getD .null).mergePatch value)

theorem patched_of_ne_null {old : Option Json} {value : Json} (given : value ≠ .null) :
    patched old value = some ((old.getD .null).mergePatch value) := by
  cases value with
  | null => exact absurd rfl given
  | bool _ | number _ | string _ | array _ | object _ => rfl

theorem mergeMembers_null (target rest : Members) (name : String) :
    mergeMembers target ((name, .null) :: rest) = mergeMembers (target.erase name) rest := by
  simp [mergeMembers]

theorem mergeMembers_get? {patch : Members} (distinct : (patch.map Prod.fst).Nodup) (target : Members) (name : String) :
    Members.get? (mergeMembers target patch) name =
      ((patch.get? name).map (patched (target.get? name))).getD (target.get? name) := by
  induction patch generalizing target with
  | nil => simp [mergeMembers]
  | cons m rest ih =>
    obtain ⟨other, value⟩ := m
    obtain ⟨absent, later⟩ := List.nodup_cons.mp distinct
    have missing : Members.get? rest other = none := Members.get?_eq_none.mpr absent
    rw [Members.get?_cons]
    by_cases empty : value = .null
    · subst empty
      rw [mergeMembers_null, ih later, Members.get?_erase]
      by_cases same : other = name
      · subst same
        simp [missing, patched]
      · simp [same, Ne.symm same]
    · rw [mergeMembers_cons empty, ih later, Members.get?_put]
      by_cases same : other = name
      · subst same
        simp [missing, patched_of_ne_null empty]
      · simp [same]

/-- A member after an object was merged: as before if the patch does not name it. -/
theorem mergePatch_get? {patch : Members} (distinct : (patch.map Prod.fst).Nodup) (j : Json) (name : String) :
    (j.mergePatch (.object patch)).get? name = ((patch.get? name).map (patched (j.get? name))).getD (j.get? name) := by
  rw [mergePatch_object]
  exact mergeMembers_get? distinct j.members name

end Json

namespace PhaseUpdate

theorem statusPatch_members (u : PhaseUpdate) :
    (u.statusPatch.members.map Prod.fst).Nodup ∧ u.statusPatch = .object u.statusPatch.members :=
  Json.ofMembers_members (by simp)

theorem statusPatch_get? (u : PhaseUpdate) (name : String) :
    u.statusPatch.get? name =
      if name = "phase" then some u.phase.encode
      else if name = "observedGeneration" then u.observedGeneration.map fun n => .int n.toInt
      else none := by
  refine (Json.given_get?_eq (by simp) name).trans ?_
  by_cases phase : name = "phase"
  · simp [phase]
  · by_cases named : name = "observedGeneration"
    · simp [List.lookup_cons, named]
    · simp [List.lookup_cons, beq_false_of_ne phase, beq_false_of_ne named, phase, named]

theorem toPatch_members (u : PhaseUpdate) :
    (u.toPatch.members.map Prod.fst).Nodup ∧ u.toPatch = .object u.toPatch.members :=
  Json.ofMembers_members (by simp)

theorem toPatch_get? (u : PhaseUpdate) (name : String) :
    u.toPatch.get? name =
      if name = "status" then some u.statusPatch
      else if name = "metadata" then u.resourceVersion.map fun v => .object [("resourceVersion", .string v)]
      else none := by
  refine (Json.given_get?_eq (by simp) name).trans ?_
  by_cases status : name = "status"
  · simp [List.lookup_cons, status]
  · by_cases metadata : name = "metadata"
    · simp [metadata]
    · simp [List.lookup_cons, beq_false_of_ne status, beq_false_of_ne metadata, status, metadata]

/-- The members of a document after an update was merged into it. -/
theorem merged_get? (u : PhaseUpdate) (j : Json) (name : String) :
    (j.mergePatch u.toPatch).get? name =
      if name = "status" then some (((j.get? "status").getD .null).mergePatch u.statusPatch)
      else if name = "metadata" then
        (u.resourceVersion.map fun v =>
          ((j.get? "metadata").getD .null).mergePatch (.object [("resourceVersion", .string v)])).or (j.get? "metadata")
      else j.get? name := by
  obtain ⟨distinct, object⟩ := u.toPatch_members
  have named : u.toPatch.members.get? name = u.toPatch.get? name := rfl
  rw [object, Json.mergePatch_get? distinct, named, toPatch_get?]
  split
  next status =>
    subst status
    rw [Option.map_some, Option.getD_some, u.statusPatch_members.2, Json.patched_of_ne_null (by simp)]
  next =>
    split
    next metadata =>
      subst metadata
      cases u.resourceVersion with
      | none => rfl
      | some version =>
        rw [Option.map_some, Option.map_some, Option.getD_some, Json.patched_of_ne_null (by simp)]
        rfl
    next => rfl

/-- What is read of the status after an update is the update of what was read before. -/
theorem merged_read {j : Json} {status : Option Status} (u : PhaseUpdate) (read : Status.Read (j.get? "status") status)
    (unlisted : ∀ items, j.get? "status" ≠ some (.array items)) :
    ∃ ms, (j.mergePatch u.toPatch).get? "status" = some (.object ms) ∧ Status.decode (.object ms) = .ok (u.apply status) := by
  obtain ⟨ms, merged, decoded⟩ := u.decode_statusPatch read
  have kept : Status.kept (j.get? "status") status = status := by
    unfold Status.kept
    split
    next items listed => exact absurd listed (unlisted items)
    next => rfl
  rw [kept] at decoded
  refine ⟨ms, ?_, decoded⟩
  rw [u.merged_get?, if_pos rfl, merged]

end PhaseUpdate

namespace Server

open Json

/-- The version that a document names as its own. -/
def version? (document : Json) : Option String :=
  match document.inner "metadata" "resourceVersion" with
  | some (.string version) => some version
  | _ => none

/-- The document in another version. -/
def versioned (fresh : String) (document : Json) : Json := document.mergePatch (.object (Registrar.versionPatch fresh))

/-- Merges a patch into what is stored, and gives that a fresh version. A patch that names another version than the
stored one is refused. -/
def serve (fresh : String) (patch stored : Json) : Except Cluster.Failure Unit × Json :=
  if version? patch = none ∨ version? patch = version? stored then (.ok (), versioned fresh (stored.mergePatch patch))
  else (.error (.refused 409 "Conflict" "the object has been modified"), stored)

/-- An update that is asked for, and the version to give to what is stored if the update is accepted. -/
structure Request where
  update : PhaseUpdate
  fresh : String

/-- What is stored after requests, and which updates were accepted. -/
def run (stored : Json) : List Request → Json × List PhaseUpdate
  | [] => (stored, [])
  | q :: rest =>
    match serve q.fresh q.update.toPatch stored with
    | (.ok _, next) => ((run next rest).1, q.update :: (run next rest).2)
    | (.error _, same) => run same rest

/-- The status after updates, one after the other. -/
def applied (status : Option Status) (updates : List PhaseUpdate) : Option Status :=
  updates.foldl (fun current u => some (u.apply current)) status

/-- The document has this status, which is not written as a list. -/
structure Tells (document : Json) (status : Option Status) : Prop where
  read : Status.Read (document.get? "status") status
  unlisted : ∀ items, document.get? "status" ≠ some (.array items)

/-- Nothing has changed but the version, the phase and the generation that was observed. -/
structure Keeps (before after : Json) : Prop where
  others : ∀ name, name ≠ "metadata" → name ≠ "status" → after.get? name = before.get? name
  metadata : ∀ name, name ≠ "resourceVersion" → after.inner "metadata" name = before.inner "metadata" name
  status : ∀ name, name ≠ "phase" → name ≠ "observedGeneration" → after.inner "status" name = before.inner "status" name

variable {before middle after document stored : Json} {status : Option Status} {u : PhaseUpdate} {fresh : String}

theorem Keeps.refl (document : Json) : Keeps document document := ⟨fun _ _ _ => rfl, fun _ _ => rfl, fun _ _ _ => rfl⟩

theorem Keeps.trans (first : Keeps before middle) (second : Keeps middle after) : Keeps before after where
  others name notMetadata notStatus := (second.others name notMetadata notStatus).trans (first.others name notMetadata notStatus)
  metadata name other := (second.metadata name other).trans (first.metadata name other)
  status name notPhase notGeneration :=
    (second.status name notPhase notGeneration).trans (first.status name notPhase notGeneration)

theorem versioned_get? (fresh : String) (document : Json) (name : String) :
    (versioned fresh document).get? name =
      if name = "metadata" then
        some (((document.get? "metadata").getD .null).mergePatch (.object [("resourceVersion", .string fresh)]))
      else document.get? name := by
  rw [versioned, mergePatch_get? (by simp [Registrar.versionPatch])]
  by_cases metadata : name = "metadata"
  · simp [Registrar.versionPatch, Members.get?_cons, metadata, patched]
  · simp [Registrar.versionPatch, Members.get?_cons, metadata, Ne.symm metadata]

/-- A version that is merged into metadata is the only thing of it that changes. -/
theorem namedVersion_get? (member : Option Json) (version name : String) :
    ((member.getD .null).mergePatch (.object [("resourceVersion", .string version)])).get? name =
      if name = "resourceVersion" then some (.string version) else member.bind fun member => member.get? name := by
  rw [mergePatch_get? (by simp), getD_get?]
  by_cases named : name = "resourceVersion"
  · simp [Members.get?_cons, named, patched, mergePatch_string]
  · simp [Members.get?_cons, named, Ne.symm named]

theorem versioned_status (fresh : String) (document : Json) (name : String) :
    (versioned fresh document).inner "status" name = document.inner "status" name := by
  rw [Json.inner, versioned_get?, if_neg (by decide), Json.inner]

theorem versioned_keeps (fresh : String) (document : Json) : Keeps document (versioned fresh document) where
  others name notMetadata _ := by rw [versioned_get?, if_neg notMetadata]
  metadata name other := by
    rw [Json.inner, versioned_get?, if_pos rfl, Option.bind_some, namedVersion_get?, if_neg other, Json.inner]
  status name _ _ := versioned_status fresh document name

theorem version?_versioned (fresh : String) (document : Json) : version? (versioned fresh document) = some fresh := by
  rw [version?, Json.inner, versioned_get?, if_pos rfl, Option.bind_some, namedVersion_get?, if_pos rfl]

theorem version?_toPatch (u : PhaseUpdate) : version? u.toPatch = u.resourceVersion := by
  rw [version?, Json.inner, u.toPatch_get?, if_neg (by decide), if_pos rfl]
  cases u.resourceVersion <;> simp [Json.get?, Json.members, Members.get?_cons]

/-- A member of the status that the update does not name. -/
theorem merged_status {name : String} (notPhase : name ≠ "phase")
    (unnamed : name = "observedGeneration" → u.observedGeneration = none) :
    (document.mergePatch u.toPatch).inner "status" name = document.inner "status" name := by
  obtain ⟨distinct, object⟩ := u.statusPatch_members
  have absent : u.statusPatch.members.get? name = none := by
    have named : u.statusPatch.members.get? name = u.statusPatch.get? name := rfl
    rw [named, u.statusPatch_get?, if_neg notPhase]
    split
    next same => rw [unnamed same, Option.map_none]
    next => rfl
  rw [Json.inner, u.merged_get?, if_pos rfl, Option.bind_some, object, mergePatch_get? distinct, absent, Option.map_none,
    Option.getD_none, getD_get?]
  rfl

theorem merged_keeps (u : PhaseUpdate) (document : Json) : Keeps document (document.mergePatch u.toPatch) where
  others name notMetadata notStatus := by rw [u.merged_get?, if_neg notStatus, if_neg notMetadata]
  metadata name other := by
    rw [Json.inner, u.merged_get?, if_neg (by decide), if_pos rfl]
    cases u.resourceVersion with
    | none => rfl
    | some version =>
      rw [Option.map_some, Option.some_or, Option.bind_some, namedVersion_get?, if_neg other]
      rfl
  status name notPhase notGeneration := merged_status notPhase fun same => absurd same notGeneration

theorem Tells.merged (tells : Tells document status) (u : PhaseUpdate) :
    Tells (document.mergePatch u.toPatch) (some (u.apply status)) := by
  obtain ⟨ms, found, decoded⟩ := u.merged_read tells.read tells.unlisted
  refine ⟨?_, ?_⟩
  · rw [found]
    change (Status.decode (.object ms)).map some = _
    rw [decoded]
    rfl
  · intro items listed
    cases found.symm.trans listed

theorem Tells.versioned (tells : Tells document status) (fresh : String) : Tells (versioned fresh document) status := by
  have same : (Server.versioned fresh document).get? "status" = document.get? "status" := by
    rw [versioned_get?, if_neg (by decide)]
  exact ⟨same ▸ tells.read, same ▸ tells.unlisted⟩

/-- How a server answers to the patch of an update. -/
structure Answers (fresh : String) (u : PhaseUpdate) (stored : Json) (answer : Except Cluster.Failure Unit × Json) :
    Prop where
  refused : answer.1 ≠ .ok () ↔ ∃ named, u.resourceVersion = some named ∧ version? stored ≠ some named
  conflict : ∀ failure, answer.1 = .error failure → failure.code? = some 409 ∧ answer.2 = stored
  accepted : answer.1 = .ok () → version? answer.2 = some fresh
  kept : Keeps stored answer.2
  generation : u.observedGeneration = none →
    answer.2.inner "status" "observedGeneration" = stored.inner "status" "observedGeneration"

theorem serve_accepts (accepted : u.resourceVersion = none ∨ u.resourceVersion = version? stored) :
    serve fresh u.toPatch stored = (.ok (), versioned fresh (stored.mergePatch u.toPatch)) := by
  rw [serve, version?_toPatch, if_pos accepted]

theorem serve_refuses (refused : ¬ (u.resourceVersion = none ∨ u.resourceVersion = version? stored)) :
    serve fresh u.toPatch stored = (.error (.refused 409 "Conflict" "the object has been modified"), stored) := by
  rw [serve, version?_toPatch, if_neg refused]

theorem refused_iff :
    (¬ (u.resourceVersion = none ∨ u.resourceVersion = version? stored)) ↔
      ∃ named, u.resourceVersion = some named ∧ version? stored ≠ some named := by
  cases u.resourceVersion with
  | none => simp
  | some named => simp [eq_comm]

theorem serve_answers (fresh : String) (u : PhaseUpdate) (stored : Json) :
    Answers fresh u stored (serve fresh u.toPatch stored) := by
  by_cases accepted : u.resourceVersion = none ∨ u.resourceVersion = version? stored
  · rw [serve_accepts accepted]
    have notRefused := mt refused_iff.mpr (not_not_intro accepted)
    refine ⟨iff_of_false (fun refused => refused rfl) notRefused, nofun, fun _ => version?_versioned _ _, ?_, ?_⟩
    · exact (merged_keeps u stored).trans (versioned_keeps fresh _)
    · intro unnamed
      exact (versioned_status _ _ _).trans (merged_status (by decide) fun _ => unnamed)
  · rw [serve_refuses accepted]
    refine ⟨iff_of_true nofun (refused_iff.mp accepted), ?_, nofun, Keeps.refl stored, fun _ => rfl⟩
    rintro _ ⟨⟩
    exact ⟨rfl, rfl⟩

theorem run_tells (tells : Tells document status) (requests : List Request) :
    Tells (run document requests).1 (applied status (run document requests).2) ∧ Keeps document (run document requests).1 := by
  induction requests generalizing document status with
  | nil => exact ⟨tells, Keeps.refl document⟩
  | cons q rest ih =>
    have kept := (serve_answers q.fresh q.update document).kept
    by_cases accepted : q.update.resourceVersion = none ∨ q.update.resourceVersion = version? document
    · rw [serve_accepts accepted] at kept
      obtain ⟨told, later⟩ := ih ((tells.merged q.update).versioned q.fresh)
      rw [run, serve_accepts accepted]
      exact ⟨told, kept.trans later⟩
    · rw [run, serve_refuses accepted]
      exact ih tells

theorem merged_tells (tells : Tells document status) (updates : List PhaseUpdate) :
    Tells (updates.foldl (fun stored u => stored.mergePatch u.toPatch) document) (applied status updates) := by
  induction updates generalizing document status with
  | nil => exact tells
  | cons u rest ih => exact ih (tells.merged u)

/-- Merging the patches of updates and decoding the status is the same as applying the updates to the decoded status,
with a server that refuses some of them as without one. -/
theorem patches_agree (tells : Tells document status) :
    (∀ updates : List PhaseUpdate,
      Tells (updates.foldl (fun stored u => stored.mergePatch u.toPatch) document) (applied status updates)) ∧
    (∀ requests : List Request,
      Tells (run document requests).1 (applied status (run document requests).2) ∧
        Keeps document (run document requests).1) ∧
    ∀ (stored : Json) (fresh : String) (u : PhaseUpdate), Answers fresh u stored (serve fresh u.toPatch stored) :=
  ⟨merged_tells tells, run_tells tells, fun stored fresh u => serve_answers fresh u stored⟩

section Drained

/-! A status with a phase that is not known and a member that is not known, and three updates of it, of which the second
comes too late. -/

def drained : Json :=
  .object
    [("metadata", .object [("name", .string "lb"), ("resourceVersion", .string "6")]),
      ("spec", .object [("port", .int 80)]),
      ("status", .object [("phase", .string "DRAINING"), ("since", .string "noon"), ("observedGeneration", .int 3)])]

def drainedRequests : List Request :=
  [⟨⟨.ready, some 4, some "6"⟩, "7"⟩, ⟨⟨.pending, none, some "6"⟩, "8"⟩, ⟨⟨.pending, none, some "7"⟩, "9"⟩]

theorem drained_patches_agree :
    Tells drained (some ⟨.new, some 3⟩) ∧
      (run drained drainedRequests).2 = [⟨.ready, some 4, some "6"⟩, ⟨.pending, none, some "7"⟩] ∧
      Tells (run drained drainedRequests).1 (some ⟨.pending, some 4⟩) ∧
      Keeps drained (run drained drainedRequests).1 := by
  have tells : Tells drained (some ⟨.new, some 3⟩) := ⟨rfl, nofun⟩
  have accepted : (run drained drainedRequests).2 = [⟨.ready, some 4, some "6"⟩, ⟨.pending, none, some "7"⟩] := by
    decide +kernel
  obtain ⟨_, served, _⟩ := patches_agree tells
  obtain ⟨told, kept⟩ := served drainedRequests
  rw [accepted] at told
  exact ⟨tells, accepted, told, kept⟩

end Drained

end Server

end BackendRegistrar
