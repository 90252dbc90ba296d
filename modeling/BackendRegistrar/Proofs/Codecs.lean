import BackendRegistrar.Proofs.Patching

/-! Declarations and statuses are written so that nothing is lost. Each field is either written, and then read back,
or left out, and then what stands for it when it is absent is its value. -/

namespace BackendRegistrar

/-- What was written of a field is read as the value; if nothing was written, absence stands for the value. -/
def Field.Restores (field : Field α) (value : α) : Option Json → Prop
  | some j => field.decode j = .ok value
  | none => field.absent = .ok value

namespace Field

variable {name : String} {decode : Decoder α} {encode : α → Json}

theorem required_restores {value : α} {j : Json} (read : decode j = .ok value) :
    (required name decode).Restores value (some j) := read

theorem withDefault_restores {value standard : α} {j : Json} (read : decode j = .ok value) :
    (withDefault name decode standard).Restores value (some j) := read

/-- A field may be left out for the value that stands for its absence. -/
theorem omitted_restores {value standard : α} {j : Json} {omitted : Prop} [Decidable omitted]
    (same : omitted → value = standard) (read : decode j = .ok value) :
    (withDefault name decode standard).Restores value (if omitted then none else some j) := by
  split
  next left => exact congrArg Except.ok (same left).symm
  next => exact read

theorem optional_restores {value : Option α} (read : ∀ a, decode (encode a) = .ok a) (given : ∀ a, encode a ≠ .null) :
    (optional name decode).Restores value (value.map encode) := by
  cases value with
  | none => rfl
  | some a =>
    change Decoder.orNull decode (encode a) = .ok (some a)
    rw [Decoder.orNull_of_ne_null (given a), read a]
    rfl

end Field

namespace Record

/-- So far as the record has been built, it is built of what was written with this value. -/
structure Restored (written : List (String × Option Json)) (record : Record α) (value : α) : Prop where
  distinct : (written.map Prod.fst).Nodup
  fits : ∀ c ∈ record.checks, ∀ j, (c.1, some j) ∈ written → c.2 j = .ok ()
  built : record.build (Json.given written) = .ok value

variable {written : List (String × Option Json)}

theorem restored_start (distinct : (written.map Prod.fst).Nodup) (value : α) : Restored written (start value) value :=
  ⟨distinct, nofun, rfl⟩

theorem Restored.take {record : Record (α → β)} {make : α → β} {field : Field α} {value : α} {part : Option Json}
    (place : Nat) (here : written[place]? = some (field.name, part)) (restores : field.Restores value part)
    (before : Restored written record make) : Restored written (record.take field) (make value) := by
  have member := List.mem_of_getElem? here
  have found : field.ofMembers (Json.given written) = .ok value := by
    rw [Field.ofMembers, Json.given_get? before.distinct member]
    cases part <;> exact restores
  refine ⟨before.distinct, ?_, take_build before.built found⟩
  intro c among j present
  rcases List.mem_append.mp among with earlier | last
  · exact before.fits c earlier j present
  · obtain rfl := List.mem_singleton.mp last
    have same := List.inj_on_of_nodup_map before.distinct member present rfl
    cases same
    exact Decoder.check_ok restores

theorem Restored.decode {record : Record α} {value : α} (restored : Restored written record value) :
    record.decode (.ofMembers written) = .ok value := by
  refine ofMembers_ok.mpr ⟨visit_of_fits ?_ (fun _ _ => List.not_mem_nil) ?_, restored.built⟩
  · exact restored.distinct.sublist (Json.given_names written)
  · rintro ⟨name, j⟩ member c among rfl
    exact restored.fits c among j (Json.mem_given.mp member)

end Record

section Declarations

@[simp] theorem PortRef.decode_encode (p : PortRef) : PortRef.decode p.encode = .ok p := by
  cases p with
  | name text => rfl
  | number n =>
    change (Decoder.int32 (.int n.toInt)).map PortRef.number = _
    rw [Decoder.int32_toInt]
    rfl

theorem ServiceReference.decode_encode (r : ServiceReference) : decode r.encode = .ok r := by
  obtain ⟨name, ns, port, filterByEndpoints, weight, backendSetName⟩ := r
  refine Record.Restored.decode ?_
  refine .take 5 rfl (Field.optional_restores (fun _ => rfl) Json.string_ne_null) ?_
  refine .take 4 rfl (Field.optional_restores Decoder.int32_toInt fun _ => Json.int_ne_null _) ?_
  refine .take 3 rfl (Field.withDefault_restores rfl) ?_
  refine .take 2 rfl (Field.required_restores port.decode_encode) ?_
  refine .take 1 rfl (Field.required_restores rfl) ?_
  refine .take 0 rfl (Field.required_restores rfl) ?_
  exact Record.restored_start (by simp) ServiceReference.mk

theorem ServiceReference.encode_ne_null (r : ServiceReference) : r.encode ≠ .null := Json.ofMembers_ne_null _

theorem SecretKeyRef.decode_encode (r : SecretKeyRef) : record.decode r.encode = .ok r := by
  obtain ⟨name, key⟩ := r
  refine Record.Restored.decode ?_
  refine .take 1 rfl (Field.required_restores rfl) ?_
  refine .take 0 rfl (Field.required_restores rfl) ?_
  exact Record.restored_start (by simp) SecretKeyRef.mk

theorem PrivateKeyRef.decode_encode (r : PrivateKeyRef) : record.decode r.encode = .ok r := by
  obtain ⟨ns, secretKeyRef⟩ := r
  refine Record.Restored.decode ?_
  refine .take 1 rfl (Field.required_restores secretKeyRef.decode_encode) ?_
  refine .take 0 rfl (Field.omitted_restores id rfl) ?_
  exact Record.restored_start (by simp) PrivateKeyRef.mk

theorem ApiKeySpec.decode_encode (k : ApiKeySpec) : record.decode k.encode = .ok k := by
  obtain ⟨user, fingerprint, tenancy, region, privateKey⟩ := k
  refine Record.Restored.decode ?_
  refine .take 4 rfl (Field.required_restores privateKey.decode_encode) ?_
  refine .take 3 rfl (Field.required_restores rfl) ?_
  refine .take 2 rfl (Field.required_restores rfl) ?_
  refine .take 1 rfl (Field.required_restores rfl) ?_
  refine .take 0 rfl (Field.required_restores rfl) ?_
  exact Record.restored_start (by simp) ApiKeySpec.mk

theorem ServiceReference.decode_encodeList (rs : List ServiceReference) :
    Decoder.list decode (.array (rs.map encode)) = .ok rs := by
  change Decoder.items decode (rs.map encode) = .ok rs
  rw [Decoder.items_map (f := id) ServiceReference.decode_encode, List.map_id]

theorem Spec.decode_encode (s : Spec) : decode s.encode = .ok s := by
  obtain ⟨loadBalancerId, nodePort, port, service, services, weight, backendSetName, apiKey⟩ := s
  refine Record.Restored.decode ?_
  refine .take 7 rfl (Field.required_restores apiKey.decode_encode) ?_
  refine .take 6 rfl (Field.required_restores rfl) ?_
  refine .take 5 rfl (Field.withDefault_restores (Decoder.int32_toInt weight)) ?_
  refine .take 4 rfl (Field.omitted_restores List.isEmpty_iff.mp (ServiceReference.decode_encodeList services)) ?_
  refine .take 3 rfl (Field.optional_restores ServiceReference.decode_encode ServiceReference.encode_ne_null) ?_
  refine .take 2 rfl (Field.withDefault_restores (Decoder.int32_toInt port)) ?_
  refine .take 1 rfl (Field.withDefault_restores (Decoder.int32_toInt nodePort)) ?_
  refine .take 0 rfl (Field.required_restores rfl) ?_
  exact Record.restored_start (by simp) Spec.mk

theorem Status.decode_encode (t : Status) : decode t.encode = .ok t := by
  obtain ⟨phase, observedGeneration⟩ := t
  refine Record.Restored.decode ?_
  refine .take 1 rfl (Field.optional_restores Decoder.int64_toInt fun _ => Json.int_ne_null _) ?_
  refine .take 0 rfl (Field.withDefault_restores (Phase.decode_encode phase)) ?_
  exact Record.restored_start (by simp) Status.mk

end Declarations

namespace Status

variable {j : Json} {t : Status}

/-- What is written where the phase stands, in an object or in a list. -/
def phaseMember : Json → Option Json
  | .object ms => Json.Members.get? ms "phase"
  | .array items => items.head?
  | _ => none

theorem phase_of_items {first : Json} {rest left : List Json}
    (read : record.ofItems (first :: rest) = .ok (t, left)) : Phase.decode first = .ok t.phase := by
  obtain ⟨make, _, generation, started, rfl, _⟩ := Record.take_ofItems_ok read
  change (Phase.decode first >>= fun phase => .ok (Status.mk phase, rest)) = _ at started
  obtain ⟨phase, decoded, same⟩ := bind_eq_ok.mp started
  cases same
  exact decoded

/-- The phase is read from where it stands, and is the new one if nothing stands there. -/
theorem phase_of_decode (read : decode j = .ok t) :
    match phaseMember j with
    | some written => Phase.decode written = .ok t.phase
    | none => t.phase = .new := by
  cases j with
  | object ms =>
    obtain ⟨_, built⟩ := Record.ofMembers_ok.mp read
    obtain ⟨_, generation, started, _, rfl⟩ := Record.take_build_ok built
    obtain ⟨_, phase, begun, found, rfl⟩ := Record.take_build_ok started
    cases begun
    unfold Field.ofMembers at found
    simp only [Field.withDefault] at found
    cases member : Json.Members.get? ms "phase" with
    | some written =>
      have here : phaseMember (.object ms) = some written := member
      rw [member] at found
      rw [here]
      exact found
    | none =>
      have nowhere : phaseMember (.object ms) = none := member
      rw [member] at found
      rw [nowhere]
      exact (Except.ok.inj found).symm
  | array items =>
    obtain ⟨⟨status, left⟩, taken, later⟩ := bind_eq_ok.mp read
    have same : status = t := by
      dsimp only at later
      split at later
      next => exact Except.ok.inj later
      next => cases later
    subst same
    cases items with
    | nil =>
      cases taken
      rfl
    | cons first rest => exact phase_of_items taken
  | null | bool _ | number _ | string _ => cases read

/-- The text is stored for no phase that is under way. -/
def Unrecognised (text : String) : Prop := ∀ phase : Phase, phase ≠ .new → text ≠ phase.wire

/-- A phase that is stored is read again; all else counts as the new phase, which is written as the empty text. -/
structure Normal (written : Option Json) (t : Status) : Prop where
  recognised : ∀ phase : Phase, written = some (.string phase.wire) → t.phase = phase
  unrecognised : (written = none ∨ written = some .null ∨ ∃ text, written = some (.string text) ∧ Unrecognised text) →
    t.phase = .new ∧ t.encode.get? "phase" = some (.string "")

theorem ofWire_of_unrecognised {text : String} (unrecognised : Unrecognised text) : Phase.ofWire text = .new := by
  have pending : text ≠ "PENDING" := unrecognised .pending nofun
  have registering : text ≠ "REGISTERING" := unrecognised .registering nofun
  have ready : text ≠ "READY" := unrecognised .ready nofun
  rw [Phase.ofWire, if_neg pending, if_neg registering, if_neg ready]

theorem normal_of_decode (read : decode j = .ok t) : Normal (phaseMember j) t := by
  have phase := phase_of_decode read
  refine ⟨?_, fun unknown => ?_⟩
  · intro stored same
    rw [same] at phase
    exact (Except.ok.inj (stored.decode_encode.symm.trans phase)).symm
  · have new : t.phase = .new := by
      rcases unknown with same | same | ⟨text, same, unrecognised⟩
      · rw [same] at phase
        exact phase
      · rw [same] at phase
        exact (Except.ok.inj phase).symm
      · rw [same] at phase
        exact (Except.ok.inj phase).symm.trans (ofWire_of_unrecognised unrecognised)
    refine ⟨new, ?_⟩
    obtain ⟨_, generation⟩ := t
    cases new
    rfl

end Status

/-- Nothing is lost by writing a value and reading it back. What a document says is still said when it has been read
and is written anew, and from then on the document stays the same. -/
structure Lossless (decode : Decoder α) (encode : α → Json) : Prop where
  value : ∀ a, decode (encode a) = .ok a
  reread : ∀ j a, decode j = .ok a → decode (encode a) = decode j
  rewritten : ∀ j a b, decode j = .ok a → decode (encode a) = .ok b → encode b = encode a

theorem lossless_of_decode_encode {decode : Decoder α} {encode : α → Json} (restores : ∀ a, decode (encode a) = .ok a) :
    Lossless decode encode where
  value := restores
  reread _ a read := (restores a).trans read.symm
  rewritten _ a _ _ again := congrArg encode (Except.ok.inj (again.symm.trans (restores a)))

theorem declarations_lossless :
    Lossless Spec.decode Spec.encode ∧ Lossless Status.decode Status.encode ∧
      ∀ j t, Status.decode j = .ok t → Status.Normal (Status.phaseMember j) t :=
  ⟨lossless_of_decode_encode Spec.decode_encode, lossless_of_decode_encode Status.decode_encode,
    fun _ _ => Status.normal_of_decode⟩

section Patchwork

/-! A declaration that is written partly as objects with members that are not known and partly as lists, and a status
as a list with a phase that is not known. -/

def patchwork : Json :=
  .object
    [("apiKey", .array
        [.string "u", .string "f", .string "t", .string "r",
          .array [.string "", .object [("key", .string "k"), ("kind", .null), ("name", .string "s")]]]),
      ("backendSetName", .string "bs"),
      ("comment", .string "by hand"),
      ("loadBalancerId", .string "ocid1.loadbalancer.oc1.iad.a"),
      ("services", .array
        [.array [.string "web", .string "apps", .string "http", .bool true],
          .object [("name", .string "api"), ("namespace", .string "apps"), ("note", .bool true), ("port", .int 80),
            ("weight", .int 7)]])]

def patchworkSpec : Spec :=
  ⟨"ocid1.loadbalancer.oc1.iad.a", 0, 0, none,
    [⟨"web", "apps", .name "http", true, none, none⟩, ⟨"api", "apps", .number 80, false, some 7, none⟩], 1, "bs",
    ⟨"u", "f", "t", "r", ⟨"", ⟨"s", "k"⟩⟩⟩⟩

def listedStatus : Json := .array [.string "DRAINING", .int 3]

theorem patchwork_lossless :
    Spec.decode patchwork = .ok patchworkSpec ∧ Spec.decode patchworkSpec.encode = Spec.decode patchwork ∧
      Status.decode listedStatus = .ok ⟨.new, some 3⟩ ∧
      Status.decode (Status.encode ⟨.new, some 3⟩) = Status.decode listedStatus ∧
      Status.Normal (some (.string "DRAINING")) ⟨.new, some 3⟩ := by
  have read : Spec.decode patchwork = .ok patchworkSpec := by rfl
  have statusRead : Status.decode listedStatus = .ok ⟨.new, some 3⟩ := by rfl
  obtain ⟨specs, statuses, normal⟩ := declarations_lossless
  exact ⟨read, specs.reread _ _ read, statusRead, statuses.reread _ _ statusRead, normal _ _ statusRead⟩

end Patchwork

end BackendRegistrar
