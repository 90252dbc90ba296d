import BackendRegistrar.Proofs.Balancer

/-! What pushes leave alone. An update says of a set all that was read of it, but for the backends:
the policy, the health checker and every option. So whatever is pushed, and however often, a load
balancer that stores the updates goes on showing them as they were shown first. -/

namespace BackendRegistrar.Cloud
open Program

variable {kind : Kind} {j : Json} {s : BackendSet}

/-- Two sets differ at most in their names and backends. -/
structure BackendSet.Alike (s t : BackendSet) : Prop where
  policy : t.policy = s.policy
  healthChecker : t.healthChecker = s.healthChecker
  options : t.options = s.options

/-- A document says what another one does, but with these backends. A member that is null may be
missing, and of several members of one name in a nested object the last counts. -/
structure Echoes (kind : Kind) (j : Json) (s : BackendSet) (targets : List Target) (body : Json) : Prop where
  again : ∃ t, BackendSet.decode kind body = .ok t ∧ s.Alike t ∧ t.targets = targets
  policy : body.get? "policy" = j.get? "policy"
  health : ∀ ms, j.get? "healthChecker" = some (.object ms) → ∃ ns, body.get? "healthChecker" = some (.object ns) ∧
    Json.Members.get? ns "protocol" = Json.Members.get? ms "protocol" ∧
    ∀ f ∈ kind.healthFields, Json.Members.get? ns f.name = Json.kept (Json.Members.get? ms f.name)
  options : ∀ f ∈ kind.optionFields, body.get? f.name = Json.kept (j.get? f.name)
  nested : ∀ f ∈ kind.optionFields, ∀ ms, j.get? f.name = some (.object ms) → ∃ ns,
    body.get? f.name = some (.object ns) ∧
      ∀ name, Json.Members.get? ns name = (Json.Members.get? ms.reverse name).map Json.canonical

theorem HealthChecker.encode_echoes {ms : Json.Members} {h : HealthChecker}
    (read : (HealthChecker.record kind).decode (.object ms) = .ok h) :
    ∃ ns, h.encode = .object ns ∧ Json.Members.get? ns "protocol" = Json.Members.get? ms "protocol" ∧
      ∀ f ∈ kind.healthFields, Json.Members.get? ns f.name = Json.kept (Json.Members.get? ms f.name) := by
  obtain ⟨different, table⟩ := List.nodup_cons.mp kind.healthFields_distinct
  obtain ⟨protocol, settings⟩ := HealthChecker.record_build_ok (Record.build_of_ofMembers read)
  refine ⟨_, rfl, ?_, ?_⟩
  · rw [Json.Members.get?_cons, if_pos rfl, protocol]
  · intro f field
    have differs : "protocol" ≠ f.name := fun same => different (same ▸ List.mem_map_of_mem field)
    rw [Json.Members.get?_cons, if_neg differs]
    exact Record.readSettings_get? settings table f field

theorem BackendSet.replacing_echoes (read : BackendSet.decode kind j = .ok s) (targets : List Target) :
    Echoes kind j s targets (s.replacing targets).encode := by
  obtain ⟨ms, rfl, from_⟩ := BackendSet.decode_ok read
  obtain ⟨_, table, _⟩ := List.nodup_append.mp kind.optionFields_distinct
  have settled := BackendSet.replacing_settled read targets
  have options : ∀ f ∈ kind.optionFields,
      (s.replacing targets).encode.get? f.name = Json.kept ((Json.object ms).get? f.name) := by
    intro f field
    have kept := Record.readSettings_get? from_.options table f field
    exact (BackendSetUpdate.option_get? field).trans kept
  refine ⟨?_, ?_, ?_, options, ?_⟩
  · exact ⟨_, BackendSet.decode_replacing read targets, ⟨rfl, rfl, rfl⟩, BackendSetUpdate.described_targets _⟩
  · have own := settled.own_get? (by decide : "policy" ∈ Kind.ownNames)
    exact own.trans from_.policy.symm
  · intro checker member
    obtain ⟨found, present, decoded⟩ := from_.health
    obtain rfl : found = .object checker := Option.some.inj (present.symm.trans member)
    obtain ⟨ns, same, echoes⟩ := HealthChecker.encode_echoes decoded
    have own := settled.own_get? (by decide : "healthChecker" ∈ Kind.ownNames)
    exact ⟨ns, own.trans (congrArg some same), echoes⟩
  · intro f field nested member
    refine ⟨_, (options f field).trans (congrArg Json.kept member), ?_⟩
    intro name
    rw [Json.canonicalMembers_get?]
    simp

theorem currentBackends_completes {trace : Trace service} {id name : String} {targets : List Target} :
    (currentBackends id name).run.Completes trace (.ok targets) ↔
      ∃ t : BackendSet, trace = [⟨.request (.getSet id name), .ok t⟩] ∧ targets = t.targets := by
  rw [currentBackends, succeeds_bind]
  constructor
  · rintro ⟨first, second, t, rfl, asked, later⟩
    obtain rfl := ask_completes.mp asked
    obtain ⟨rfl, same⟩ := completes_done.mp later
    cases same
    exact ⟨t, rfl, rfl⟩
  · rintro ⟨t, rfl, rfl⟩
    exact ⟨_, [], t, rfl, ask_completes.mpr rfl, .start _⟩

theorem currentBackends_shown {id name : String} {b : Balancer} {t : BackendSet}
    (shown : b.shown? kind name = some t) (targets : List Target) :
    (∃ reading, (currentBackends id name).run.Completes reading (.ok targets) ∧
      ∃ c, Carries (Serves kind id) b reading c) ↔ targets = t.targets := by
  constructor
  · rintro ⟨reading, completes, c, carries⟩
    obtain ⟨found, rfl, rfl⟩ := currentBackends_completes.mp completes
    obtain ⟨middle, read, _⟩ := carries_cons.mp carries
    have same := read.getSet.2 found rfl
    rw [shown] at same
    rw [Option.some.inj same]
  · rintro rfl
    exact ⟨_, currentBackends_completes.mpr ⟨t, rfl, rfl⟩, b, .cons (.shown shown) (.nil b)⟩

/-- What a load balancer shows of a set after some lists were stored: the last of these that is for
the set as its backends, and all else as it was read first. -/
structure Keeps (kind : Kind) (id name : String) (s : BackendSet) (stored : List (String × List Target))
    (c : Balancer) : Prop where
  alike : ∃ t, c.shown? kind name = some t ∧ s.Alike t
  backends : ∀ targets, (∃ reading, (currentBackends id name).run.Completes reading (.ok targets) ∧
    ∃ d, Carries (Serves kind id) c reading d) ↔ targets = (Balancer.lastFor name stored).getD s.targets

theorem Balancer.giveAll_keeps {id name : String} {b : Balancer} (shown : b.shown? kind name = some s)
    (stored : List (String × List Target)) : Keeps kind id name s stored (b.giveAll kind stored) := by
  have later := Balancer.shown?_giveAll shown stored
  refine ⟨⟨_, later, ?_⟩, ?_⟩
  · cases Balancer.lastFor name stored <;> exact ⟨rfl, rfl, rfl⟩
  · intro targets
    rw [currentBackends_shown later]
    cases Balancer.lastFor name stored with
    | none => rfl
    | some last =>
      rw [BackendSetUpdate.described_targets]
      rfl

/-- An update says all of a set that was read from a document, but for the backends. So after any
pushes to a load balancer that stores the updates, whatever comes of each, the set is shown as it was
read first, with the last list that was stored for it; and what was stored is among the pushes, with
all of them that succeeded. -/
theorem pushes_keep_configuration (read : BackendSet.decode kind j = .ok s) :
    (∀ targets, Echoes kind j s targets (s.replacing targets).encode) ∧
      ∀ (tracker : CompletionTracker) (id name : String) (pushes : List (String × List Target))
        (results : List (Except CloudError Unit)) (trace : Trace service) (b c : Balancer),
        b name = some j → (syncEach kind tracker id pushes).Completes trace results →
        Carries (Serves kind id) b trace c →
        ∃ stored, stored.Sublist pushes ∧ (succeeded pushes results).Sublist stored ∧
          Keeps kind id name s stored c := by
  refine ⟨BackendSet.replacing_echoes read, ?_⟩
  intro tracker id name pushes results trace b c document completes carries
  obtain ⟨stored, rfl, among, successes⟩ := syncEach_given completes carries
  have shown : b.shown? kind name = some s := Balancer.shown?_eq_some.mpr ⟨j, document, read⟩
  exact ⟨stored, among, successes, Balancer.giveAll_keeps shown stored⟩

section SecureSet

/-! A set with a certificate and with settings that are empty, zero or false, pushed to twice. -/

def secureDocument : Json :=
  .object
    [("name", .string "bs"), ("policy", .string "ROUND_ROBIN"), ("backends", .array []),
      ("healthChecker", .object
        [("protocol", .string "HTTP"), ("urlPath", .string ""), ("retries", .null), ("isForcePlainText", .bool false)]),
      ("sslConfiguration", .object [("verifyDepth", .int 0), ("certificateName", .string "shop")]),
      ("backendMaxConnections", .int 0)]

def secureSet : BackendSet :=
  ⟨"bs", "ROUND_ROBIN", [], ⟨"HTTP", [("urlPath", .string ""), ("isForcePlainText", .bool false)]⟩,
    [("sslConfiguration", .object [("certificateName", .string "shop"), ("verifyDepth", .int 0)]),
      ("backendMaxConnections", .int 0)]⟩

def secureStart : Balancer := fun name => if name = "bs" then some secureDocument else none

def firstList : List Target := [⟨"10.0.0.1", 30080, 1⟩]

def secondList : List Target := [⟨"10.0.0.2", 30080, 1⟩, ⟨"10.0.0.3", 30080, 1⟩]

def securePush (s : BackendSet) (targets : List Target) : Trace service :=
  [⟨.request (.getSet "lb" "bs"), .ok s⟩, ⟨.request (.updateSet "lb" "bs" (s.replacing targets)), .ok none⟩]

private theorem secure_completes (s : BackendSet) (targets : List Target) :
    (syncBackends .classic .standard "lb" "bs" targets).run.Completes (securePush s targets) (.ok ()) := by
  have written : Course .classic .standard "lb" "bs" targets (securePush s targets) (.ok ()) := by
    apply Course.written
    · exact nofun
    · exact awaited_completes.mpr (.inl ⟨nofun, rfl, rfl⟩)
  exact syncBackends_completes.mpr written

private theorem secure_carries {b : Balancer} {s : BackendSet} (shown : b.shown? .classic "bs" = some s)
    (targets : List Target) :
    Carries (Serves .classic "lb") b (securePush s targets) (b.give .classic "bs" targets) := by
  rw [Balancer.give_of_shown shown]
  exact .cons (.shown shown) (.cons (.stored _ _ _ _) (.nil _))

theorem secure_pushes_keep_configuration :
    BackendSet.decode .classic secureDocument = .ok secureSet ∧ secureStart "bs" = some secureDocument ∧
      ∃ trace c, (syncEach .classic .standard "lb" [("bs", firstList), ("bs", secondList)]).Completes trace
          [.ok (), .ok ()] ∧ Carries (Serves .classic "lb") secureStart trace c ∧
        ∃ stored, stored.Sublist [("bs", firstList), ("bs", secondList)] ∧
          (succeeded [("bs", firstList), ("bs", secondList)] [.ok (), .ok ()]).Sublist stored ∧
          Keeps .classic "lb" "bs" secureSet stored c := by
  have read : BackendSet.decode .classic secureDocument = .ok secureSet := rfl
  have shown : secureStart.shown? .classic "bs" = some secureSet := rfl
  have again : (secureStart.give .classic "bs" firstList).shown? .classic "bs" =
      some (secureSet.replacing firstList).described := Balancer.shown?_give shown
  have completes : (syncEach .classic .standard "lb" [("bs", firstList), ("bs", secondList)]).Completes
      (securePush secureSet firstList ++ securePush (secureSet.replacing firstList).described secondList)
      [.ok (), .ok ()] :=
    completes_bind.mpr ⟨_, _, _, rfl, secure_completes _ _, completes_bind.mpr ⟨_, [], _, rfl,
      completes_bind.mpr ⟨_, [], _, rfl, secure_completes _ _, .start _⟩, .start _⟩⟩
  have carries := carries_append.mpr ⟨_, secure_carries shown firstList, secure_carries again secondList⟩
  exact ⟨read, rfl, _, _, completes, carries,
    (pushes_keep_configuration read).2 _ _ _ _ _ _ _ _ rfl completes carries⟩

end SecureSet

end BackendRegistrar.Cloud
