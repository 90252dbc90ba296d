import BackendRegistrar.Proofs.Trigger
import BackendRegistrar.Proofs.Watching
import BackendRegistrar.Simulation.Watch

/-! Which changes of endpoints reset registrars. Each change that is told by itself does. One that is only seen
when all endpoints are listed again does not. -/

namespace BackendRegistrar
open Program

/-- Where endpoints are: their namespace and their name. -/
def Cluster.Endpoints.key (e : Cluster.Endpoints) : String × String := (e.metadata.ns.getD "", e.metadata.nameAny)

namespace Trigger

open Cluster (Endpoints)

theorem endpointsChange_eq (n : Notice Endpoints) : endpointsChange n = n.changed Endpoints.key := by
  cases n <;> rfl

/-- A notice, with the registrars as they are seen when it is told. -/
structure Turn where
  seen : List Registrar
  notice : Notice Endpoints

/-- What the trigger does over some turns. -/
def attend : List Turn → Operation Unit
  | [] => .done ()
  | turn :: rest => (onEndpointsNotice turn.seen turn.notice).bind fun _ => attend rest

/-- A change of endpoints, with the registrars that may have to be reset. -/
structure Call where
  seen : List Registrar
  key : String × String

def Turn.call? (turn : Turn) : Option Call := (endpointsChange turn.notice).map (Call.mk turn.seen)

def refreshAll : List Call → Operation Unit
  | [] => .done ()
  | call :: rest => (refreshForEndpoints call.seen call.key.1 call.key.2).bind fun _ => refreshAll rest

variable {turns between : List Turn} {first : List (Notice Endpoints)} {key : String × String}

/-- The trigger refreshes for each change that is answered, in turn, and does nothing else. -/
theorem attend_eq (turns : List Turn) : attend turns = refreshAll (turns.filterMap Turn.call?) := by
  induction turns with
  | nil => rfl
  | cons turn rest ih =>
    rw [attend, onEndpointsNotice, List.filterMap_cons, Turn.call?]
    cases endpointsChange turn.notice with
    | none => exact ih
    | some key =>
      dsimp only [Option.map]
      rw [refreshAll, Program.bind_assoc, ← ih]
      rfl

/-- For each change that is answered, the registrars that filter on the endpoints and were seen to need a reset are
written. -/
theorem attend_resets {call : Call} {r : Registrar} {trace : Trace environment} {done : Unit}
    (completes : (attend turns).Completes trace done) (member : call ∈ turns.filterMap Turn.call?)
    (among : r ∈ call.seen) (filters : r.spec.filtersOnEndpointsOf call.key.1 call.key.2 = true)
    (seen : r.phase.needsReset = true) : ∃ x ∈ trace, x.op = resetWrite .endpointsChanged r := by
  rw [attend_eq] at completes
  generalize turns.filterMap Turn.call? = calls at completes member
  induction calls generalizing trace with
  | nil => cases member
  | cons first rest ih =>
    obtain ⟨now, later, count, rfl, refreshes, others⟩ := completes_bind.mp completes
    rcases List.mem_cons.mp member with rfl | member
    · obtain ⟨x, inside, same⟩ := resetCounted_completes refreshes (List.mem_filter.mpr ⟨among, filters⟩) seen
      exact ⟨x, List.mem_append_left _ inside, same⟩
    · obtain ⟨x, inside, same⟩ := ih others member
      exact ⟨x, List.mem_append_right _ inside, same⟩

/-- The trigger over notices, with registrars that are always seen alike. -/
theorem runNotices_eq {w : Simulation.World} {seen : List Registrar} {notices : List (Notice Endpoints)} :
    Simulation.runNotices w (fun _ n => onEndpointsNotice seen n) () notices =
      (w.run "" (attend (notices.map (Turn.mk seen)))).2 := by
  induction notices generalizing w with
  | nil => rfl
  | cons n rest ih =>
    change Simulation.runNotices (w.run "" (onEndpointsNotice seen n)).2 _ () rest =
      (Program.run (Simulation.World.answer "") (Program.bind (onEndpointsNotice seen n) _) w).2
    rw [ih, run_bind]
    rfl

/-- The registrars are refreshed for the endpoints with this key. -/
def Refreshed (turns : List Turn) (key : String × String) : Prop := ∃ call ∈ turns.filterMap Turn.call?, call.key = key

theorem refreshed_iff : Refreshed turns key ↔ ∃ turn ∈ turns, turn.notice.changed Endpoints.key = some key := by
  constructor
  · rintro ⟨call, member, rfl⟩
    obtain ⟨turn, among, called⟩ := List.mem_filterMap.mp member
    obtain ⟨answered, told, rfl⟩ := Option.map_eq_some_iff.mp called
    exact ⟨turn, among, endpointsChange_eq _ ▸ told⟩
  · rintro ⟨turn, among, told⟩
    refine ⟨⟨turn.seen, key⟩, List.mem_filterMap.mpr ⟨turn, among, ?_⟩, rfl⟩
    rw [Turn.call?, endpointsChange_eq, told]
    rfl

/-- Without a listing in between, each difference was refreshed for; after one, the others are as it lists them. -/
theorem view_of_not_refreshed (first : List (Notice Endpoints)) (silent : ¬ Refreshed between key) :
    (.listingDone ∉ between.map Turn.notice →
      view Endpoints.key (first ++ between.map Turn.notice) key = view Endpoints.key first key) ∧
    ∀ objects, LastListing (between.map Turn.notice) objects →
      view Endpoints.key (first ++ between.map Turn.notice) key = entry Endpoints.key objects key := by
  have quiet : ∀ n ∈ between.map Turn.notice, n.changed Endpoints.key ≠ some key := by
    intro n member told
    obtain ⟨turn, among, rfl⟩ := List.mem_map.mp member
    exact silent (refreshed_iff.mpr ⟨turn, among, told⟩)
  exact ⟨fun done => view_append_quiet done quiet, fun objects last => view_append_listed last quiet⟩

/-- The trigger refreshes for the endpoints that it is told of one by one. Between two points outside of listings,
each difference of the view comes with such a refresh if and only if the last complete listing has what was shown
before for a key that is not refreshed for. -/
theorem difference_refreshed_iff (listed : Course.fresh.follow first = some .steady)
    (steady : Course.fresh.follow (first ++ between.map Turn.notice) = some .steady) (key : String × String) :
    attend between = refreshAll (between.filterMap Turn.call?) ∧
    ((view Endpoints.key first key ≠ view Endpoints.key (first ++ between.map Turn.notice) key →
        Refreshed between key) ↔
      ∀ objects, LastListing (between.map Turn.notice) objects → ¬ Refreshed between key →
        entry Endpoints.key objects key = view Endpoints.key first key) := by
  refine ⟨attend_eq between, ?_, ?_⟩
  · intro claim objects last silent
    rw [← (view_of_not_refreshed first silent).2 objects last]
    by_contra differs
    exact silent (claim (Ne.symm differs))
  · intro same differs
    by_contra silent
    obtain ⟨kept, relisted⟩ := view_of_not_refreshed first silent
    -- what lies between starts outside of listings, so it completes only listings that it begins
    rw [Course.follow_append, listed, Option.bind_some] at steady
    rcases lastListing_of_follow (by decide) steady with none | ⟨objects, last⟩
    · exact differs (kept none).symm
    · exact differs ((relisted objects last).trans (same objects last silent)).symm

section Relisted

/-! Endpoints that get another address while the watch is cut, so that only a listing tells of it. -/

def shopEndpoints (address : String) : Endpoints :=
  ⟨{ Cluster.Metadata.empty with name := some "shop", ns := some "web" }, [⟨[address], []⟩]⟩

def initialListing : List (Notice Endpoints) := [.listing, .listed (shopEndpoints "10.1.0.1"), .listingDone]

def relisting (seen : List Registrar) : List Turn :=
  [⟨seen, .listing⟩, ⟨seen, .listed (shopEndpoints "10.1.0.2")⟩, ⟨seen, .listingDone⟩]

theorem relisting_refreshed_iff :
    Course.fresh.follow initialListing = some .steady ∧
    Course.fresh.follow (initialListing ++ (relisting []).map Turn.notice) = some .steady ∧
    attend (relisting []) = refreshAll ((relisting []).filterMap Turn.call?) ∧
    ((view Endpoints.key initialListing ("web", "shop") ≠
          view Endpoints.key (initialListing ++ (relisting []).map Turn.notice) ("web", "shop") →
        Refreshed (relisting []) ("web", "shop")) ↔
      ∀ objects, LastListing ((relisting []).map Turn.notice) objects → ¬ Refreshed (relisting []) ("web", "shop") →
        entry Endpoints.key objects ("web", "shop") = view Endpoints.key initialListing ("web", "shop")) :=
  ⟨rfl, rfl, difference_refreshed_iff rfl rfl ("web", "shop")⟩

/-- That the view of endpoints has changed does not tell that anything was refreshed for them. -/
theorem not_refreshed_of_difference :
    ¬ ∀ (first : List (Notice Endpoints)) (between : List Turn) (key : String × String),
      Course.fresh.follow first = some .steady →
        Course.fresh.follow (first ++ between.map Turn.notice) = some .steady →
        view Endpoints.key first key ≠ view Endpoints.key (first ++ between.map Turn.notice) key →
        Refreshed between key := by
  intro claim
  have differs : view Endpoints.key initialListing ("web", "shop") ≠
      view Endpoints.key (initialListing ++ (relisting []).map Turn.notice) ("web", "shop") := by decide
  obtain ⟨call, member, _⟩ := claim initialListing (relisting []) ("web", "shop") rfl rfl differs
  cases member

end Relisted

end Trigger

end BackendRegistrar
