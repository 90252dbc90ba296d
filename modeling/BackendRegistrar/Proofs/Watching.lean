import BackendRegistrar.Trigger.Watch
import Mathlib.Data.List.Induction
import Mathlib.Logic.Function.Basic

/-! What the notices of a watch come to. A listing is shown once it is complete, in place of all that was shown
before; one that is broken off and begun again shows nothing. Between listings single objects come and go. -/

namespace BackendRegistrar.Trigger

variable {α κ : Type}

/-- How far a watch has come: nothing was listed yet, changes are told one by one, or a listing is under way. -/
inductive Course
  | fresh
  | steady
  | listing
deriving DecidableEq, Repr

namespace Course

/-- A listing can be begun at any time, also in place of one that is under way. -/
def after : Course → Notice α → Option Course
  | _, .listing => some .listing
  | .listing, .listed _ => some .listing
  | .listing, .listingDone => some .steady
  | .steady, .applied _ | .steady, .deleted _ => some .steady
  | _, _ => none

def follow (c : Course) (notices : List (Notice α)) : Option Course := notices.foldlM after c

variable {c d : Course} {notices first later : List (Notice α)} {n : Notice α}

theorem follow_append : c.follow (first ++ later) = (c.follow first).bind (·.follow later) := List.foldlM_append

theorem follow_concat : c.follow (notices ++ [n]) = (c.follow notices).bind (·.after n) := by
  rw [follow_append]
  congr 1
  funext d
  cases h : d.after n <;> simp [follow, h]

theorem after_eq_listing (step : c.after n = some .listing) :
    n = .listing ∨ c = .listing ∧ ∃ object, n = .listed object := by
  cases n with
  | listing => exact .inl rfl
  | listed object =>
    cases c with
    | listing => exact .inr ⟨rfl, object, rfl⟩
    | fresh | steady => cases step
  | listingDone | applied _ | deleted _ => cases c <;> cases step

theorem eq_listing_of_done (step : c.after (.listingDone : Notice α) = some d) : c = .listing := by
  cases c with
  | listing => rfl
  | fresh | steady => cases step

/-- A listing that is under way was begun at some point, and has only told objects since then. -/
theorem begun_of_listing (outside : c ≠ .listing) (follows : c.follow notices = some .listing) :
    ∃ (before : List (Notice α)) (objects : List α), notices = before ++ .listing :: objects.map .listed := by
  -- from the end: the last notice began the listing, or told one more of its objects
  induction notices using List.reverseRecOn with
  | nil => exact absurd (Option.some.inj follows) outside
  | append_singleton notices n ih =>
    rw [follow_concat] at follows
    obtain ⟨d, reached, step⟩ := Option.bind_eq_some_iff.mp follows
    rcases after_eq_listing step with rfl | ⟨rfl, object, rfl⟩
    · exact ⟨notices, [], rfl⟩
    · obtain ⟨before, objects, rfl⟩ := ih reached
      exact ⟨before, objects ++ [object], by simp⟩

end Course

/-- The notices end with a listing of these objects, as far as listings go. -/
def LastListing (notices : List (Notice α)) (objects : List α) : Prop :=
  ∃ before after, notices = before ++ .listing :: (objects.map .listed ++ .listingDone :: after) ∧
    .listingDone ∉ after

/-- Outside of listings, a watch has completed none or has a last one. -/
theorem lastListing_of_follow {c d : Course} {notices : List (Notice α)} (outside : c ≠ .listing)
    (follows : c.follow notices = some d) : .listingDone ∉ notices ∨ ∃ objects, LastListing notices objects := by
  by_cases complete : .listingDone ∈ notices
  · obtain ⟨last, rest, reversed, none⟩ := List.eq_append_cons_of_mem (List.mem_reverse.mpr complete)
    obtain rfl : notices = rest.reverse ++ .listingDone :: last.reverse := by
      rw [← List.reverse_reverse notices, reversed]
      simp
    rw [Course.follow_append] at follows
    obtain ⟨e, reached, done⟩ := Option.bind_eq_some_iff.mp follows
    rw [Course.follow, List.foldlM_cons] at done
    obtain ⟨f, step, _⟩ := Option.bind_eq_some_iff.mp done
    obtain rfl := Course.eq_listing_of_done step
    obtain ⟨before, objects, begun⟩ := Course.begun_of_listing outside reached
    refine .inr ⟨objects, before, last.reverse, ?_, by simpa using none⟩
    rw [begun]
    simp
  · exact .inl complete

/-- The key of an object that is told of by itself. -/
def Notice.changed (key : α → κ) : Notice α → Option κ
  | .applied object | .deleted object => some (key object)
  | .listing | .listed _ | .listingDone => none

variable [DecidableEq κ] {key : α → κ} {k : κ}

/-- The objects that are shown under their keys, and those of a listing that is not complete. -/
structure Reflector (κ α : Type) where
  shown : κ → Option α
  listed : κ → Option α

namespace Reflector

def start : Reflector κ α := ⟨fun _ => none, fun _ => none⟩

def observe (key : α → κ) (s : Reflector κ α) : Notice α → Reflector κ α
  | .listing => { s with listed := fun _ => none }
  | .listed object => { s with listed := Function.update s.listed (key object) (some object) }
  | .listingDone => ⟨s.listed, fun _ => none⟩
  | .applied object => { s with shown := Function.update s.shown (key object) (some object) }
  | .deleted object => { s with shown := Function.update s.shown (key object) none }

/-- A key stays as it is if it is not told of, and no listing is completed. -/
theorem observe_quiet {s : Reflector κ α} {n : Notice α} (done : n ≠ .listingDone) (quiet : n.changed key ≠ some k) :
    (s.observe key n).shown k = s.shown k := by
  cases n with
  | listing | listed _ => rfl
  | listingDone => exact absurd rfl done
  | applied object | deleted object =>
    exact Function.update_of_ne (fun same => quiet (congrArg some same.symm)) _ _

theorem foldl_quiet {s : Reflector κ α} {notices : List (Notice α)} (done : .listingDone ∉ notices)
    (quiet : ∀ n ∈ notices, n.changed key ≠ some k) : (notices.foldl (observe key) s).shown k = s.shown k := by
  induction notices generalizing s with
  | nil => rfl
  | cons n rest ih =>
    rw [List.mem_cons, not_or] at done
    rw [List.foldl_cons, ih done.2 fun n member => quiet n (List.mem_cons_of_mem _ member)]
    exact observe_quiet (Ne.symm done.1) (quiet n List.mem_cons_self)

end Reflector

/-- What is shown of all objects after these notices. -/
def view (key : α → κ) (notices : List (Notice α)) : κ → Option α :=
  (notices.foldl (Reflector.observe key) .start).shown

/-- The object that a list has for a key, the last one if there are several. -/
def entry (key : α → κ) (objects : List α) (k : κ) : Option α := objects.reverse.find? fun object => key object = k

theorem entry_cons {object : α} {rest : List α} :
    entry key (object :: rest) k = (entry key rest k).or (if key object = k then some object else none) := by
  rw [entry, List.reverse_cons, List.find?_append]
  by_cases same : key object = k <;> simp [entry, same]

theorem Reflector.foldl_listed {s : Reflector κ α} {objects : List α} :
    (objects.map .listed).foldl (observe key) s =
      { s with listed := fun k => (entry key objects k).or (s.listed k) } := by
  induction objects generalizing s with
  | nil => rfl
  | cons object rest ih =>
    rw [List.map_cons, List.foldl_cons, ih]
    congr 1
    funext k
    rw [entry_cons, Option.or_assoc]
    congr 1
    by_cases same : key object = k
    · subst same
      simp [observe]
    · simp [observe, same, Function.update_of_ne (Ne.symm same)]

variable {first notices : List (Notice α)}

/-- A complete listing takes the place of all that was shown. -/
theorem view_of_listing {objects : List α} :
    view key (first ++ .listing :: (objects.map .listed ++ [.listingDone])) = entry key objects := by
  rw [view, List.foldl_append, List.foldl_cons, List.foldl_append, Reflector.foldl_listed]
  funext k
  exact Option.or_none

theorem view_append_quiet (done : .listingDone ∉ notices) (quiet : ∀ n ∈ notices, n.changed key ≠ some k) :
    view key (first ++ notices) k = view key first k := by
  rw [view, List.foldl_append]
  exact Reflector.foldl_quiet done quiet

/-- A key that is not told of is shown as it was listed last. -/
theorem view_append_listed {objects : List α} (last : LastListing notices objects)
    (quiet : ∀ n ∈ notices, n.changed key ≠ some k) : view key (first ++ notices) k = entry key objects k := by
  obtain ⟨before, after, rfl, done⟩ := last
  have whole : first ++ (before ++ .listing :: (objects.map .listed ++ .listingDone :: after)) =
      ((first ++ before) ++ .listing :: (objects.map .listed ++ [.listingDone])) ++ after := by simp
  rw [whole, view_append_quiet done fun n member => quiet n (by simp [member]), view_of_listing]

end BackendRegistrar.Trigger
