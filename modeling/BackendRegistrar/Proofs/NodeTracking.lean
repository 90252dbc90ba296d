import BackendRegistrar.Proofs.Watching
import Mathlib.Data.Finset.Basic
import Mathlib.Data.Finset.Dedup
import Mathlib.Data.List.Sort
import Mathlib.Data.String.Basic

/-! What the tracker of nodes knows. Outside of listings it is what was listed last, with the nodes that came and
went since then. So no difference between two such points goes without a change that is answered in between. -/

namespace BackendRegistrar

def Cluster.Node.name (node : Cluster.Node) : String := node.metadata.nameAny

namespace Trigger

open Cluster (Node)

/-- Only the end of a listing leads to where changes are told one by one. -/
theorem Course.not_steady {α : Type} {c d : Course} {notices : List (Notice α)} (start : c ≠ .steady)
    (none : .listingDone ∉ notices) (follows : c.follow notices = some d) : d ≠ .steady := by
  induction notices generalizing c with
  | nil =>
    obtain rfl := Option.some.inj follows
    exact start
  | cons n rest ih =>
    rw [List.mem_cons, not_or] at none
    rw [follow, List.foldlM_cons] at follows
    obtain ⟨e, step, later⟩ := Option.bind_eq_some_iff.mp follows
    refine ih ?_ none.2 later
    rintro rfl
    cases n with
    | listingDone => exact none.1 rfl
    | listing | listed _ => cases c <;> cases step
    | applied _ | deleted _ =>
      cases c with
      | steady => exact start rfl
      | fresh | listing => cases step

/-- The notices end with a complete listing of these objects, and what was told after it. -/
def ListedThen {α : Type} (notices : List (Notice α)) (objects : List α) (later : List (Notice α)) : Prop :=
  ∃ before, notices = before ++ .listing :: (objects.map .listed ++ .listingDone :: later) ∧ .listingDone ∉ later

theorem listedThen_of_steady {α : Type} {notices : List (Notice α)}
    (steady : Course.fresh.follow notices = some .steady) : ∃ objects later, ListedThen notices objects later := by
  rcases lastListing_of_follow (by decide) steady with none | ⟨objects, before, later, whole, none⟩
  · exact absurd rfl (Course.not_steady (by decide) none steady)
  · exact ⟨objects, later, before, whole, none⟩

/-- What becomes of names when nodes come and go one by one. A listing that is under way adds nothing. -/
def amend (names : Finset String) : Notice Node → Finset String
  | .applied node => insert node.name names
  | .deleted node => names.erase node.name
  | .listing | .listed _ | .listingDone => names

def listedNames (objects : List Node) : Finset String := (objects.map Node.name).toFinset

namespace NodeTracker

variable {t : NodeTracker} {n : Notice Node} {notices later : List (Notice Node)} {name other : String}

theorem mem_insertName {all : List String} : other ∈ insertName name all ↔ other = name ∨ other ∈ all := by
  induction all with
  | nil => simp [insertName]
  | cons first rest ih =>
    rw [insertName]
    split
    next same =>
      subst same
      simp
    next =>
      split
      · rw [List.mem_cons]
      · rw [List.mem_cons, ih, List.mem_cons, or_left_comm]

theorem insertName_ascending {all : List String} (ascending : all.Pairwise (· < ·)) :
    (insertName name all).Pairwise (· < ·) := by
  induction all with
  | nil => exact List.pairwise_singleton _ _
  | cons first rest ih =>
    obtain ⟨least, others⟩ := List.pairwise_cons.mp ascending
    rw [insertName]
    split
    next => exact ascending
    next different =>
      split
      next before =>
        refine List.pairwise_cons.mpr ⟨?_, ascending⟩
        intro other member
        rcases List.mem_cons.mp member with rfl | member
        · exact before
        · exact lt_trans before (least other member)
      next notBefore =>
        refine List.pairwise_cons.mpr ⟨?_, ih others⟩
        intro other member
        rcases mem_insertName.mp member with rfl | member
        · exact lt_of_le_of_ne (not_lt.mp notBefore) (Ne.symm different)
        · exact least other member

/-- The names are kept in order, each once. -/
structure Ordered (t : NodeTracker) : Prop where
  known : t.known.Pairwise (· < ·)
  relisting : t.relisting.Pairwise (· < ·)

theorem Ordered.observe (ordered : t.Ordered) (n : Notice Node) : (t.observe n).1.Ordered := by
  cases n with
  | listing => exact ⟨ordered.known, .nil⟩
  | listed node => exact ⟨ordered.known, insertName_ascending ordered.relisting⟩
  | listingDone => exact ⟨ordered.relisting, .nil⟩
  | applied node => exact ⟨insertName_ascending ordered.known, ordered.relisting⟩
  | deleted node => exact ⟨ordered.known.filter _, ordered.relisting⟩

/-- The tracker after some notices. -/
def after (t : NodeTracker) (notices : List (Notice Node)) : NodeTracker :=
  notices.foldl (fun t n => (t.observe n).1) t

/-- The changes that are answered to some notices, in order. -/
def changes (t : NodeTracker) : List (Notice Node) → List NodeChange
  | [] => []
  | n :: rest => (t.observe n).2.toList ++ (t.observe n).1.changes rest

def names (t : NodeTracker) : Finset String := t.known.toFinset

theorem after_append : t.after (notices ++ later) = (t.after notices).after later := List.foldl_append

theorem Ordered.after (ordered : t.Ordered) (notices : List (Notice Node)) : (t.after notices).Ordered := by
  induction notices generalizing t with
  | nil => exact ordered
  | cons n rest ih => exact ih (ordered.observe n)

theorem start_ordered : start.Ordered := ⟨.nil, .nil⟩

theorem seeded_after : (t.after notices).seeded = true ↔ t.seeded = true ∨ .listingDone ∈ notices := by
  induction notices generalizing t with
  | nil => simp [after]
  | cons n rest ih =>
    change ((t.observe n).1.after rest).seeded = true ↔ _
    rw [ih, List.mem_cons]
    cases n <;> simp [observe]

theorem names_observe (single : n ≠ .listingDone) : (t.observe n).1.names = amend t.names n := by
  cases n with
  | listing | listed _ => rfl
  | listingDone => exact absurd rfl single
  | applied node =>
    ext name
    simp [observe, names, amend, mem_insertName, Node.name]
  | deleted node =>
    ext name
    simp [observe, names, amend, Node.name, and_comm]

theorem names_after (none : .listingDone ∉ later) : (t.after later).names = later.foldl amend t.names := by
  induction later generalizing t with
  | nil => rfl
  | cons n rest ih =>
    rw [List.mem_cons, not_or] at none
    rw [List.foldl_cons, ← names_observe (Ne.symm none.1)]
    exact ih none.2

theorem relisting_after_listed {objects : List Node} :
    (t.after (objects.map .listed)).relisting.toFinset = t.relisting.toFinset ∪ listedNames objects := by
  induction objects generalizing t with
  | nil => simp [after, listedNames]
  | cons node rest ih =>
    change ((t.observe (.listed node)).1.after (rest.map .listed)).relisting.toFinset = _
    rw [ih]
    ext name
    simp [observe, listedNames, mem_insertName, Node.name, or_assoc, or_left_comm]

/-- Whatever came before, after a complete listing the names are the listed ones. -/
theorem names_of_listing {objects : List Node} :
    (t.after (.listing :: (objects.map .listed ++ [.listingDone]))).names = listedNames objects := by
  change ((t.observe .listing).1.after (objects.map .listed ++ [.listingDone])).names = _
  rw [after_append]
  change ((t.observe .listing).1.after (objects.map .listed)).relisting.toFinset = _
  rw [relisting_after_listed]
  simp [observe]

theorem names_of_listedThen {objects : List Node} (listed : ListedThen notices objects later) :
    (start.after notices).names = later.foldl amend (listedNames objects) := by
  obtain ⟨before, rfl, none⟩ := listed
  have whole : before ++ .listing :: (objects.map .listed ++ .listingDone :: later) =
      (before ++ .listing :: (objects.map .listed ++ [.listingDone])) ++ later := by simp
  rw [whole, after_append, names_after none, after_append, names_of_listing]

/-- What is answered once the nodes were listed. -/
structure Answers (t : NodeTracker) (n : Notice Node) : Prop where
  created (name : String) : (t.observe n).2 = some (.created name) ↔
    ∃ node, n = .applied node ∧ node.name = name ∧ name ∉ t.names
  deleted (name : String) : (t.observe n).2 = some (.deleted name) ↔ ∃ node, n = .deleted node ∧ node.name = name
  resynced : (t.observe n).2 = some .resynced ↔ n = .listingDone ∧ (t.observe n).1.names ≠ t.names
  changed : (t.observe n).2 ≠ none ↔ (∃ node, n = .deleted node) ∨ (t.observe n).1.names ≠ t.names

theorem answer_applied (node : Node) :
    (t.observe (.applied node)).2 = if node.name ∈ t.names then none else some (.created node.name) := by
  simp [observe, names, Node.name]

/-- A listing is compared name by name, as both lists are in order. -/
theorem Ordered.answer_listingDone (ordered : t.Ordered) (seeded : t.seeded = true) :
    (t.observe .listingDone).2 = if t.relisting.toFinset = t.names then none else some .resynced := by
  have same : t.relisting = t.known ↔ t.relisting.toFinset = t.names := by
    constructor
    · intro equal
      rw [equal]
      rfl
    · intro equal
      apply ordered.relisting.eq_of_mem_iff ordered.known
      intro name
      rw [← List.mem_toFinset, equal]
      exact List.mem_toFinset
  simp only [NodeTracker.observe, seeded, true_and, ne_eq, same, ite_not]

theorem Ordered.answers (ordered : t.Ordered) (seeded : t.seeded = true) (n : Notice Node) : Answers t n := by
  cases n with
  | listing | listed node => constructor <;> simp [NodeTracker.observe, names]
  | listingDone =>
    have answer := ordered.answer_listingDone seeded
    have renamed : (t.observe .listingDone).1.names = t.relisting.toFinset := rfl
    by_cases same : t.relisting.toFinset = t.names
    all_goals constructor <;> simp [answer, renamed, same]
  | applied node =>
    have answer := t.answer_applied node
    have renamed : (t.observe (.applied node)).1.names = insert node.name t.names := names_observe (by simp)
    by_cases known : node.name ∈ t.names
    all_goals constructor <;> simp [answer, renamed, known]
  | deleted node => constructor <;> simp [NodeTracker.observe, Node.name]

/-- Until the end of the first listing nothing is answered. -/
theorem silent_of_unlisted {c : Course} (follows : Course.fresh.follow (notices ++ [n]) = some c)
    (none : .listingDone ∉ notices) : ((start.after notices).observe n).2 = Option.none := by
  rw [Course.follow_concat] at follows
  obtain ⟨d, reached, step⟩ := Option.bind_eq_some_iff.mp follows
  have unsteady : d ≠ .steady := Course.not_steady (by decide) none reached
  cases n with
  | listing | listed _ => rfl
  | listingDone =>
    have unseeded : ¬ (start.after notices).seeded = true := by
      rw [seeded_after]
      simp [start, none]
    simp [observe, unseeded]
  | applied _ | deleted _ =>
    cases d with
    | steady => exact absurd rfl unsteady
    | fresh | listing => cases step

/-- Without an answer, no name comes or goes. -/
theorem names_of_no_changes (ordered : t.Ordered) (seeded : t.seeded = true) (none : t.changes notices = []) :
    (t.after notices).names = t.names := by
  induction notices generalizing t with
  | nil => rfl
  | cons n rest ih =>
    obtain ⟨first, others⟩ := List.append_eq_nil_iff.mp none
    have unanswered : (t.observe n).2 = Option.none := Option.toList_eq_nil_iff.mp first
    have same : (t.observe n).1.names = t.names := by
      by_contra differs
      exact (ordered.answers seeded n).changed.mpr (.inr differs) unanswered
    have still : (t.after [n]).seeded = true := seeded_after.mpr (.inl seeded)
    exact (ih (ordered.observe n) still others).trans same

/-- Outside of listings the tracker knows the names that were listed last, with those that came since then and without
those that went. It answers nothing up to the end of the first listing, and from then on exactly deletions and changes
of what it knows. So where the names of two points outside of listings differ, a change was answered in between. -/
theorem tracker_follows :
    (∀ notices : List (Notice Node), Course.fresh.follow notices = some .steady →
      (∃ objects later, ListedThen notices objects later) ∧
        ∀ objects later, ListedThen notices objects later →
          (start.after notices).names = later.foldl amend (listedNames objects)) ∧
    (∀ (notices : List (Notice Node)) (n : Notice Node) (c : Course),
      Course.fresh.follow (notices ++ [n]) = some c →
        (.listingDone ∉ notices → ((start.after notices).observe n).2 = none) ∧
        (.listingDone ∈ notices → Answers (start.after notices) n)) ∧
    ∀ first between : List (Notice Node), Course.fresh.follow first = some .steady →
      Course.fresh.follow (first ++ between) = some .steady →
        (start.after first).names ≠ (start.after (first ++ between)).names →
          (start.after first).changes between ≠ [] := by
  have ordered (notices : List (Notice Node)) : (start.after notices).Ordered := start_ordered.after notices
  refine ⟨?_, ?_, ?_⟩
  · intro notices steady
    exact ⟨listedThen_of_steady steady, fun objects later => names_of_listedThen⟩
  · intro notices n c follows
    exact ⟨silent_of_unlisted follows, fun listed => (ordered notices).answers (seeded_after.mpr (.inr listed)) n⟩
  · intro first between steady _ differs none
    obtain ⟨objects, later, before, whole, _⟩ := listedThen_of_steady steady
    have seeded : (start.after first).seeded = true := seeded_after.mpr (.inr (by simp [whole]))
    rw [after_append] at differs
    exact differs (names_of_no_changes (ordered first) seeded none).symm

section Relisted

/-! A watch that is cut twice: the first listing after that is broken off, the second finds a node more. -/

def bareNode (name : String) : Node := ⟨{ Cluster.Metadata.empty with name := some name }, []⟩

def firstListing : List (Notice Node) := [.listing, .listed (bareNode "a"), .listingDone]

def cutWatch : List (Notice Node) :=
  [.listing, .listed (bareNode "z"), .listing, .listed (bareNode "b"), .listed (bareNode "a"), .listingDone,
    .applied (bareNode "c"), .deleted (bareNode "a")]

example : (start.after firstListing).changes cutWatch = [.resynced, .created "c", .deleted "a"] := by decide

theorem cut_watch_followed :
    Course.fresh.follow firstListing = some .steady ∧
    Course.fresh.follow (firstListing ++ cutWatch) = some .steady ∧
    ListedThen (firstListing ++ cutWatch) [bareNode "b", bareNode "a"]
      [.applied (bareNode "c"), .deleted (bareNode "a")] ∧
    (start.after (firstListing ++ cutWatch)).names =
      [.applied (bareNode "c"), .deleted (bareNode "a")].foldl amend (listedNames [bareNode "b", bareNode "a"]) ∧
    ((start.after [.listing]).observe .listingDone).2 = none ∧
    Answers (start.after firstListing) (.applied (bareNode "b")) ∧
    (start.after firstListing).names ≠ (start.after (firstListing ++ cutWatch)).names ∧
    (start.after firstListing).changes cutWatch ≠ [] := by
  have steady : Course.fresh.follow (firstListing ++ cutWatch) = some .steady := rfl
  have listed : ListedThen (firstListing ++ cutWatch) [bareNode "b", bareNode "a"]
      [.applied (bareNode "c"), .deleted (bareNode "a")] :=
    ⟨firstListing ++ [.listing, .listed (bareNode "z")], rfl, by decide⟩
  have differs : (start.after firstListing).names ≠ (start.after (firstListing ++ cutWatch)).names := by decide
  have silent := (tracker_follows.2.1 [.listing] .listingDone .steady rfl).1 (by decide)
  have answered := (tracker_follows.2.1 firstListing (.applied (bareNode "b")) .steady rfl).2 (by decide)
  exact ⟨rfl, steady, listed, (tracker_follows.1 _ steady).2 _ _ listed, silent, answered, differs,
    tracker_follows.2.2 _ _ rfl steady differs⟩

end Relisted

end NodeTracker

end Trigger

end BackendRegistrar
