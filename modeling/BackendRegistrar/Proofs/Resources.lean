import BackendRegistrar.Proofs.Addresses
import BackendRegistrar.Proofs.Paths
import BackendRegistrar.Proofs.Protocol
import BackendRegistrar.Validation

/-! Which resource the address of a backend set names. It names the set of a load balancer if their names stand for
themselves in an address; other names are read as more segments or fewer, and may name the set of another. -/

namespace BackendRegistrar.Url

open BackendRegistrar.Url.Path

variable {u : Url} {text : List Char} {stem : List (List Char)}

/-- An address with a text written after it: unless there are marks in the text, the stem goes on by its segments. -/
structure Continues (stem : List (List Char)) (text : List Char) (u : Url) : Prop where
  bare : u.query = none ∧ u.fragment = none ↔ '?' ∉ text ∧ '#' ∉ text
  path : '?' ∉ text → '#' ∉ text → ∀ segments last, split true text = segments ++ [last] →
    u.path = join (walk stem (segments ++ [last]) ++ ending last)

/-- A path is its stem, perhaps with a slash at the end. -/
structure IsStem (stem : List (List Char)) (path : List Char) : Prop where
  slashless : Slashless stem
  path : path = join stem ∨ path = join (stem ++ [[]])

/-- An address of the web without a query and a fragment goes on from the stem of its path. -/
theorem parse_continues {base : String} (parsed : parse base = .ok u)
    (web : u.scheme = "http".toList ∨ u.scheme = "https".toList) (unasked : u.query = none) (unmarked : u.fragment = none)
    (unpadded : Unpadded base.toList) :
    ∃ stem, IsStem stem u.path ∧ ∀ (address : String) (more : List Char),
      address.toList = base.toList ++ '/' :: more → ∃ url, parse address = .ok url ∧ Continues stem (tidied more) url := by
  have special : isSpecial u.scheme = true := by rcases web with same | same <;> rw [same] <;> rfl
  have other : u.scheme ≠ "file".toList := by rcases web with same | same <;> rw [same] <;> decide
  obtain ⟨a, before, same, ends, reads⟩ := parse_append parsed special other unpadded
  have bare : (splitTail true before).2 = (none, none) := by
    rw [same] at unasked unmarked
    exact Prod.ext unasked unmarked
  obtain ⟨noQuery, noFragment⟩ := (splitTail_bare_iff true).mp bare
  have path : u.path = hierarchical true before := by
    rw [same]
    exact congrArg (hierarchical true) (splitTail_bare true noQuery noFragment)
  have begins : ∀ c, before.head? = some c → isSlash true c = true := by
    intro c first
    have member : c ∈ before := List.mem_of_mem_head? first
    have ended := ends c first
    simp only [endsAuthority, Bool.or_eq_true, beq_iff_eq] at ended
    rcases ended with (slash | rfl) | rfl
    · exact slash
    · exact absurd member noQuery
    · exact absurd member noFragment
  refine ⟨Path.stem before, ⟨stem_slashless, path ▸ hierarchical_eq_stem begins⟩, ?_⟩
  intro address more written
  have asked : '?' ∉ before ++ '/' :: tidied more ↔ '?' ∉ tidied more := by simp [noQuery]
  have marked : '#' ∉ before ++ '/' :: tidied more ↔ '#' ∉ tidied more := by simp [noFragment]
  refine ⟨_, reads address more written, ?_, ?_⟩
  · rw [← asked, ← marked, ← splitTail_bare_iff true, Prod.ext_iff]
    rfl
  · intro noQuery noFragment segments last whole
    change hierarchical true (splitTail true (before ++ '/' :: tidied more)).1 = _
    rw [splitTail_bare true (asked.mpr noQuery) (marked.mpr noFragment), hierarchical_append begins whole]

/-- A path ends in a slash only after an empty segment. -/
theorem empty_of_joined {before : List Char} (slashless : Slashless stem) (joined : join stem = before ++ ['/']) :
    ∃ segments, stem = segments ++ [[]] ∧ before = join segments := by
  rcases List.eq_nil_or_concat' stem with rfl | ⟨segments, last, rfl⟩
  · simp [join] at joined
  · rw [join_append] at joined
    rcases List.eq_nil_or_concat' last with rfl | ⟨beginning, c, rfl⟩
    · exact ⟨segments, rfl, (List.append_cancel_right joined).symm⟩
    · have shape : join segments ++ join [beginning ++ [c]] = (join segments ++ '/' :: beginning) ++ [c] := by simp [join]
      have slash : c = '/' := List.singleton_inj.mp (List.append_inj' (shape.symm.trans joined) rfl).2
      have absent := slashless (beginning ++ [c]) (by simp)
      rw [slash] at absent
      exact absurd (by simp) absent

/-- What a path of this stem begins with, but for a slash at its end. -/
theorem IsStem.beginning {path before : List Char} (whole : IsStem stem path)
    (begins : before = path ∨ before ++ ['/'] = path) :
    ∃ segments, Slashless segments ∧ before = join segments ∧
      (segments = stem ∨ segments = stem ++ [[]] ∨ segments ++ [[]] = stem) := by
  have longer : Slashless (stem ++ [[]]) := slashless_append.mpr ⟨whole.slashless, by simp [Slashless]⟩
  have ended : ∀ segments, join (segments ++ [[]]) = join segments ++ ['/'] := fun _ => join_append
  rcases begins with same | same
  · rcases whole.path with path | path
    · exact ⟨stem, whole.slashless, same.trans path, .inl rfl⟩
    · exact ⟨stem ++ [[]], longer, same.trans path, .inr (.inl rfl)⟩
  · rcases whole.path with path | path
    · obtain ⟨segments, rfl, joined⟩ := empty_of_joined whole.slashless (path.symm.trans same.symm)
      exact ⟨segments, (slashless_append.mp whole.slashless).1, joined, .inr (.inr rfl)⟩
    · rw [ended, ← same] at path
      exact ⟨stem, whole.slashless, List.append_cancel_right path, .inl rfl⟩

end BackendRegistrar.Url

namespace BackendRegistrar.Cloud.Client

open Url Url.Path

variable {c : Client} {base : Url} {id name : String} {stem : List (List Char)}

/-- Whether a character ends a segment, or is not read at all. -/
def cutsSegment (c : Char) : Bool := ['/', '\\', '?', '#', '\t', '\n', '\r'].contains c

/-- A name that stands for itself as a segment of an address. -/
structure Plain (s : String) : Prop where
  uncut : ∀ c ∈ s.toList, cutsSegment c = false
  unescaped : hasEscape s.toList = false
  undotted : s ≠ "." ∧ s ≠ ".."

namespace Plain

variable {s : String}

theorem absent {mark : Char} (plain : Plain s) (cuts : cutsSegment mark = true) : mark ∉ s.toList := by
  intro member
  rw [plain.uncut mark member] at cuts
  cases cuts

theorem counted (plain : Plain s) : s.toList.filter counts = s.toList := by
  rw [List.filter_eq_self]
  intro c member
  have uncut := plain.uncut c member
  simp only [cutsSegment, List.contains_cons, Bool.or_eq_false_iff, beq_eq_false_iff_ne] at uncut
  simp [counts, uncut]

theorem unsplit (plain : Plain s) : split true s.toList = [s.toList] := by
  apply Text.pieces_of_unseparated
  intro c member
  have uncut := plain.uncut c member
  simp only [cutsSegment, List.contains_cons, Bool.or_eq_false_iff] at uncut
  simp [isSlash, uncut]

theorem notDots (plain : Plain s) : isDots s.toList = false := by
  have spelled : ∀ t : String, s.toList = t.toList → s = t := fun t same => String.toList_inj.mp same
  cases dots : isDots s.toList with
  | false => rfl
  | true =>
    rcases (isDots_iff plain.unescaped).mp dots with double | single
    · exact absurd (spelled ".." double) plain.undotted.2
    · exact absurd (spelled "." single) plain.undotted.1

theorem decodes (plain : Plain s) : percentDecode (percentEncode encodedInPath s.toList) = Text.octets s := by
  rw [percentDecode_percentEncode, percentDecode_of_unescaped plain.unescaped, Text.octets_eq, spelled]

theorem eq_of_encoded {t : String} (plain : Plain s) (other : Plain t)
    (same : percentEncode encodedInPath t.toList = percentEncode encodedInPath s.toList) : t = s := by
  apply Text.octets_injective
  rw [← other.decodes, same, plain.decodes]

/-- A piece of a name stands for the name only if there are no other pieces, and the name stands for itself. -/
theorem of_piece {text piece : List Char} (within : text.Sublist s.toList) (counted : ∀ c ∈ text, counts c = true)
    (unasked : '?' ∉ text) (unmarked : '#' ∉ text) (member : piece ∈ split true text) (written : isDots piece = false)
    (same : percentDecode (percentEncode encodedInPath piece) = Text.octets s) : Plain s ∧ piece = s.toList := by
  rw [percentDecode_percentEncode, Text.octets_eq] at same
  obtain ⟨whole, unescaped⟩ := eq_of_percentDecode ((Text.sublist_of_mem_pieces member).trans within) same
  refine ⟨⟨?_, unescaped, ?_⟩, whole⟩
  · intro c inside
    obtain ⟨joins, among⟩ := Text.mem_pieces member (whole ▸ inside)
    have read := counted c among
    have noQuery : c ≠ '?' := fun same => unasked (same ▸ among)
    have noFragment : c ≠ '#' := fun same => unmarked (same ▸ among)
    simp only [isSlash, Bool.true_and, Bool.or_eq_false_iff, beq_eq_false_iff_ne] at joins
    simp only [counts, decide_eq_true_eq] at read
    simp [cutsSegment, joins, read, noQuery, noFragment]
  · rw [whole] at written
    constructor
    · rintro rfl
      cases written
    · rintro rfl
      cases written

end Plain

/-- An address of a set is that of the service, and after it four segments: that of all load balancers, one for this
one, that of all sets, and one for this set. -/
structure Points (c : Client) (path : List Char) (id name : String) (url : Url) : Prop where
  queryless : url.query = none
  fragmentless : url.fragment = none
  segments : ∃ before first second, (before = path ∨ before ++ ['/'] = path) ∧
    url.path = before ++ join [c.kind.collection.toList, first, "backendSets".toList, second] ∧
    '/' ∉ first ∧ '/' ∉ second ∧ percentDecode first = Text.octets id ∧ percentDecode second = Text.octets name

/-- The address that requests for a set are sent to is one of this set. -/
def Addresses (c : Client) (base : Url) (id name : String) : Prop :=
  ∃ url, Url.parse (c.setUrl id name) = .ok url ∧ c.Points base.path id name url

/-- What is written after the address of the service, as far as it counts. -/
def setText (c : Client) (id name : String) : List Char :=
  c.kind.collection.toList ++ '/' :: (id.toList.filter counts ++ '/' :: ("backendSets".toList ++ '/' :: tidied name.toList))

theorem setUrl_toList :
    (c.setUrl id name).toList =
      c.baseUrl.toList ++ '/' :: (c.kind.collection.toList ++ '/' :: id.toList ++ '/' :: "backendSets".toList ++ '/' :: name.toList) := by
  simp [setUrl]

theorem tidied_setUrl :
    tidied (c.kind.collection.toList ++ '/' :: id.toList ++ '/' :: "backendSets".toList ++ '/' :: name.toList) =
      c.setText id name := by
  have visible : isBlank '/' = false := rfl
  have collection : c.kind.collection.toList.filter counts = c.kind.collection.toList := by cases c.kind <;> rfl
  have sets : "backendSets".toList.filter counts = "backendSets".toList := rfl
  have counted : counts '/' = true := rfl
  rw [tidied_append visible]
  simp only [List.filter_append, List.filter_cons_of_pos, counted, collection, sets, setText, List.filter_nil,
    List.append_assoc, List.cons_append, List.nil_append]

theorem split_setText :
    split true (c.setText id name) =
      c.kind.collection.toList :: (split true (id.toList.filter counts) ++ "backendSets".toList :: split true (tidied name.toList)) := by
  have slash : isSlash true '/' = true := rfl
  have collection : split true c.kind.collection.toList = [c.kind.collection.toList] := by cases c.kind <;> rfl
  have sets : split true "backendSets".toList = ["backendSets".toList] := rfl
  have parted : ∀ first second, split true (first ++ '/' :: second) = split true first ++ split true second :=
    Text.pieces_append slash
  rw [setText, parted, parted, parted, collection, sets]
  rfl

theorem tidied_of_plain (plain : Plain name) (unpadded : Unpadded name.toList) : tidied name.toList = name.toList := by
  rw [tidied_of_unpadded unpadded, plain.counted]

/-- With names that stand for themselves the address goes on by four segments. -/
theorem path_of_plain {url : Url} (continues : Continues stem (c.setText id name) url) (first : Plain id) (second : Plain name)
    (unpadded : Unpadded name.toList) :
    url.query = none ∧ url.fragment = none ∧
      url.path = join (stem ++ [c.kind.collection.toList, percentEncode encodedInPath id.toList, "backendSets".toList,
        percentEncode encodedInPath name.toList]) := by
  have tidy := tidied_of_plain second unpadded
  have collection : isDots c.kind.collection.toList = false ∧
      percentEncode encodedInPath c.kind.collection.toList = c.kind.collection.toList := by
    cases c.kind <;> exact ⟨rfl, rfl⟩
  have sets : isDots "backendSets".toList = false ∧
      percentEncode encodedInPath "backendSets".toList = "backendSets".toList := ⟨rfl, rfl⟩
  have unmarked : ∀ mark, cutsSegment mark = true → mark ≠ '/' → mark ∉ c.kind.collection.toList →
      mark ∉ "backendSets".toList → mark ∉ c.setText id name := by
    intro mark cuts slashless noCollection noSets
    simp only [setText, first.counted, tidy, List.mem_append, List.mem_cons, not_or]
    exact ⟨noCollection, slashless, first.absent cuts, slashless, noSets, slashless, second.absent cuts⟩
  have noQuery : '?' ∉ c.setText id name :=
    unmarked '?' rfl (by decide) (by cases c.kind <;> decide) (by decide)
  have noFragment : '#' ∉ c.setText id name :=
    unmarked '#' rfl (by decide) (by cases c.kind <;> decide) (by decide)
  have whole : split true (c.setText id name) =
      [c.kind.collection.toList, id.toList, "backendSets".toList] ++ [name.toList] := by
    rw [split_setText, first.counted, tidy, first.unsplit, second.unsplit]
    rfl
  obtain ⟨queryless, fragmentless⟩ := continues.bare.mpr ⟨noQuery, noFragment⟩
  refine ⟨queryless, fragmentless, ?_⟩
  rw [continues.path noQuery noFragment _ _ whole, ending, second.notDots]
  simp only [walk, List.foldl_append, List.foldl_cons, List.foldl_nil, follow_of_plain collection.1,
    follow_of_plain first.notDots, follow_of_plain sets.1, follow_of_plain second.notDots, collection.2, sets.2]
  simp

theorem path_slashless {path : List Char} (stemmed : IsStem stem path) (first : Plain id) (second : Plain name) :
    Slashless (stem ++ [c.kind.collection.toList, percentEncode encodedInPath id.toList, "backendSets".toList,
      percentEncode encodedInPath name.toList]) := by
  have collection : '/' ∉ c.kind.collection.toList := by cases c.kind <;> decide
  have unsplitId : '/' ∉ percentEncode encodedInPath id.toList := slash_notMem_percentEncode (first.absent rfl)
  have unsplitName : '/' ∉ percentEncode encodedInPath name.toList := slash_notMem_percentEncode (second.absent rfl)
  refine slashless_append.mpr ⟨stemmed.slashless, ?_⟩
  simp [Slashless, collection, unsplitId, unsplitName]

/-- How a path ends: with the last segment that was written, or with none after dots. -/
theorem ended {done segments rest : List (List Char)} {last final : List Char}
    (same : walk done (segments ++ [last]) ++ ending last = rest ++ [final]) :
    isDots last = true ∧ final = [] ∨
      isDots last = false ∧ final = percentEncode encodedInPath last ∧ walk done segments = rest := by
  cases dots : isDots last with
  | true =>
    rw [ending, dots] at same
    exact .inl ⟨rfl, (List.singleton_inj.mp (List.append_inj' same rfl).2).symm⟩
  | false =>
    rw [ending, dots, walk_append, walk, walk, List.foldl_cons, List.foldl_nil, follow_of_plain dots] at same
    have parts := List.append_inj' ((List.append_nil _).symm.trans same) rfl
    exact .inr ⟨rfl, (List.singleton_inj.mp parts.2).symm, parts.1⟩

/-- No dots lead back to the collection behind a stem: what stands there was written after it. -/
theorem written_after {collection first : List Char} {segments pieces : List (List Char)} (some : collection ≠ [])
    (near : segments = stem ∨ segments = stem ++ [[]] ∨ segments ++ [[]] = stem)
    (same : walk (stem ++ [collection]) pieces = segments ++ [collection, first]) :
    ∃ piece ∈ pieces, isDots piece = false ∧ first = percentEncode encodedInPath piece := by
  obtain ⟨kept, written, whole, within, made⟩ := walk_kept (stem ++ [collection]) pieces
  rw [whole] at same
  rcases List.eq_nil_or_concat' written with rfl | ⟨others, last, rfl⟩
  · -- Without anything written the segments would be those behind the stem, which are too few or in the wrong place.
    rw [List.append_nil] at same
    rw [same] at within
    have short := within.length_le
    rcases near with rfl | rfl | rfl
    · simp at short
    · simp at short
    · have all := within.eq_of_length (by simp)
      simp at all
      exact absurd all.1 some
  · have parted : kept ++ others ++ [last] = segments ++ [collection] ++ [first] := by simpa using same
    have final : last = first := List.singleton_inj.mp (List.append_inj' parted rfl).2
    obtain ⟨piece, member, plain, encoded⟩ := made last (by simp)
    exact ⟨piece, member, plain, final ▸ encoded⟩

/-- The segments of an address of a set are those that were written, resolved. -/
theorem segments_of_points {url : Url} {path : List Char} {pieces : List (List Char)} {final : List Char}
    (stemmed : IsStem stem path) (continues : Continues stem (c.setText id name) url) (points : c.Points path id name url)
    (parted : split true (tidied name.toList) = pieces ++ [final]) :
    ∃ segments first second, (segments = stem ∨ segments = stem ++ [[]] ∨ segments ++ [[]] = stem) ∧
      walk stem (c.kind.collection.toList :: split true (id.toList.filter counts) ++ "backendSets".toList :: pieces ++ [final]) ++
          ending final =
        segments ++ [c.kind.collection.toList, first] ++ ["backendSets".toList] ++ [second] ∧
      percentDecode first = Text.octets id ∧ percentDecode second = Text.octets name := by
  obtain ⟨before, first, second, begins, found, unsplit, last, named, shown⟩ := points.segments
  obtain ⟨noQuery, noFragment⟩ := continues.bare.mp ⟨points.queryless, points.fragmentless⟩
  obtain ⟨segments, slashless, rfl, near⟩ := stemmed.beginning begins
  have whole : split true (c.setText id name) =
      c.kind.collection.toList :: split true (id.toList.filter counts) ++ "backendSets".toList :: pieces ++ [final] := by
    rw [split_setText, parted]
    simp
  have collection : '/' ∉ c.kind.collection.toList := by cases c.kind <;> decide
  have written : Slashless (segments ++ [c.kind.collection.toList, first, "backendSets".toList, second]) := by
    refine slashless_append.mpr ⟨slashless, ?_⟩
    simp [Slashless, collection, unsplit, last]
  have resolved : Slashless (walk stem (c.kind.collection.toList :: split true (id.toList.filter counts) ++
      "backendSets".toList :: pieces ++ [final]) ++ ending final) := by
    refine slashless_append.mpr ⟨walk_slashless stemmed.slashless ?_, ?_⟩
    · rw [← whole]
      exact split_slashless true _
    · unfold ending
      split <;> simp [Slashless]
  refine ⟨segments, first, second, near, ?_, named, shown⟩
  rw [continues.path noQuery noFragment _ _ whole, ← join_append] at found
  rw [join_injective resolved written found]
  simp

theorem notMem_of_setText {mark : Char} (absent : mark ∉ c.setText id name) :
    mark ∉ id.toList.filter counts ∧ mark ∉ tidied name.toList := by
  simp only [setText, List.mem_append, List.mem_cons, not_or] at absent
  exact ⟨absent.2.2.1, absent.2.2.2.2.2.2⟩

/-- Only with names that stand for themselves is it an address of the set. -/
theorem plain_of_points {url : Url} {path : List Char} (stemmed : IsStem stem path)
    (continues : Continues stem (c.setText id name) url) (points : c.Points path id name url) :
    Plain id ∧ Plain name ∧ Unpadded name.toList := by
  obtain ⟨pieces, final, parted⟩ := exists_split true (tidied name.toList)
  obtain ⟨segments, first, second, near, same, named, shown⟩ := segments_of_points stemmed continues points parted
  obtain ⟨noQuery, noFragment⟩ := continues.bare.mp ⟨points.queryless, points.fragmentless⟩
  obtain ⟨unaskedId, unasked⟩ := notMem_of_setText noQuery
  obtain ⟨unmarkedId, unmarked⟩ := notMem_of_setText noFragment
  have member : final ∈ split true (tidied name.toList) := by simp [parted]
  rcases ended same with ⟨dots, empty⟩ | ⟨undotted, encoded, earlier⟩
  · -- Dots at the end leave an empty segment, but an empty name ends in no dots.
    rw [empty, Text.octets_eq] at shown
    have same : spelled [] = spelled name.toList := shown
    have single : [] ++ [[]] = pieces ++ [final] := by
      rw [← parted, ← spelled_injective same]
      rfl
    have nothing : final = [] := (List.singleton_inj.mp (List.append_inj' single rfl).2).symm
    rw [nothing] at dots
    cases dots
  · obtain ⟨plainName, whole⟩ := Plain.of_piece (tidied_sublist _) (fun c inside => (List.mem_filter.mp inside).2)
      unasked unmarked member undotted (encoded ▸ shown)
    have part : final.Sublist (tidied name.toList) := Text.sublist_of_mem_pieces member
    have tidy : tidied name.toList = name.toList := by
      rw [whole] at part
      exact (tidied_sublist _).antisymm part
    have alone : pieces = [] := by
      rw [tidy, plainName.unsplit] at parted
      have single : [] ++ [name.toList] = pieces ++ [final] := parted
      exact (List.append_inj' single rfl).1.symm
    have shorter : walk stem (c.kind.collection.toList :: split true (id.toList.filter counts) ++ ["backendSets".toList]) ++
        ending "backendSets".toList = segments ++ [c.kind.collection.toList, first] ++ ["backendSets".toList] := by
      rw [← earlier, alone]
      exact List.append_nil _
    rcases ended shorter with ⟨dots, _⟩ | ⟨_, _, behind⟩
    · cases dots
    · have collection : follow stem c.kind.collection.toList = stem ++ [c.kind.collection.toList] ∧
          c.kind.collection.toList ≠ [] := by
        cases c.kind <;> exact ⟨rfl, by decide⟩
      rw [walk, List.foldl_cons, collection.1] at behind
      obtain ⟨piece, among, plain, written⟩ := written_after collection.2 near behind
      obtain ⟨plainId, _⟩ := Plain.of_piece List.filter_sublist (fun c inside => (List.mem_filter.mp inside).2)
        unaskedId unmarkedId among plain (written ▸ named)
      exact ⟨plainId, plainName, unpadded_of_tidied tidy⟩

section Service

variable (parsed : Url.parse c.baseUrl = .ok base) (web : base.scheme = "http".toList ∨ base.scheme = "https".toList)
  (unasked : base.query = none) (unmarked : base.fragment = none) (unpadded : Unpadded c.baseUrl.toList)

include parsed web unasked unmarked unpadded

theorem setUrl_continues :
    ∃ stem, IsStem stem base.path ∧
      ∀ id name, ∃ url, Url.parse (c.setUrl id name) = .ok url ∧ Continues stem (c.setText id name) url := by
  obtain ⟨stem, stemmed, reads⟩ := parse_continues parsed web unasked unmarked unpadded
  refine ⟨stem, stemmed, ?_⟩
  intro id name
  obtain ⟨url, read, continues⟩ := reads (c.setUrl id name) _ setUrl_toList
  exact ⟨url, read, tidied_setUrl ▸ continues⟩

theorem plain_of_addresses (addresses : c.Addresses base id name) : Plain id ∧ Plain name ∧ Unpadded name.toList := by
  obtain ⟨stem, stemmed, reads⟩ := setUrl_continues parsed web unasked unmarked unpadded
  obtain ⟨url, read, points⟩ := addresses
  obtain ⟨other, same, continues⟩ := reads id name
  obtain rfl : url = other := Except.ok.inj (read.symm.trans same)
  exact plain_of_points stemmed continues points

theorem addresses_of_plain (first : Plain id) (second : Plain name) (closed : Unpadded name.toList) :
    c.Addresses base id name := by
  obtain ⟨stem, stemmed, reads⟩ := setUrl_continues parsed web unasked unmarked unpadded
  obtain ⟨url, read, continues⟩ := reads id name
  obtain ⟨queryless, fragmentless, path⟩ := path_of_plain continues first second closed
  refine ⟨url, read, queryless, fragmentless, join stem, _, _, ?_, path.trans join_append, ?_, ?_, first.decodes, second.decodes⟩
  · rcases stemmed.path with whole | longer
    · exact .inl whole.symm
    · exact .inr (longer.trans join_append).symm
  · exact slash_notMem_percentEncode (first.absent rfl)
  · exact slash_notMem_percentEncode (second.absent rfl)

/-- The requests for a set are sent to an address of this set exactly if its name and that of its load balancer stand for
themselves in an address, and then the address is of no other set. -/
theorem setUrl_addresses_iff :
    (∀ id name, c.Addresses base id name ↔ Plain id ∧ Plain name ∧ Unpadded name.toList) ∧
      ∀ id name otherId otherName, c.Addresses base id name → c.Addresses base otherId otherName →
        Url.parse (c.setUrl id name) = Url.parse (c.setUrl otherId otherName) → id = otherId ∧ name = otherName := by
  constructor
  · intro id name
    constructor
    · exact plain_of_addresses parsed web unasked unmarked unpadded
    · intro ⟨first, second, closed⟩
      exact addresses_of_plain parsed web unasked unmarked unpadded first second closed
  · intro id name otherId otherName one other same
    obtain ⟨stem, stemmed, reads⟩ := setUrl_continues parsed web unasked unmarked unpadded
    obtain ⟨plainId, plainName, closed⟩ := plain_of_addresses parsed web unasked unmarked unpadded one
    obtain ⟨otherPlainId, otherPlainName, otherClosed⟩ := plain_of_addresses parsed web unasked unmarked unpadded other
    obtain ⟨url, read, continues⟩ := reads id name
    obtain ⟨otherUrl, otherRead, otherContinues⟩ := reads otherId otherName
    obtain rfl : url = otherUrl := Except.ok.inj (read.symm.trans (same.trans otherRead))
    have path := (path_of_plain continues plainId plainName closed).2.2
    rw [(path_of_plain otherContinues otherPlainId otherPlainName otherClosed).2.2] at path
    have segments := join_injective (path_slashless stemmed otherPlainId otherPlainName)
      (path_slashless stemmed plainId plainName) path
    have parts := List.append_cancel_left segments
    simp only [List.cons.injEq, true_and, and_true] at parts
    exact ⟨(plainId.eq_of_encoded otherPlainId parts.1).symm, (plainName.eq_of_encoded otherPlainName parts.2).symm⟩

end Service

section Crossing

private theorem local_parsed : Url.parse localClient.baseUrl = .ok (localUrl "/") := ok_of_toOption (by decide +kernel)

private theorem local_unpadded : Unpadded localClient.baseUrl.toList := unpadded_of_tidied (by decide)

private theorem uncut_of_any {s : String} (none : s.toList.any cutsSegment = false) :
    ∀ c ∈ s.toList, cutsSegment c = false := by
  simpa using none

theorem local_setUrl_addresses : localClient.Addresses (localUrl "/") "nlb" "bs" :=
  ((setUrl_addresses_iff local_parsed (.inl rfl) rfl rfl local_unpadded).1 "nlb" "bs").mpr
    ⟨⟨uncut_of_any (by decide), by decide, by decide⟩, ⟨uncut_of_any (by decide), by decide, by decide⟩,
      unpadded_of_tidied (by decide)⟩

def crossingSpec : Spec :=
  ⟨"nlb", 30080, 0, none, [], 1, "blue/../green", ⟨"user", "fingerprint", "tenancy", "region", ⟨"", ⟨"api-key", "pem"⟩⟩⟩⟩

/-- A set with dots in its name passes for another: it is the other set that is read and replaced. -/
theorem crossing_not_addressed :
    crossingSpec.fault? = none ∧
      ¬ localClient.Addresses (localUrl "/") crossingSpec.loadBalancerId crossingSpec.backendSetName ∧
      Url.parse (localClient.setUrl crossingSpec.loadBalancerId crossingSpec.backendSetName) =
        Url.parse (localClient.setUrl crossingSpec.loadBalancerId "green") := by
  have green : Url.parse (localClient.setUrl "nlb" "green") = .ok (localUrl "/networkLoadBalancers/nlb/backendSets/green") :=
    ok_of_toOption (by decide +kernel)
  have crossed : Url.parse (localClient.setUrl "nlb" "blue/../green") =
      .ok (localUrl "/networkLoadBalancers/nlb/backendSets/green") := ok_of_toOption (by decide +kernel)
  refine ⟨by decide +kernel, ?_, crossed.trans green.symm⟩
  intro addressed
  obtain ⟨_, plain, _⟩ := plain_of_addresses local_parsed (.inl rfl) rfl rfl local_unpadded addressed
  exact absurd (plain.uncut '/' (by decide)) (by decide)

end Crossing

end BackendRegistrar.Cloud.Client
