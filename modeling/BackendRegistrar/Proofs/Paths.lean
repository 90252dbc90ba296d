import BackendRegistrar.Proofs.PercentCoding
import BackendRegistrar.Url.Path
import Mathlib.Data.List.Induction

/-! Paths that go on from others. Segments are resolved one after the other; whatever dots among them take away,
what is left is a beginning of the path and after it segments that were written. -/

namespace BackendRegistrar.Url.Path

variable {done segments more : List (List Char)} {segment last : List Char} {cs rest : List Char}

def isDots (segment : List Char) : Bool := isDoubleDot segment || isSingleDot segment

/-- The segments of a path after one more. -/
def follow (done : List (List Char)) (segment : List Char) : List (List Char) :=
  if isDoubleDot segment then parent done
  else if isSingleDot segment then done
  else done ++ [percentEncode encodedInPath segment]

def walk (done segments : List (List Char)) : List (List Char) := segments.foldl follow done

/-- What dots at the end leave. -/
def ending (segment : List Char) : List (List Char) := if isDots segment then [[]] else []

theorem follow_of_plain (plain : isDots segment = false) : follow done segment = done ++ [percentEncode encodedInPath segment] := by
  rw [isDots, Bool.or_eq_false_iff] at plain
  rw [follow, plain.1, plain.2]
  rfl

theorem follow_of_dots (dots : isDots segment = true) : follow done segment <+: done := by
  rw [isDots, Bool.or_eq_true] at dots
  unfold follow
  split
  · unfold parent
    split
    · exact List.prefix_refl done
    · exact List.dropLast_prefix done
  next single =>
    simp only [if_pos (dots.resolve_left single), List.prefix_refl]

theorem undotted_of_unescaped (plain : hasEscape segment = false) : undotted segment = segment := by
  fun_induction undotted segment with
  | case1 rest ih => cases plain
  | case2 rest ih => cases plain
  | case3 c rest _ _ ih =>
    rw [hasEscape, Bool.or_eq_false_iff] at plain
    rw [ih plain.2]
  | case4 => rfl

theorem isDots_iff (plain : hasEscape segment = false) : isDots segment = true ↔ segment = ['.', '.'] ∨ segment = ['.'] := by
  rw [isDots, isDoubleDot, isSingleDot, undotted_of_unescaped plain, Bool.or_eq_true, beq_iff_eq, beq_iff_eq]

theorem walk_append : walk done (segments ++ more) = walk (walk done segments) more := List.foldl_append

theorem resolve_cons_cons : resolve done (segment :: last :: more) = resolve (follow done segment) (last :: more) := by
  rw [resolve, follow]
  cases isDoubleDot segment <;> cases isSingleDot segment <;> simp

theorem resolve_concat : resolve done (segments ++ [last]) = walk done (segments ++ [last]) ++ ending last := by
  induction segments generalizing done with
  | nil =>
    rw [List.nil_append, resolve, walk, List.foldl_cons, List.foldl_nil, follow, ending, isDots]
    cases double : isDoubleDot last <;> cases single : isSingleDot last <;> simp [resolve]
  | cons first rest ih =>
    have some : rest ++ [last] ≠ [] := by simp
    obtain ⟨next, others, same⟩ := List.exists_cons_of_ne_nil some
    rw [List.cons_append, same, resolve_cons_cons, ← same, ih]
    rfl

/-- Dots take segments away from the end alone, and no dots are ever put there. -/
theorem walk_kept (done segments : List (List Char)) :
    ∃ kept written, walk done segments = kept ++ written ∧ kept <+: done ∧
      ∀ s ∈ written, ∃ segment ∈ segments, isDots segment = false ∧ s = percentEncode encodedInPath segment := by
  induction segments generalizing done with
  | nil => exact ⟨done, [], by simp [walk], List.prefix_refl done, by simp⟩
  | cons first rest ih =>
    obtain ⟨kept, written, same, within, made⟩ := ih (follow done first)
    have later : ∀ s ∈ written, ∃ segment ∈ first :: rest, isDots segment = false ∧ s = percentEncode encodedInPath segment := by
      intro s member
      obtain ⟨segment, among, plain, encoded⟩ := made s member
      exact ⟨segment, List.mem_cons_of_mem first among, plain, encoded⟩
    have whole : walk done (first :: rest) = kept ++ written := same
    cases dots : isDots first with
    | true =>
      exact ⟨kept, written, whole, within.trans (follow_of_dots dots), later⟩
    | false =>
      rw [follow_of_plain dots, List.prefix_concat_iff] at within
      rcases within with all | within
      · refine ⟨done, percentEncode encodedInPath first :: written, ?_, List.prefix_refl done, ?_⟩
        · rw [whole, all, List.append_assoc]
          rfl
        · intro s member
          rcases List.mem_cons.mp member with rfl | member
          · exact ⟨first, List.mem_cons_self, dots, rfl⟩
          · exact later s member
      · exact ⟨kept, written, whole, within, later⟩

/-- No segment holds a slash. -/
def Slashless (segments : List (List Char)) : Prop := ∀ s ∈ segments, '/' ∉ s

theorem slashless_append : Slashless (segments ++ more) ↔ Slashless segments ∧ Slashless more := by
  exact List.forall_mem_append

theorem walk_slashless (before : Slashless done) (after : Slashless segments) : Slashless (walk done segments) := by
  obtain ⟨kept, written, same, within, made⟩ := walk_kept done segments
  rw [same, slashless_append]
  constructor
  · intro s member
    exact before s (within.subset member)
  · intro s member
    obtain ⟨segment, among, _, rfl⟩ := made s member
    exact slash_notMem_percentEncode (after segment among)

theorem split_slashless (special : Bool) (cs : List Char) : Slashless (split special cs) := by
  intro s member inside
  obtain ⟨joins, _⟩ := Text.mem_pieces member inside
  cases joins

theorem split_of_slashless (absent : '/' ∉ segment) : split false segment = [segment] := by
  apply Text.pieces_of_unseparated
  intro c member
  have differs : c ≠ '/' := fun same => absent (same ▸ member)
  simp [isSlash, differs]

theorem split_append_join (first : '/' ∉ segment) (others : Slashless segments) :
    split false (segment ++ join segments) = segment :: segments := by
  induction segments generalizing segment with
  | nil => rw [join, List.flatMap_nil, List.append_nil, split_of_slashless first]
  | cons next rest ih =>
    have separates : isSlash false '/' = true := rfl
    have joined : segment ++ join (next :: rest) = segment ++ '/' :: (next ++ join rest) := rfl
    have tail : split false (next ++ join rest) = next :: rest :=
      ih (others next List.mem_cons_self) fun s member => others s (List.mem_cons_of_mem next member)
    calc
      split false (segment ++ join (next :: rest)) = split false segment ++ split false (next ++ join rest) := by
        rw [joined, split, Text.pieces_append separates]
        rfl
      _ = segment :: next :: rest := by
        rw [split_of_slashless first, tail]
        rfl

/-- Different segments are joined to different paths. -/
theorem join_injective (first : Slashless segments) (second : Slashless more) (same : join segments = join more) :
    segments = more := by
  have left := split_append_join (List.not_mem_nil (a := '/')) first
  have right := split_append_join (List.not_mem_nil (a := '/')) second
  rw [same, right] at left
  exact (List.cons.inj left).2.symm

theorem join_append : join (segments ++ more) = join segments ++ join more := List.flatMap_append

section Stems

variable {before : List Char}

/-- The segments that a path has before it ends. -/
def stem : List Char → List (List Char)
  | [] => []
  | _ :: rest => walk [] (split true rest)

theorem stem_slashless : Slashless (stem before) := by
  cases before with
  | nil => exact List.forall_mem_nil _
  | cons c rest => exact walk_slashless (List.forall_mem_nil _) (split_slashless true rest)

theorem exists_split (special : Bool) (cs : List Char) : ∃ segments last, split special cs = segments ++ [last] := by
  have some : split special cs ≠ [] := List.cons_ne_nil _ _
  exact ⟨_, _, (List.dropLast_concat_getLast some).symm⟩

theorem hierarchical_eq_stem (begins : ∀ c, before.head? = some c → isSlash true c = true) :
    hierarchical true before = join (stem before) ∨ hierarchical true before = join (stem before ++ [[]]) := by
  cases before with
  | nil => exact .inr rfl
  | cons c rest =>
    obtain ⟨segments, last, whole⟩ := exists_split true rest
    have path : hierarchical true (c :: rest) = join (stem (c :: rest) ++ ending last) := by
      rw [hierarchical, withoutSlash, begins c rfl, stem, whole, ← resolve_concat, ← whole]
      rfl
    rw [path, ending]
    cases isDots last
    · exact .inl (by simp)
    · exact .inr rfl

/-- What is written after a path goes on from its stem. -/
theorem hierarchical_append (begins : ∀ c, before.head? = some c → isSlash true c = true) {more : List Char}
    (whole : split true more = segments ++ [last]) :
    hierarchical true (before ++ '/' :: more) = join (walk (stem before) (segments ++ [last]) ++ ending last) := by
  have slash : isSlash true '/' = true := rfl
  cases before with
  | nil =>
    rw [List.nil_append, hierarchical, withoutSlash, slash]
    change join (resolve [] (split true more)) = _
    rw [whole, resolve_concat]
    rfl
  | cons c rest =>
    have parted : split true (rest ++ '/' :: more) = split true rest ++ segments ++ [last] := by
      rw [List.append_assoc, ← whole]
      exact Text.pieces_append slash rest more
    rw [List.cons_append, hierarchical, withoutSlash, begins c rfl]
    change join (resolve [] (split true (rest ++ '/' :: more))) = _
    rw [parted, resolve_concat, List.append_assoc, walk_append]
    rfl

end Stems

end BackendRegistrar.Url.Path
