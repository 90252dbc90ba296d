/-! The pieces of a text between separators. There is always one, and nothing but the separators is
lost. Also, whether one text stands inside another. -/

namespace BackendRegistrar.Text

def firstPiece (isSeparator : Char → Bool) : List Char → List Char × List (List Char)
  | [] => ([], [])
  | c :: rest =>
    let (first, others) := firstPiece isSeparator rest
    if isSeparator c then ([], first :: others) else (c :: first, others)

def pieces (isSeparator : Char → Bool) (cs : List Char) : List (List Char) :=
  let (first, others) := firstPiece isSeparator cs
  first :: others

theorem flatten_pieces (isSeparator : Char → Bool) (cs : List Char) :
    (pieces isSeparator cs).flatten = cs.filter (!isSeparator ·) := by
  induction cs with
  | nil => rfl
  | cons c rest ih =>
    simp only [pieces, List.flatten_cons] at ih
    cases separates : isSeparator c <;> simp [pieces, firstPiece, separates, ih]

variable {isSeparator : Char → Bool} {cs : List Char} {c : Char}

theorem pieces_cons_of_separator (separates : isSeparator c = true) :
    pieces isSeparator (c :: cs) = [] :: pieces isSeparator cs := by
  simp [pieces, firstPiece, separates]

theorem pieces_cons (cs : List Char) (joins : isSeparator c = false) :
    ∃ first others, pieces isSeparator cs = first :: others ∧
      pieces isSeparator (c :: cs) = (c :: first) :: others := by
  refine ⟨_, _, rfl, ?_⟩
  simp [pieces, firstPiece, joins]

theorem pieces_of_unseparated (whole : ∀ c ∈ cs, isSeparator c = false) : pieces isSeparator cs = [cs] := by
  induction cs with
  | nil => rfl
  | cons c rest ih =>
    obtain ⟨first, others, same, more⟩ := pieces_cons rest (whole c List.mem_cons_self)
    rw [ih fun d member => whole d (List.mem_cons_of_mem _ member)] at same
    obtain ⟨rfl, rfl⟩ := List.cons.inj same
    exact more

/-- What stands before a separator and what stands after it fall into their own pieces. -/
theorem pieces_append (separates : isSeparator c = true) (before after : List Char) :
    pieces isSeparator (before ++ c :: after) = pieces isSeparator before ++ pieces isSeparator after := by
  induction before with
  | nil => rw [List.nil_append, pieces_cons_of_separator separates]; rfl
  | cons d before ih =>
    rw [List.cons_append]
    cases other : isSeparator d with
    | true => rw [pieces_cons_of_separator other, pieces_cons_of_separator other, ih, List.cons_append]
    | false =>
      obtain ⟨first, others, same, more⟩ := pieces_cons before other
      obtain ⟨start, rest, joined, longer⟩ := pieces_cons (before ++ c :: after) other
      rw [ih, same, List.cons_append] at joined
      obtain ⟨rfl, rfl⟩ := List.cons.inj joined
      rw [longer, more, List.cons_append]

theorem mem_pieces {piece : List Char} (member : piece ∈ pieces isSeparator cs) (inside : c ∈ piece) :
    isSeparator c = false ∧ c ∈ cs := by
  have among : c ∈ (pieces isSeparator cs).flatten := List.mem_flatten.mpr ⟨piece, member, inside⟩
  rw [flatten_pieces] at among
  obtain ⟨found, joins⟩ := List.mem_filter.mp among
  exact ⟨by simpa using joins, found⟩

theorem sublist_of_mem_pieces {piece : List Char} (member : piece ∈ pieces isSeparator cs) : piece.Sublist cs := by
  have among : piece.Sublist (pieces isSeparator cs).flatten := List.sublist_flatten_of_mem member
  rw [flatten_pieces] at among
  exact among.trans List.filter_sublist

def occurs (part : List Char) : List Char → Bool
  | [] => part.isEmpty
  | c :: rest => part.isPrefixOf (c :: rest) || occurs part rest

def containsText (part s : String) : Bool := occurs part.toList s.toList

end BackendRegistrar.Text
