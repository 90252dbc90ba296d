import BackendRegistrar.Proofs.Records
import BackendRegistrar.Url.Parser
import Mathlib.Data.List.Induction
import Mathlib.Data.List.TakeWhile

/-! What reading an address finds, and how an address of the web is read when more is written after it: all that
came before is read as it was, and the path goes on. -/

namespace BackendRegistrar.Url

variable {special isEnd : Bool} {usual : Option Nat} {cs rest left : List Char} {a : Authority} {u : Url}

section Authorities

theorem readPort_unusual {n : Nat} (read : readPort usual cs = .ok (some n)) : usual ≠ some n := by
  unfold readPort at read
  split at read
  · cases read
  · split at read
    · cases read
    · split at read
      · cases read
      · split at read
        · cases read
        · cases read
          assumption

/-- Reads a host and its port, after the user. -/
def readHost (special : Bool) (usual : Option Nat) (user : Option (List Char)) (hostText : List Char)
    (portText : Option (List Char)) : Except ParseError (Authority × List Char) := do
  let host ← (if special then Host.domain hostText else Host.other hostText)
  if host.isEmpty && ((user.bind readUser).isSome || portText.isSome) then .error .emptyHost
  else do
    let port ← readPort usual ((portText.getD []).takeWhile (! · == '\\'))
    return (⟨user.bind readUser, if host.isEmpty then none else some host, port⟩,
      (portText.getD []).dropWhile (! · == '\\'))

/-- With no host at all, or with none where the scheme needs one, there is no authority. -/
theorem readAuthority_eq :
    readAuthority special usual cs isEnd =
      if ((splitUser cs).1 = some [] && (splitUser cs).2.isEmpty && !isEnd) ||
          (special && (splitPort false (splitUser cs).2).1.isEmpty) then
        .error .emptyHost
      else readHost special usual (splitUser cs).1 (splitPort false (splitUser cs).2).1
        (splitPort false (splitUser cs).2).2 := by
  unfold readAuthority readHost
  cases unnamed : decide ((splitUser cs).1 = some []) && (splitUser cs).2.isEmpty && !isEnd with
  | true =>
    simp [unnamed]
    rfl
  | false =>
    cases hostless : special && (splitPort false (splitUser cs).2).1.isEmpty with
    | true =>
      simp [unnamed, hostless]
      rfl
    | false =>
      simp only [unnamed, hostless, Bool.or_self, Bool.false_eq_true, if_false]
      cases special <;> rfl

theorem readHost_of_readAuthority (read : readAuthority special usual cs isEnd = .ok (a, left)) :
    ∃ user hostText portText, readHost special usual user hostText portText = .ok (a, left) := by
  rw [readAuthority_eq] at read
  split at read
  · cases read
  · exact ⟨_, _, _, read⟩

theorem readHost_ok {user : Option (List Char)} {hostText : List Char} {portText : Option (List Char)}
    (read : readHost special usual user hostText portText = .ok (a, left)) :
    readPort usual ((portText.getD []).takeWhile (! · == '\\')) = .ok a.port ∧
      left = (portText.getD []).dropWhile (! · == '\\') := by
  unfold readHost at read
  obtain ⟨host, _, read⟩ := bind_eq_ok.mp read
  split at read
  · cases read
  · obtain ⟨port, numbered, read⟩ := bind_eq_ok.mp read
    cases read
    exact ⟨numbered, rfl⟩

theorem readAuthority_unusual {n : Nat} (read : readAuthority special usual cs isEnd = .ok (a, left))
    (numbered : a.port = some n) : usual ≠ some n := by
  obtain ⟨_, _, _, hosted⟩ := readHost_of_readAuthority read
  have port := (readHost_ok hosted).1
  rw [numbered] at port
  exact readPort_unusual port

/-- Where the scheme needs a host, it does not matter whether the address ends after it. -/
theorem readAuthority_isEnd (first second : Bool) :
    readAuthority true usual cs first = readAuthority true usual cs second := by
  have hostless : (splitUser cs).2 = [] → (splitPort false (splitUser cs).2).1.isEmpty = true := by
    intro none
    rw [none]
    rfl
  rw [readAuthority_eq, readAuthority_eq]
  by_cases none : (splitUser cs).2 = []
  · simp [hostless none]
  · simp [none]

end Authorities

section Schemes

variable {scheme : List Char} {n : Nat}

/-- What stands before the path in an address of a special scheme. -/
def authorityText (rest : List Char) : List Char :=
  (rest.dropWhile (Path.isSlash true)).takeWhile (! endsAuthority true ·)

/-- What stands after it. -/
def afterAuthority (rest : List Char) : List Char :=
  (rest.dropWhile (Path.isSlash true)).dropWhile (! endsAuthority true ·)

/-- An address of a special scheme, but for its scheme and authority. -/
def continued (scheme : List Char) (a : Authority) (rest : List Char) : Url :=
  let (path, query, fragment) := splitTail true rest
  ⟨scheme, some a, Path.hierarchical true path, query, fragment⟩

theorem drop_takeWhile_length (p : Char → Bool) : cs.drop (cs.takeWhile p).length = cs.dropWhile p := by
  have whole : cs.takeWhile p ++ cs.dropWhile p = cs := List.takeWhile_append_dropWhile
  calc
    cs.drop (cs.takeWhile p).length = (cs.takeWhile p ++ cs.dropWhile p).drop (cs.takeWhile p).length := by rw [whole]
    _ = cs.dropWhile p := List.drop_left

theorem afterScheme_special (special : isSpecial scheme = true) :
    afterScheme scheme rest =
      (readAuthority true ((specialPort? scheme).getD none) (authorityText rest) (afterAuthority rest).isEmpty).map
        fun (a, left) => continued scheme a (left ++ afterAuthority rest) := by
  unfold afterScheme
  simp only [special, Bool.true_or, if_true, drop_takeWhile_length]
  change (readAuthority true _ (authorityText rest) (afterAuthority rest).isEmpty >>= _) = _
  cases readAuthority true _ (authorityText rest) _ <;> rfl

theorem afterScheme_scheme (read : afterScheme scheme rest = .ok u) : u.scheme = scheme := by
  cases special : isSpecial scheme with
  | true =>
    rw [afterScheme_special special, map_eq_ok] at read
    obtain ⟨_, _, rfl⟩ := read
    rfl
  | false =>
    unfold afterScheme at read
    simp only [special, Bool.false_or] at read
    split at read
    · obtain ⟨_, _, read⟩ := bind_eq_ok.mp read
      cases read
      rfl
    · cases read
      rfl

theorem afterFile_scheme (read : afterFile rest = .ok u) : u.scheme = "file".toList := by
  unfold afterFile at read
  split at read
  · cases read
    rfl
  · cases read
    rfl
  · simp only at read
    split at read
    · cases read
      rfl
    · obtain ⟨_, _, read⟩ := bind_eq_ok.mp read
      cases read
      rfl

theorem parse_ok {address : String} (parsed : parse address = .ok u) :
    ∃ rest, splitScheme? (relevant address.toList) = some (u.scheme, rest) ∧
      (u.scheme ≠ "file".toList → afterScheme u.scheme rest = .ok u) := by
  unfold parse at parsed
  split at parsed
  · cases parsed
  next scheme rest split =>
    by_cases file : scheme = "file".toList
    · rw [if_pos file] at parsed
      have same := afterFile_scheme parsed
      refine ⟨rest, ?_, fun other => absurd same other⟩
      rw [same, ← file, split]
    · rw [if_neg file] at parsed
      have same := afterScheme_scheme parsed
      exact ⟨rest, same ▸ split, fun _ => same.symm ▸ parsed⟩

/-- An address of the web is read in three steps: the scheme, the authority, and the rest. -/
theorem parse_special {address : String} (parsed : parse address = .ok u) (special : isSpecial u.scheme = true)
    (web : u.scheme ≠ "file".toList) :
    ∃ rest a left, splitScheme? (relevant address.toList) = some (u.scheme, rest) ∧
      readAuthority true ((specialPort? u.scheme).getD none) (authorityText rest) (afterAuthority rest).isEmpty =
        .ok (a, left) ∧
      u = continued u.scheme a (left ++ afterAuthority rest) := by
  obtain ⟨rest, schemed, read⟩ := parse_ok parsed
  have whole := read web
  rw [afterScheme_special special, map_eq_ok] at whole
  obtain ⟨⟨a, left⟩, authority, same⟩ := whole
  exact ⟨rest, a, left, schemed, authority, same.symm⟩

/-- A port that is kept is not the usual one of the scheme. -/
theorem parse_unusual {address : String} {n : Nat} (parsed : parse address = .ok u) (numbered : u.port? = some n) :
    specialPort? u.scheme ≠ some (some n) := by
  intro usual
  have special : isSpecial u.scheme = true := by rw [isSpecial, usual]; rfl
  have web : u.scheme ≠ "file".toList := by
    intro file
    rw [file] at usual
    cases usual
  obtain ⟨rest, a, left, _, authority, same⟩ := parse_special parsed special web
  have kept : a.port = some n := by
    rw [same] at numbered
    exact numbered
  apply readAuthority_unusual authority kept
  rw [usual]
  rfl

end Schemes

section Continuing

variable {p : Char → Bool} {c : Char} {scheme : List Char} {more : List Char}

theorem takeWhile_append_stop (stops : p c = false) : (cs ++ c :: more).takeWhile p = cs.takeWhile p := by
  induction cs with
  | nil => simp [stops]
  | cons first rest ih =>
    cases kept : p first with
    | true => simp [kept, ih]
    | false => simp [kept]

theorem dropWhile_append_stop (stops : p c = false) : (cs ++ c :: more).dropWhile p = cs.dropWhile p ++ c :: more := by
  induction cs with
  | nil => simp [stops]
  | cons first rest ih =>
    cases dropped : p first with
    | true => simp [dropped, ih]
    | false => simp [dropped]

/-- Whether a character counts, that is, is no tab and no line break. -/
def counts (c : Char) : Bool := c ≠ '\t' ∧ c ≠ '\n' ∧ c ≠ '\r'

def isBlank (c : Char) : Bool := c.toNat ≤ 0x20

/-- The characters that count at the end of an address: no blanks at the very end. -/
def tidied (cs : List Char) : List Char := ((cs.reverse.dropWhile isBlank).reverse).filter counts

/-- What counts does not end in a blank. -/
def Unpadded (cs : List Char) : Prop := ∀ last, (cs.filter counts).getLast? = some last → isBlank last = false

theorem relevant_eq : relevant cs = tidied (cs.dropWhile isBlank) := rfl

theorem tidied_append (visible : isBlank c = false) : tidied (cs ++ c :: more) = (cs ++ [c]).filter counts ++ tidied more := by
  have turned : (cs ++ c :: more).reverse = more.reverse ++ c :: cs.reverse := by simp
  rw [tidied, turned, dropWhile_append_stop visible, tidied, ← List.filter_append]
  simp

theorem tidied_of_unpadded (unpadded : Unpadded cs) : tidied cs = cs.filter counts := by
  induction cs using List.reverseRecOn with
  | nil => rfl
  | append_singleton rest last ih =>
    cases blank : isBlank last with
    | false =>
      rw [tidied_append blank]
      simp [tidied]
    | true =>
      have skipped : counts last = false := by
        cases counted : counts last with
        | false => rfl
        | true =>
          have visible := unpadded last (by simp [counted])
          rw [blank] at visible
          cases visible
      have shorter : (rest ++ [last]).filter counts = rest.filter counts := by simp [skipped]
      have unended : Unpadded rest := by
        intro other found
        exact unpadded other (shorter ▸ found)
      rw [shorter, ← ih unended, tidied, tidied]
      simp [blank]

theorem tidied_sublist (cs : List Char) : (tidied cs).Sublist cs := by
  have turned : (cs.reverse.dropWhile isBlank).reverse.Sublist cs := by
    rw [← List.reverse_sublist, List.reverse_reverse]
    exact List.dropWhile_sublist isBlank
  exact List.filter_sublist.trans turned

/-- A text from which nothing is left out does not end in a blank. -/
theorem unpadded_of_tidied (same : tidied cs = cs) : Unpadded cs := by
  intro last found
  cases blank : isBlank last with
  | false => rfl
  | true =>
    have counted : cs.filter counts = cs := by
      calc
        cs.filter counts = (tidied cs).filter counts := by rw [same]
        _ = tidied cs := by rw [tidied, List.filter_filter]; simp
        _ = cs := same
    rw [counted] at found
    obtain ⟨rest, rfl⟩ := List.getLast?_eq_some_iff.mp found
    have shorter : tidied (rest ++ [last]) = tidied rest := by simp [tidied, blank]
    have bound := (tidied_sublist rest).length_le
    rw [← shorter, same, List.length_append, List.length_singleton] at bound
    omega

theorem Unpadded.dropWhile (unpadded : Unpadded cs) : Unpadded (cs.dropWhile p) := by
  intro last found
  apply unpadded last
  have whole : cs.takeWhile p ++ cs.dropWhile p = cs := List.takeWhile_append_dropWhile
  rw [← whole, List.filter_append, List.getLast?_append, found]
  rfl

theorem relevant_append (unpadded : Unpadded cs) : relevant (cs ++ '/' :: more) = relevant cs ++ '/' :: tidied more := by
  have visible : isBlank '/' = false := rfl
  rw [relevant_eq, relevant_eq, dropWhile_append_stop visible, tidied_append visible,
    tidied_of_unpadded unpadded.dropWhile, List.filter_append, List.append_assoc]
  rfl

theorem splitScheme?_append (found : splitScheme? cs = some (scheme, rest)) :
    splitScheme? (cs ++ more) = some (scheme, rest ++ more) := by
  unfold splitScheme? at found ⊢
  simp only [drop_takeWhile_length] at found ⊢
  split at found
  next first name after named ending =>
    have visible : (cs.dropWhile isSchemeChar).isEmpty = false := by rw [ending]; rfl
    have whole : cs.takeWhile isSchemeChar ++ cs.dropWhile isSchemeChar = cs := List.takeWhile_append_dropWhile
    have shorter : (cs.takeWhile isSchemeChar).length ≠ cs.length := by
      intro same
      rw [← congrArg List.length whole, List.length_append, ending] at same
      simp at same
    rw [List.takeWhile_append, if_neg shorter, List.dropWhile_append, visible, if_neg (by decide), named, ending]
    split at found
    next letter =>
      cases found
      change (if first.isAlpha = true then some ((first :: name).map Char.toLower, rest ++ more) else none) = _
      rw [if_pos letter, named]
    · cases found
  · cases found

/-- Without a host there is no authority where the scheme needs one. -/
theorem authority_nonempty (read : readAuthority true usual (authorityText rest) isEnd = .ok (a, left)) :
    (rest.dropWhile (Path.isSlash true)).isEmpty = false := by
  cases empty : rest.dropWhile (Path.isSlash true) with
  | nil =>
    rw [authorityText, empty] at read
    cases read
  | cons first after => rfl

theorem authorityText_append (more : List Char) (found : (rest.dropWhile (Path.isSlash true)).isEmpty = false) :
    authorityText (rest ++ '/' :: more) = authorityText rest ∧
      afterAuthority (rest ++ '/' :: more) = afterAuthority rest ++ '/' :: more := by
  have ends : (!endsAuthority true '/') = false := rfl
  unfold authorityText afterAuthority
  rw [List.dropWhile_append, found, if_neg (by decide), takeWhile_append_stop ends, dropWhile_append_stop ends]
  exact ⟨rfl, rfl⟩

theorem head_dropWhile (first : (cs.dropWhile p).head? = some c) : p c = false := by
  have stopped := List.head?_dropWhile_not p cs
  rw [first] at stopped
  simpa using stopped

/-- What follows a host and a port begins where these end. -/
theorem head_afterAuthority (read : readAuthority true usual cs isEnd = .ok (a, left))
    (first : (left ++ afterAuthority rest).head? = some c) : endsAuthority true c = true := by
  obtain ⟨_, _, _, hosted⟩ := readHost_of_readAuthority read
  rw [(readHost_ok hosted).2, List.head?_append, Option.or_eq_some_iff] at first
  rcases first with first | ⟨_, first⟩
  · have backslash : c = '\\' := by simpa using head_dropWhile first
    rw [backslash]
    rfl
  · simpa using head_dropWhile first

/-- What is written after an address of the web, from a slash on, is read as the end of a longer path; all before is
read as it was. -/
theorem parse_append {base : String} (parsed : parse base = .ok u) (special : isSpecial u.scheme = true)
    (web : u.scheme ≠ "file".toList) (unpadded : Unpadded base.toList) :
    ∃ a before, u = continued u.scheme a before ∧ (∀ c, before.head? = some c → endsAuthority true c = true) ∧
      ∀ (address : String) (more : List Char), address.toList = base.toList ++ '/' :: more →
        parse address = .ok (continued u.scheme a (before ++ '/' :: tidied more)) := by
  obtain ⟨rest, a, left, schemed, authority, same⟩ := parse_special parsed special web
  refine ⟨a, left ++ afterAuthority rest, same, fun c => head_afterAuthority authority, ?_⟩
  intro address more written
  have longer := authorityText_append (tidied more) (authority_nonempty authority)
  unfold parse
  rw [written, relevant_append unpadded, splitScheme?_append schemed]
  dsimp only
  rw [if_neg web, afterScheme_special special, longer.1, longer.2, readAuthority_isEnd _ (afterAuthority rest).isEmpty,
    authority, List.append_assoc]
  rfl

theorem splitBefore_absent {stop : Char} (absent : stop ∉ cs) : splitBefore (· == stop) cs = (cs, []) := by
  have passes : ∀ c ∈ cs, (! c == stop) = true := by
    intro c member
    have differs : c ≠ stop := fun same => absent (same ▸ member)
    simp [differs]
  rw [splitBefore, List.takeWhile_eq_self_iff.mpr passes, List.dropWhile_eq_nil_iff.mpr passes]

theorem splitBefore_present {stop : Char} (present : stop ∈ cs) : (splitBefore (· == stop) cs).2.isEmpty = false := by
  cases found : (splitBefore (· == stop) cs).2 with
  | nil =>
    have passes := List.dropWhile_eq_nil_iff.mp found stop present
    simp at passes
  | cons first rest => rfl

/-- An address has neither a query nor a fragment when no mark of one is in it. -/
theorem splitTail_bare_iff (special : Bool) :
    (splitTail special cs).2 = (none, none) ↔ '?' ∉ cs ∧ '#' ∉ cs := by
  constructor
  · intro bare
    have unmarked : '#' ∉ cs := by
      intro marked
      have fragment := congrArg Prod.snd bare
      simp [splitTail, splitBefore_present marked] at fragment
    refine ⟨?_, unmarked⟩
    intro asked
    have query := congrArg Prod.fst bare
    simp [splitTail, splitBefore_absent unmarked, splitBefore_present asked] at query
  · intro ⟨unasked, unmarked⟩
    simp [splitTail, splitBefore_absent unmarked, splitBefore_absent unasked]

theorem splitTail_bare (special : Bool) (unasked : '?' ∉ cs) (unmarked : '#' ∉ cs) : (splitTail special cs).1 = cs := by
  simp [splitTail, splitBefore_absent unmarked, splitBefore_absent unasked]

end Continuing

end BackendRegistrar.Url
