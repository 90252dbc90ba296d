import BackendRegistrar.Text.Utf8
import BackendRegistrar.Url.Percent
import Mathlib.Data.List.Flatten

/-! What percent-encoding keeps. An encoded text stands for the same octets as before, and only a text without
escapes stands for its own octets; with escapes it stands for fewer. -/

namespace BackendRegistrar.Url

variable {c : Char} {cs rest : List Char}

def spelled (cs : List Char) : List UInt8 := cs.flatMap String.utf8EncodeChar

/-- Whether a text begins with a percent sign and two digits, which stand for an octet. -/
def beginsEscape : List Char → Bool
  | '%' :: a :: b :: _ => (Text.hexValue? a).isSome && (Text.hexValue? b).isSome
  | _ => false

def hasEscape : List Char → Bool
  | [] => false
  | c :: rest => beginsEscape (c :: rest) || hasEscape rest

theorem spelled_cons : spelled (c :: rest) = String.utf8EncodeChar c ++ spelled rest := rfl

theorem octets_ofList : Text.octets (String.ofList cs) = spelled cs := by
  rw [Text.octets_eq, String.toList_ofList, spelled]

theorem spelled_injective {others : List Char} (same : spelled cs = spelled others) : cs = others := by
  rw [← octets_ofList, ← octets_ofList] at same
  exact String.ofList_injective (Text.octets_injective same)

theorem beginsEscape_iff :
    beginsEscape cs = true ↔
      ∃ a b x y rest, cs = '%' :: a :: b :: rest ∧ Text.hexValue? a = some x ∧ Text.hexValue? b = some y := by
  constructor
  · intro begins
    unfold beginsEscape at begins
    split at begins
    · rw [Bool.and_eq_true, Option.isSome_iff_exists, Option.isSome_iff_exists] at begins
      obtain ⟨⟨x, first⟩, y, second⟩ := begins
      exact ⟨_, _, x, y, _, rfl, first, second⟩
    · cases begins
  · rintro ⟨a, b, x, y, rest, rfl, first, second⟩
    simp [beginsEscape, first, second]

theorem percentDecode_escape {a b : Char} {x y : Nat} (first : Text.hexValue? a = some x)
    (second : Text.hexValue? b = some y) :
    percentDecode ('%' :: a :: b :: rest) = UInt8.ofNat (16 * x + y) :: percentDecode rest := by
  rw [percentDecode, first, second]

/-- What does not begin an escape stands for itself. -/
theorem percentDecode_cons (plain : beginsEscape (c :: rest) = false) :
    percentDecode (c :: rest) = String.utf8EncodeChar c ++ percentDecode rest := by
  by_cases escape : ∃ a b after, c :: rest = '%' :: a :: b :: after
  · obtain ⟨a, b, after, same⟩ := escape
    cases same
    rw [percentDecode]
    split
    next x y first second => simp [beginsEscape, first, second] at plain
    · rfl
  · rw [percentDecode]
    intro a b after percent same
    exact escape ⟨a, b, after, by rw [percent, same]⟩

/-- What an escape stands for is shorter than itself. -/
theorem length_percentDecode_le : (percentDecode cs).length ≤ (spelled cs).length := by
  fun_induction percentDecode cs with
  | case1 => exact Nat.le_refl 0
  | case2 a b rest x y first second ih =>
    rw [spelled_cons, spelled_cons, spelled_cons]
    simp only [List.length_cons, List.length_append]
    have size : (String.utf8EncodeChar '%').length = 1 := rfl
    omega
  | case3 a b rest _ ih =>
    rw [spelled_cons, List.length_append, List.length_append]
    omega
  | case4 c rest _ ih =>
    rw [spelled_cons, List.length_append, List.length_append]
    omega

theorem hasEscape_of_length (long : (spelled cs).length ≤ (percentDecode cs).length) : hasEscape cs = false := by
  induction cs with
  | nil => rfl
  | cons c rest ih =>
    cases begins : beginsEscape (c :: rest) with
    | true =>
      obtain ⟨a, b, x, y, after, same, first, second⟩ := beginsEscape_iff.mp begins
      cases same
      have shorter : (percentDecode after).length ≤ (spelled after).length := length_percentDecode_le
      have size : (String.utf8EncodeChar '%').length = 1 := rfl
      have digit : 0 < (String.utf8EncodeChar a).length := by
        rw [String.length_utf8EncodeChar]
        exact a.utf8Size_pos
      rw [percentDecode_escape first second, spelled_cons, spelled_cons, spelled_cons] at long
      simp only [List.length_cons, List.length_append] at long
      omega
    | false =>
      rw [percentDecode_cons begins, spelled_cons, List.length_append, List.length_append] at long
      rw [hasEscape, begins, ih (by omega)]
      rfl

theorem percentDecode_of_unescaped (plain : hasEscape cs = false) : percentDecode cs = spelled cs := by
  induction cs with
  | nil => rfl
  | cons c rest ih =>
    rw [hasEscape, Bool.or_eq_false_iff] at plain
    rw [percentDecode_cons plain.1, ih plain.2, spelled_cons]

/-- A part of a text stands for the text itself only if it is all of it, and has no escapes. -/
theorem eq_of_percentDecode {part : List Char} (within : part.Sublist cs) (same : percentDecode part = spelled cs) :
    part = cs ∧ hasEscape cs = false := by
  have shorter : (percentDecode part).length ≤ (spelled part).length := length_percentDecode_le
  have among : (spelled part).Sublist (spelled cs) := within.flatMap _
  have whole : spelled part = spelled cs := among.eq_of_length_le (by rw [same] at shorter; exact shorter)
  have all := spelled_injective whole
  rw [all] at same
  exact ⟨all, hasEscape_of_length (Nat.le_of_eq (congrArg List.length same.symm))⟩

section Encoding

theorem hexValue?_bounds {n : Nat} (digit : Text.hexValue? c = some n) : 48 ≤ c.toNat ∧ c.toNat ≤ 102 := by
  have ordered : ∀ first last : Char, first ≤ c → c ≤ last → first.toNat ≤ c.toNat ∧ c.toNat ≤ last.toNat :=
    fun _ _ low high => ⟨low, high⟩
  unfold Text.hexValue? at digit
  split at digit
  next range =>
    have bounds := ordered '0' '9' range.1 range.2
    change 48 ≤ _ ∧ _ ≤ 57 at bounds
    omega
  split at digit
  next range =>
    have bounds := ordered 'a' 'f' range.1 range.2
    change 97 ≤ _ ∧ _ ≤ 102 at bounds
    omega
  split at digit
  next range =>
    have bounds := ordered 'A' 'F' range.1 range.2
    change 65 ≤ _ ∧ _ ≤ 70 at bounds
    omega
  cases digit

/-- No digit is encoded. -/
theorem hexValue?_of_encoded (encoded : encodedInPath c = true) : Text.hexValue? c = none := by
  rw [encodedInPath, Bool.or_eq_true] at encoded
  rcases encoded with control | listed
  · cases digit : Text.hexValue? c with
    | none => rfl
    | some n =>
      have bounds := hexValue?_bounds digit
      simp only [isControl, Bool.or_eq_true, decide_eq_true_eq] at control
      omega
  · simp only [List.contains_cons, List.contains_nil, Bool.or_false, Bool.or_eq_true, beq_iff_eq] at listed
    rcases listed with rfl | rfl | rfl | rfl | rfl | rfl | rfl | rfl | rfl <;> rfl

theorem hexValue?_hexDigit {n : Nat} (small : n < 16) : Text.hexValue? (hexDigit n) = some n := by
  have all : ∀ n < 16, Text.hexValue? (hexDigit n) = some n := by decide
  exact all n small

theorem percentDecode_encodeOctet (octet : UInt8) :
    percentDecode (encodeOctet octet ++ rest) = octet :: percentDecode rest := by
  have bound := octet.toNat_lt
  have high : octet.toNat / 16 < 16 := by omega
  have low : octet.toNat % 16 < 16 := by omega
  have whole : 16 * (octet.toNat / 16) + octet.toNat % 16 = octet.toNat := Nat.div_add_mod _ _
  rw [encodeOctet, List.cons_append, List.cons_append, List.cons_append, List.nil_append,
    percentDecode_escape (hexValue?_hexDigit high) (hexValue?_hexDigit low), whole, UInt8.ofNat_toNat]

theorem percentDecode_encodeOctets (octets : List UInt8) :
    percentDecode (octets.flatMap encodeOctet ++ rest) = octets ++ percentDecode rest := by
  induction octets with
  | nil => rfl
  | cons octet octets ih => rw [List.flatMap_cons, List.append_assoc, percentDecode_encodeOctet, ih, List.cons_append]

theorem encodeChar_of_encoded {encoded : Char → Bool} (hidden : encoded c = true) :
    ∃ digits, encodeChar encoded c = '%' :: digits ∧ digits ≠ [] := by
  have some : 0 < (String.utf8EncodeChar c).length := by
    rw [String.length_utf8EncodeChar]
    exact c.utf8Size_pos
  rw [encodeChar, if_pos hidden]
  cases octets : String.utf8EncodeChar c with
  | nil => simp [octets] at some
  | cons first rest => exact ⟨_, rfl, by simp⟩

theorem percentEncode_cons_of_plain {encoded : Char → Bool} (plain : encoded c = false) :
    percentEncode encoded (c :: rest) = c :: percentEncode encoded rest := by
  rw [percentEncode, List.flatMap_cons, encodeChar, plain]
  rfl

theorem percentEncode_cons_of_hidden {encoded : Char → Bool} (hidden : encoded c = true) :
    percentDecode (percentEncode encoded (c :: rest)) =
      String.utf8EncodeChar c ++ percentDecode (percentEncode encoded rest) := by
  rw [percentEncode, List.flatMap_cons, encodeChar, if_pos hidden, percentDecode_encodeOctets]
  rfl

/-- Encoding makes no escape of what was none. -/
theorem beginsEscape_percentEncode :
    beginsEscape (c :: percentEncode encodedInPath rest) = beginsEscape (c :: rest) := by
  have percent : Text.hexValue? '%' = none := rfl
  by_cases marked : c = '%'
  · subst marked
    cases rest with
    | nil => rfl
    | cons a rest =>
      cases first : encodedInPath a with
      | true =>
        obtain ⟨digits, written, some⟩ := encodeChar_of_encoded first
        obtain ⟨d, digits, rfl⟩ := List.exists_cons_of_ne_nil some
        rw [percentEncode, List.flatMap_cons, written]
        cases rest <;> simp [beginsEscape, percent, hexValue?_of_encoded first]
      | false =>
        rw [percentEncode_cons_of_plain first]
        cases rest with
        | nil => rfl
        | cons b rest =>
          cases second : encodedInPath b with
          | true =>
            obtain ⟨digits, written, _⟩ := encodeChar_of_encoded second
            rw [percentEncode, List.flatMap_cons, written]
            simp [beginsEscape, percent, hexValue?_of_encoded second]
          | false =>
            rw [percentEncode_cons_of_plain second]
            rfl
  · simp [beginsEscape, marked]

private theorem percentDecode_encoded_cons (plain : beginsEscape (c :: rest) = false)
    (ih : percentDecode (percentEncode encodedInPath rest) = percentDecode rest) :
    percentDecode (percentEncode encodedInPath (c :: rest)) = percentDecode (c :: rest) := by
  rw [percentDecode_cons plain, ← ih]
  cases hidden : encodedInPath c with
  | true => exact percentEncode_cons_of_hidden hidden
  | false =>
    rw [percentEncode_cons_of_plain hidden]
    exact percentDecode_cons (beginsEscape_percentEncode.trans plain)

theorem encodedInPath_of_hexValue? {n : Nat} (digit : Text.hexValue? c = some n) : encodedInPath c = false := by
  cases hidden : encodedInPath c with
  | false => rfl
  | true =>
    rw [hexValue?_of_encoded hidden] at digit
    cases digit

theorem percentDecode_percentEncode (cs : List Char) :
    percentDecode (percentEncode encodedInPath cs) = percentDecode cs := by
  fun_induction percentDecode cs with
  | case1 => rfl
  | case2 a b rest x y second first ih =>
    have percent : encodedInPath '%' = false := rfl
    rw [percentEncode_cons_of_plain percent, percentEncode_cons_of_plain (encodedInPath_of_hexValue? first),
      percentEncode_cons_of_plain (encodedInPath_of_hexValue? second), percentDecode_escape first second, ih]
  | case3 a b rest unread ih =>
    have plain : beginsEscape ('%' :: a :: b :: rest) = false := by
      cases begins : beginsEscape ('%' :: a :: b :: rest) with
      | false => rfl
      | true =>
        obtain ⟨_, _, x, y, _, same, first, second⟩ := beginsEscape_iff.mp begins
        cases same
        exact absurd second (unread x y first)
    rw [percentDecode_encoded_cons plain ih, percentDecode_cons plain]
  | case4 c rest short ih =>
    have plain : beginsEscape (c :: rest) = false := by
      cases begins : beginsEscape (c :: rest) with
      | false => rfl
      | true =>
        obtain ⟨a, b, _, _, after, same, _, _⟩ := beginsEscape_iff.mp begins
        cases same
        exact absurd rfl (short a b after rfl)
    rw [percentDecode_encoded_cons plain ih, percentDecode_cons plain]

theorem slash_notMem_percentEncode {encoded : Char → Bool} (absent : '/' ∉ cs) : '/' ∉ percentEncode encoded cs := by
  have undigit : ∀ {n : Nat}, n < 16 → '/' ≠ hexDigit n := by
    intro n small same
    have value := hexValue?_hexDigit small
    rw [← same] at value
    cases value
  intro member
  obtain ⟨c, among, written⟩ := List.mem_flatMap.mp member
  unfold encodeChar at written
  split at written
  · obtain ⟨octet, _, digits⟩ := List.mem_flatMap.mp written
    have bound := octet.toNat_lt
    simp only [encodeOctet, List.mem_cons, List.not_mem_nil, or_false] at digits
    rcases digits with percent | high | low
    · cases percent
    · exact undigit (by omega) high
    · exact undigit (by omega) low
  · rw [List.mem_singleton] at written
    exact absent (written ▸ among)

end Encoding

end BackendRegistrar.Url
