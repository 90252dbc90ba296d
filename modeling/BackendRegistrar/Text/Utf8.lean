/-! Octets of a text, and text from octets: strictly, or with each ill-formed
stretch replaced by U+FFFD. -/

namespace BackendRegistrar.Text

def octets (s : String) : List UInt8 := s.toUTF8.toList

private theorem loop_eq (bytes : ByteArray) (i : Nat) (done : List UInt8) :
    ByteArray.toList.loop bytes i done = done.reverse ++ bytes.data.toList.drop i := by
  fun_induction ByteArray.toList.loop bytes i done with
  | case1 i done more ih =>
    have within : i < bytes.data.toList.length := by simpa using more
    have here : bytes.get! i = bytes.data.toList[i] := by
      rw [Array.getElem_toList]
      exact getElem!_pos bytes.data i more
    rw [ih, List.drop_eq_getElem_cons within, here, List.reverse_cons, List.append_assoc]
    rfl
  | case2 i done passed =>
    have past : bytes.data.toList.length ≤ i := by simpa using passed
    rw [List.drop_eq_nil_of_le past, List.append_nil]

/-- A text is written character by character. -/
theorem octets_eq (s : String) : octets s = s.toList.flatMap String.utf8EncodeChar := by
  rw [octets, ByteArray.toList, loop_eq, String.toUTF8, ← String.utf8Encode_toList, List.utf8Encode, List.toList_data_toByteArray]
  rfl

theorem octets_injective {s t : String} (same : octets s = octets t) : s = t := by
  rw [octets_eq, octets_eq] at same
  have encoded : s.toList.utf8Encode = t.toList.utf8Encode := by rw [List.utf8Encode, same, List.utf8Encode]
  rw [String.utf8Encode_toList, String.utf8Encode_toList] at encoded
  exact String.toByteArray_inj.mp encoded

def ofOctets? (bs : List UInt8) : Option String := String.fromUTF8? ⟨bs.toArray⟩

def replacement : Char := '\uFFFD'

/-- Continuation octets that a lead octet owes, and the range of the first of them. -/
def owed (lead : UInt8) : Option (Nat × UInt8 × UInt8) :=
  if 0xC2 ≤ lead && lead ≤ 0xDF then some (1, 0x80, 0xBF)
  else if lead == 0xE0 then some (2, 0xA0, 0xBF)
  else if lead == 0xED then some (2, 0x80, 0x9F)
  else if 0xE1 ≤ lead && lead ≤ 0xEF then some (2, 0x80, 0xBF)
  else if lead == 0xF0 then some (3, 0x90, 0xBF)
  else if 0xF1 ≤ lead && lead ≤ 0xF3 then some (3, 0x80, 0xBF)
  else if lead == 0xF4 then some (3, 0x80, 0x8F)
  else none

def continuation (low high : UInt8) : Nat → List UInt8 → List UInt8
  | 0, _ => []
  | _, [] => []
  | count + 1, b :: rest =>
    if low ≤ b && b ≤ high then b :: continuation 0x80 0xBF count rest else []

/-- The character that starts with `lead`, and how many octets of `rest` it takes. An
ill-formed character takes the longest stretch that could have begun one. -/
def firstChar (lead : UInt8) (rest : List UInt8) : Char × Nat :=
  if lead < 0x80 then (Char.ofNat lead.toNat, 0)
  else match owed lead with
    | none => (replacement, 0)
    | some (count, low, high) =>
      let tail := continuation low high count rest
      if tail.length = count then
        let top := lead.toNat % (64 >>> count)
        (Char.ofNat (tail.foldl (fun n b => n * 64 + b.toNat % 64) top), count)
      else (replacement, tail.length)

def decodeReplacing : List UInt8 → List Char
  | [] => []
  | lead :: rest =>
    let (c, taken) := firstChar lead rest
    c :: decodeReplacing (rest.drop taken)
termination_by bs => bs.length
decreasing_by simp only [List.length_drop, List.length_cons]; omega

def ofOctetsReplacing (bs : List UInt8) : String := String.ofList (decodeReplacing bs)

end BackendRegistrar.Text
