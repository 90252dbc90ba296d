/-! Base64 with the standard alphabet and padding. Reading accepts exactly what writing
produces: the bits that padding stands for are zero. -/

namespace BackendRegistrar.Text.Base64

def letter (n : Nat) : Char :=
  if n < 26 then Char.ofNat (n + 65)
  else if n < 52 then Char.ofNat (n + 71)
  else if n < 62 then Char.ofNat (n - 4)
  else if n = 62 then '+'
  else '/'

def value? (c : Char) : Option Nat :=
  if 'A' ≤ c ∧ c ≤ 'Z' then some (c.toNat - 65)
  else if 'a' ≤ c ∧ c ≤ 'z' then some (c.toNat - 71)
  else if '0' ≤ c ∧ c ≤ '9' then some (c.toNat + 4)
  else if c = '+' then some 62
  else if c = '/' then some 63
  else none

def encodeChars : List UInt8 → List Char
  | [] => []
  | [a] =>
    let n := a.toNat * 16
    [letter (n / 64), letter (n % 64), '=', '=']
  | [a, b] =>
    let n := (a.toNat * 256 + b.toNat) * 4
    [letter (n / 4096), letter (n / 64 % 64), letter (n % 64), '=']
  | a :: b :: c :: rest =>
    let n := (a.toNat * 256 + b.toNat) * 256 + c.toNat
    letter (n / 262144) :: letter (n / 4096 % 64) :: letter (n / 64 % 64) :: letter (n % 64) ::
      encodeChars rest

/-- Reads groups of four characters; only the last may be padded. -/
def decodeChars : List Char → Option (List UInt8)
  | [] => some []
  | [p, q, '=', '='] => do
    let n := (← value? p) * 64 + (← value? q)
    if n % 16 = 0 then some [UInt8.ofNat (n / 16)] else none
  | [p, q, r, '='] => do
    let n := ((← value? p) * 64 + (← value? q)) * 64 + (← value? r)
    if n % 4 = 0 then some [UInt8.ofNat (n / 1024), UInt8.ofNat (n / 4)] else none
  | p :: q :: r :: s :: rest => do
    let n := (((← value? p) * 64 + (← value? q)) * 64 + (← value? r)) * 64 + (← value? s)
    let tail ← decodeChars rest
    some (UInt8.ofNat (n / 65536) :: UInt8.ofNat (n / 256) :: UInt8.ofNat n :: tail)
  | _ => none

def encode (bs : List UInt8) : String := String.ofList (encodeChars bs)

def decode? (s : String) : Option (List UInt8) := decodeChars s.toList

theorem value?_letter {n : Nat} (small : n < 64) : value? (letter n) = some n := by
  have all : ∀ n < 64, value? (letter n) = some n := by decide
  exact all n small

theorem letter_ne {n : Nat} {c : Char} (small : n < 64) (meaningless : value? c = none) : letter n ≠ c := by
  intro same
  have read := value?_letter small
  rw [same, meaningless] at read
  cases read

/-- Four letters are read as the three octets that they hold the bits of. -/
theorem decodeChars_letters {p q r s : Nat} (hp : p < 64) (hq : q < 64) (hr : r < 64) (hs : s < 64) (rest : List Char) :
    decodeChars (letter p :: letter q :: letter r :: letter s :: rest) =
      (decodeChars rest).map fun tail =>
        let n := ((p * 64 + q) * 64 + r) * 64 + s
        UInt8.ofNat (n / 65536) :: UInt8.ofNat (n / 256) :: UInt8.ofNat n :: tail := by
  have unpadded : letter s ≠ '=' := letter_ne hs rfl
  rw [decodeChars]
  · simp only [value?_letter hp, value?_letter hq, value?_letter hr, value?_letter hs]
    cases decodeChars rest <;> rfl
  · intro _ same _
    exact unpadded same
  · intro same _
    exact unpadded same

private theorem ofNat_eq {n : Nat} {octet : UInt8} (same : n % 256 = octet.toNat) : UInt8.ofNat n = octet := by
  apply UInt8.toNat_inj.mp
  rw [UInt8.toNat_ofNat', same]

theorem decodeChars_encodeChars (octets : List UInt8) : decodeChars (encodeChars octets) = some octets := by
  fun_induction encodeChars octets with
  | case1 => rfl
  | case2 a n =>
    have bound := a.toNat_lt
    have whole : n / 64 * 64 + n % 64 = n := by omega
    have octet : UInt8.ofNat (n / 16) = a := ofNat_eq (by omega)
    simp only [decodeChars, value?_letter (show n / 64 < 64 by omega), value?_letter (show n % 64 < 64 by omega)]
    change (if (n / 64 * 64 + n % 64) % 16 = 0 then some [UInt8.ofNat ((n / 64 * 64 + n % 64) / 16)] else none) = _
    rw [whole, if_pos (by omega), octet]
  | case3 a b n =>
    have high := a.toNat_lt
    have low := b.toNat_lt
    have last : n % 64 < 64 := by omega
    have whole : (n / 4096 * 64 + n / 64 % 64) * 64 + n % 64 = n := by omega
    have first : UInt8.ofNat (n / 1024) = a := ofNat_eq (by omega)
    have second : UInt8.ofNat (n / 4) = b := ofNat_eq (by omega)
    rw [decodeChars]
    · simp only [value?_letter (show n / 4096 < 64 by omega), value?_letter (show n / 64 % 64 < 64 by omega),
        value?_letter last]
      change (if ((n / 4096 * 64 + n / 64 % 64) * 64 + n % 64) % 4 = 0 then
        some [UInt8.ofNat (((n / 4096 * 64 + n / 64 % 64) * 64 + n % 64) / 1024),
          UInt8.ofNat (((n / 4096 * 64 + n / 64 % 64) * 64 + n % 64) / 4)] else none) = _
      rw [whole, if_pos (by omega), first, second]
    · exact letter_ne last rfl
  | case4 a b c rest n ih =>
    have high := a.toNat_lt
    have middle := b.toNat_lt
    have low := c.toNat_lt
    have whole : ((n / 262144 * 64 + n / 4096 % 64) * 64 + n / 64 % 64) * 64 + n % 64 = n := by omega
    have first : UInt8.ofNat (n / 65536) = a := ofNat_eq (by omega)
    have second : UInt8.ofNat (n / 256) = b := ofNat_eq (by omega)
    have third : UInt8.ofNat n = c := ofNat_eq (by omega)
    rw [decodeChars_letters (by omega) (by omega) (by omega) (by omega), ih]
    simp only [Option.map_some, whole, first, second, third]

/-- Nothing but letters and padding is written. -/
theorem mem_encodeChars {octets : List UInt8} {c : Char} (member : c ∈ encodeChars octets) :
    c = '=' ∨ ∃ n < 64, c = letter n := by
  fun_induction encodeChars octets with
  | case1 => cases member
  | case2 a n =>
    have bound := a.toNat_lt
    simp only [List.mem_cons, List.not_mem_nil, or_false] at member
    rcases member with rfl | rfl | rfl | rfl
    · exact .inr ⟨_, by omega, rfl⟩
    · exact .inr ⟨_, by omega, rfl⟩
    · exact .inl rfl
    · exact .inl rfl
  | case3 a b n =>
    have high := a.toNat_lt
    have low := b.toNat_lt
    simp only [List.mem_cons, List.not_mem_nil, or_false] at member
    rcases member with rfl | rfl | rfl | rfl
    · exact .inr ⟨_, by omega, rfl⟩
    · exact .inr ⟨_, by omega, rfl⟩
    · exact .inr ⟨_, by omega, rfl⟩
    · exact .inl rfl
  | case4 a b c rest n ih =>
    have high := a.toNat_lt
    have middle := b.toNat_lt
    have low := c.toNat_lt
    simp only [List.mem_cons] at member
    rcases member with rfl | rfl | rfl | rfl | later
    · exact .inr ⟨_, by omega, rfl⟩
    · exact .inr ⟨_, by omega, rfl⟩
    · exact .inr ⟨_, by omega, rfl⟩
    · exact .inr ⟨_, by omega, rfl⟩
    · exact ih later

theorem decode?_encode (octets : List UInt8) : decode? (encode octets) = some octets := by
  rw [decode?, encode, String.toList_ofList, decodeChars_encodeChars]

end BackendRegistrar.Text.Base64
