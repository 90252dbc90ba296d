import BackendRegistrar.Cloud.Signing

/-! When a request can be signed. What is signed of a body are its length and its digest, which can
always be sent; so whether there is a signature depends on the key and on the address alone. -/

namespace BackendRegistrar.Cloud.Signer

variable {signer : Signer} {method date host : String} {url : Url} {body : Option (List UInt8)}

theorem sendable_append {first second : String} : sendable (first ++ second) = (sendable first && sendable second) := by
  simp [sendable]

theorem sendable_toString (n : Nat) : sendable (toString n) = true := by
  simp only [sendable, List.all_eq_true]
  intro c member
  have digits : c ∈ Nat.toDigits 10 n := by simpa using member
  have digit : c.isDigit = true := Nat.isDigit_of_mem_toDigits (by decide) (by decide) digits
  simp only [Char.isDigit, Bool.and_eq_true, decide_eq_true_eq] at digit
  have low : 48 ≤ c.toNat := digit.1
  have high : c.toNat ≤ 57 := digit.2
  have visible : 32 ≤ c.toNat ∧ c.toNat ≠ 127 := by omega
  simp [visible]

theorem sendable_base64 (octets : List UInt8) : sendable (Text.Base64.encode octets) = true := by
  have letters : ∀ n < 64, sendable (String.singleton (Text.Base64.letter n)) = true := by decide
  rw [sendable, Text.Base64.encode, String.toList_ofList, List.all_eq_true]
  intro c member
  rcases Text.Base64.mem_encodeChars member with rfl | ⟨n, small, rfl⟩
  · rfl
  · simpa [sendable] using letters n small

/-- The names of what is signed, as they are told in the header of the signature. -/
theorem sendable_names : sendable (" ".intercalate ((parts method url host body date).map Prod.fst)) = true := by
  cases body with
  | none =>
    have names : (parts method url host none date).map Prod.fst = ["date", targetName, "host"] := rfl
    rw [names]
    decide
  | some body =>
    have names : (parts method url host (some body) date).map Prod.fst =
      ["date", targetName, "host", "content-length", "content-type", "x-content-sha256"] := rfl
    rw [names]
    decide

theorem sendable_parts (dated : sendable date = true) (hosted : sendable host = true) :
    ∀ p ∈ parts method url host body date, p.1 ≠ targetName → sendable p.2 = true := by
  have typed : sendable "application/json" = true := by decide
  intro p member differs
  cases body with
  | none =>
    simp only [parts, bodyParts, List.append_nil, List.mem_cons, List.not_mem_nil, or_false] at member
    rcases member with rfl | rfl | rfl
    · exact dated
    · exact absurd rfl differs
    · exact hosted
  | some body =>
    simp only [parts, bodyParts, List.cons_append, List.nil_append, List.mem_cons, List.not_mem_nil, or_false] at member
    rcases member with rfl | rfl | rfl | rfl | rfl | rfl
    · exact dated
    · exact absurd rfl differs
    · exact hosted
    · exact sendable_toString _
    · exact typed
    · exact sendable_base64 _

theorem sendable_authorization {keyId signature : String} {names : List String} (named : sendable keyId = true)
    (listed : sendable (" ".intercalate names) = true) (encoded : sendable signature = true) :
    sendable (authorization keyId names signature) = true := by
  have opening : sendable "Signature version=\"1\",keyId=\"" = true := by decide +kernel
  have algorithm : sendable "\",algorithm=\"rsa-sha256\",headers=\"" = true := by decide +kernel
  have middle : sendable "\",signature=\"" = true := by decide +kernel
  have closing : sendable "\"" = true := by decide +kernel
  unfold authorization
  rw [sendable_append, sendable_append, sendable_append, sendable_append, sendable_append, sendable_append]
  rw [opening, named, algorithm, listed, middle, encoded, closing]
  rfl

/-- A request with any body is signed, if its address has a host, the key signs every text, and the
name of the key, the date and the host can be sent. -/
theorem sign_ok (found : hostHeader url = .ok host) (signs : ∀ text, ∃ signature, signer.key.sign text = .ok signature)
    (named : sendable signer.keyId = true) (dated : sendable date = true) (hosted : sendable host = true) :
    ∃ headers, signer.sign method url body date = .ok headers := by
  obtain ⟨signature, made⟩ := signs (Text.octets (signingText (parts method url host body date)))
  have authorized : sendable (authorization signer.keyId ((parts method url host body date).map Prod.fst)
      (Text.Base64.encode signature)) = true := sendable_authorization named sendable_names (sendable_base64 signature)
  have all : (((parts method url host body date).filter fun p => p.1 ≠ targetName) ++
      [("authorization", authorization signer.keyId ((parts method url host body date).map Prod.fst)
        (Text.Base64.encode signature))]).all (fun h => sendable h.2) = true := by
    rw [List.all_append, Bool.and_eq_true, List.all_eq_true]
    refine ⟨?_, by simp [authorized]⟩
    intro p member
    obtain ⟨among, differs⟩ := List.mem_filter.mp member
    exact sendable_parts dated hosted p among (by simpa using differs)
  have signed : (Except.ok signature).mapError signingFailure = .ok signature := rfl
  simp only [sign, found, made, signed, bind, Except.bind, all, ite_true]
  exact ⟨_, rfl⟩

section PlainKey

/-! A key with exponents of one leaves what is padded as it is, so that it signs every text. -/

def plainKey : Crypto.RsaKey := ⟨Nat.pow 256 64 - 1, 1, 1, 0, 0⟩

private theorem powMod_one {base modulus : Nat} (fits : base < modulus) : Crypto.powMod base 1 modulus = base := by
  rw [Crypto.powMod, if_neg (by decide), Crypto.powMod]
  simp [Nat.mod_eq_of_lt fits]

private theorem plainKey_pads (text : List UInt8) :
    ∃ rest, plainKey.paddedDigest text = .ok (0 :: rest) ∧ rest.length = 63 := by
  have size : plainKey.size = 64 := by decide +kernel
  have info : (Crypto.RsaKey.digestPrefix ++ Crypto.Sha256.digest text).length = 51 := by
    simp [Crypto.Sha256.digest, Crypto.RsaKey.digestPrefix]
  unfold Crypto.RsaKey.paddedDigest
  dsimp only
  rw [size, info]
  refine ⟨1 :: List.replicate 10 0xff ++ 0 :: (Crypto.RsaKey.digestPrefix ++ Crypto.Sha256.digest text), rfl, ?_⟩
  rw [List.length_append, List.length_cons, List.length_replicate, List.length_cons, info]

theorem plainKey_signs (text : List UInt8) : ∃ signature, plainKey.sign text = .ok signature := by
  obtain ⟨rest, padded, length⟩ := plainKey_pads text
  have fits : Octets.toNat (0 :: rest) < plainKey.modulus := by
    have below : Octets.toNat (0 :: rest) < Nat.pow 256 63 := length ▸ Octets.toNat_lt rest
    have room : Nat.pow 256 63 < plainKey.modulus := by decide +kernel
    exact Nat.lt_trans below room
  have kept : Crypto.powMod (Octets.toNat (0 :: rest)) 1 plainKey.modulus = Octets.toNat (0 :: rest) := powMod_one fits
  have decrypted : plainKey.decrypt (Octets.toNat (0 :: rest)) = Octets.toNat (0 :: rest) := by
    have uneven : Crypto.inverse? plainKey.prime2 plainKey.prime1 = none := by decide +kernel
    unfold Crypto.RsaKey.decrypt
    rw [uneven]
    exact kept
  have undone : Crypto.powMod (Octets.toNat (0 :: rest)) plainKey.publicExponent plainKey.modulus =
      Octets.toNat (0 :: rest) := kept
  simp only [Crypto.RsaKey.sign, padded, bind, Except.bind, decrypted, undone, ite_true]
  exact ⟨_, rfl⟩

end PlainKey

end BackendRegistrar.Cloud.Signer
