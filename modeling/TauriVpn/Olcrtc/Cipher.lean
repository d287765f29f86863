import TauriVpn.Olcrtc.Crypto
import TauriVpn.Olcrtc.Frame

/-! Encrypting and decrypting a frame. The authenticated encryption itself is a library,
and a parameter here; a ciphertext is the nonce that was drawn for it followed by what the
library made of the frame. -/

namespace TauriVpn.Olcrtc

/-- `XChaCha20Poly1305`, by key and nonce. Its errors are shown as texts. -/
structure Aead where
  encrypt : Vector UInt8 32 → Vector UInt8 24 → Bytes → Except String Bytes
  decrypt : Vector UInt8 32 → Vector UInt8 24 → Bytes → Except String Bytes

/-- What was encrypted is read back under its key and nonce. -/
def Aead.Correct (aead : Aead) : Prop :=
  ∀ key nonce plaintext encrypted, aead.encrypt key nonce plaintext = .ok encrypted →
    aead.decrypt key nonce encrypted = .ok plaintext

def nonceSize : ℕ := 24

/-- `XNonce::from_slice(&ciphertext[..24])`. -/
def nonceOf (ciphertext : Bytes) : Vector UInt8 24 := Vector.ofFn fun i => ciphertext.getD i 0

namespace OlcCipher

/-- `encrypt`, with the nonce that the random generator gives it. -/
def encrypt (aead : Aead) (cipher : OlcCipher) (nonce : Vector UInt8 24) (plaintext : Bytes) :
    Except VpnError Bytes :=
  match aead.encrypt cipher.key nonce plaintext with
  | .ok encrypted => .ok (nonce.toList ++ encrypted)
  | .error error => .error (.engine ("OLC RTC encrypt failed: " ++ error))

def decrypt (aead : Aead) (cipher : OlcCipher) (ciphertext : Bytes) : Except VpnError Bytes :=
  if ciphertext.length < nonceSize then
    .error (.engine "OLC RTC ciphertext shorter than nonce")
  else
    match aead.decrypt cipher.key (nonceOf ciphertext) (ciphertext.drop nonceSize) with
    | .ok plaintext => .ok plaintext
    | .error error => .error (.engine ("OLC RTC decrypt failed: " ++ error))

/-- The frame that a ciphertext is read as, where it is read as one. -/
def opened (aead : Aead) (cipher : OlcCipher) (ciphertext : Bytes) : Option Bytes :=
  (cipher.decrypt aead ciphertext).toOption

end OlcCipher

section RoundTrip
variable {aead : Aead} {cipher : OlcCipher}

@[simp] theorem nonce_length (nonce : Vector UInt8 24) : nonce.toList.length = nonceSize := by
  simp [nonceSize]

theorem nonceOf_append (nonce : Vector UInt8 24) (encrypted : Bytes) :
    nonceOf (nonce.toList ++ encrypted) = nonce := by
  apply Vector.ext
  intro i hi
  have hlt : i < nonce.toList.length := by rw [nonce_length]; exact hi
  rw [nonceOf, Vector.getElem_ofFn, List.getD_eq_getElem?_getD, List.getElem?_append_left hlt,
    List.getElem?_eq_getElem hlt, Option.getD_some]
  simp

/-- A ciphertext is read back as its frame. -/
theorem OlcCipher.opened_of_encrypt (haead : aead.Correct) {nonce : Vector UInt8 24} {frame ciphertext : Bytes}
    (h : cipher.encrypt aead nonce frame = .ok ciphertext) : cipher.opened aead ciphertext = some frame := by
  unfold OlcCipher.encrypt at h
  cases hseal : aead.encrypt cipher.key nonce frame with
  | error error => simp [hseal] at h
  | ok encrypted =>
    rw [hseal] at h
    obtain rfl := Except.ok.inj h
    have hlong : ¬(nonce.toList ++ encrypted).length < nonceSize := by
      rw [List.length_append, nonce_length]
      omega
    have hdrop : (nonce.toList ++ encrypted).drop nonceSize = encrypted := by
      rw [← nonce_length nonce, List.drop_left]
    rw [OlcCipher.opened, OlcCipher.decrypt, if_neg hlong, nonceOf_append, hdrop,
      haead _ _ _ _ hseal]
    rfl

end RoundTrip

end TauriVpn.Olcrtc
