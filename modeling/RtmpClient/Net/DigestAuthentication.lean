import RtmpClient.Net.Md5

namespace RtmpClient
namespace Net

open Library

/-!
# Digest authentication (`app_protocol/DigestAuthentication.cc`)

Strings are C strings and given without their zero byte; a null pointer is
`none`.  `fresh` is what stands in memory that is allocated, and `context` what
stands in the buffer of a hash.
-/

structure Authenticator where
  fRealm : Option (List UInt8)
  fNonce : Option (List UInt8)
  fUsername : Option (List UInt8)
  fPassword : Option (List UInt8)
  fPasswordIsMD5 : Bool
  deriving DecidableEq, Repr

namespace Authenticator

def resetRealmAndNonce (authenticator : Authenticator) : Authenticator :=
  { authenticator with fRealm := none, fNonce := none }

def resetUsernameAndPassword (authenticator : Authenticator) : Authenticator :=
  { authenticator with fUsername := none, fPassword := none, fPasswordIsMD5 := false }

def assignRealmAndNonce (authenticator : Authenticator) (realm nonce : Option (List UInt8)) : Authenticator :=
  { authenticator with fRealm := realm, fNonce := nonce }

def assignUsernameAndPassword (authenticator : Authenticator) (username password : Option (List UInt8))
    (passwordIsMD5 : Bool) : Authenticator :=
  { authenticator with fUsername := username, fPassword := password, fPasswordIsMD5 := passwordIsMD5 }

def setRealmAndNonce (authenticator : Authenticator) (realm nonce : Option (List UInt8)) : Authenticator :=
  authenticator.resetRealmAndNonce.assignRealmAndNonce realm nonce

def setUsernameAndPassword (authenticator : Authenticator) (username password : Option (List UInt8))
    (passwordIsMD5 : Bool) : Authenticator :=
  authenticator.resetUsernameAndPassword.assignUsernameAndPassword username password passwordIsMD5

/-- The default constructor. -/
def new : Authenticator where
  fRealm := none
  fNonce := none
  fUsername := none
  fPassword := none
  fPasswordIsMD5 := false

end Authenticator

/-- A string behind a pointer that is not null. -/
def stringAt (pointer : Option (List UInt8)) : Outcome (List UInt8) :=
  match pointer with
  | some text => .ok text
  | none => .fault

/-- `sprintf` into allocated memory, and the hash of the first `dataLen` bytes of
it. -/
def hashText (context : List UInt8) (fresh : Nat -> UInt8) (dataLen : Nat) (text : List UInt8) :
    Outcome (List UInt8) := do
  let data := (List.range ((dataLen + 1) % 2 ^ 32)).map fresh
  let data ← Outcome.copyInto data 0 (text ++ [0])
  let hashed ← Outcome.slice data 0 dataLen
  ourMD5Data context hashed

/-- `':'`. -/
def colonText : List UInt8 := ascii ":"

/-- `computeDigestResponse`. -/
def Authenticator.computeDigestResponse (context : List UInt8) (fresh : Nat -> UInt8) (authenticator : Authenticator)
    (cmd url : List UInt8) : Outcome (List UInt8) := do
  let ha1Buf ←
    if authenticator.fPasswordIsMD5 then do
      let password ← stringAt authenticator.fPassword
      pure (password.take 32)
    else do
      let username ← stringAt authenticator.fUsername
      let realm ← stringAt authenticator.fRealm
      let password ← stringAt authenticator.fPassword
      let ha1DataLen := (username.length + 1 + realm.length + 1 + password.length) % 2 ^ 32
      hashText context fresh ha1DataLen (username ++ colonText ++ realm ++ colonText ++ password)
  let ha2DataLen := (cmd.length + 1 + url.length) % 2 ^ 32
  let ha2Buf ← hashText context fresh ha2DataLen (cmd ++ colonText ++ url)
  let nonce ← stringAt authenticator.fNonce
  let digestDataLen := (32 + 1 + nonce.length + 1 + 32) % 2 ^ 32
  hashText context fresh digestDataLen (ha1Buf ++ colonText ++ nonce ++ colonText ++ ha2Buf)

/-! ## What is hashed -/

/-- What a hash of that many bytes takes in behind a text that is printed: its
zero byte, and what stood in the memory. -/
def behindText (fresh : Nat -> UInt8) (printed dataLen : Nat) : List UInt8 :=
  (0 :: ((List.range (dataLen + 1)).map fresh).drop (printed + 1)).take (dataLen - printed)

theorem behindText_exact (fresh : Nat -> UInt8) (dataLen : Nat) : behindText fresh dataLen dataLen = [] := by
  rw [behindText, Nat.sub_self, List.take_zero]

/-- 32 characters, the nonce and the 34 behind it. -/
theorem behindText_response (fresh : Nat -> UInt8) (length : Nat) :
    behindText fresh (32 + length + 34) (length + 66) = [] := by
  rw [Nat.add_right_comm 32, Nat.add_comm _ length]
  exact behindText_exact fresh _

theorem hexDigits_length (bytes : List UInt8) : (hexDigits bytes).length = 2 * bytes.length := by
  induction bytes with
  | nil => rfl
  | cons byte bytes inductionHypothesis =>
      rw [hexDigits] at inductionHypothesis
      rw [hexDigits, List.flatMap_cons, List.length_append, inductionHypothesis, List.length_cons]
      exact Nat.add_comm _ _

theorem md5_length (message : List UInt8) : (md5 message).length = 16 := by
  rw [md5]
  simp only [List.flatMap_cons, List.flatMap_nil, List.append_nil, List.length_append, leBytes_length]

theorem colonText_length : colonText.length = 1 := rfl

/-- The length that is given is that of the text, or more. -/
theorem hashText_eq {context : List UInt8} (size : context.length = 64) (fresh : Nat -> UInt8) {dataLen : Nat}
    {text : List UInt8} (small : dataLen + 1 < 2 ^ 32) (room : text.length ≤ dataLen) :
    hashText context fresh dataLen text = .ok (hexDigits (md5 (text ++ behindText fresh text.length dataLen))) := by
  have width : ((List.range (dataLen + 1)).map fresh).length = dataLen + 1 := by
    rw [List.length_map, List.length_range]
  have printed : (text ++ [0]).length = text.length + 1 := by
    rw [List.length_append, List.length_singleton]
  have inside : 0 + (text ++ [0]).length ≤ ((List.range (dataLen + 1)).map fresh).length := by
    rw [width, printed]
    omega
  have copied := Outcome.copyInto_of_le inside
  have whole : overwrite ((List.range (dataLen + 1)).map fresh) 0 (text ++ [0]) =
      text ++ (0 :: ((List.range (dataLen + 1)).map fresh).drop (text.length + 1)) := by
    rw [overwrite, List.take_zero, List.nil_append, Nat.zero_add, printed, List.append_assoc]
    rfl
  have hashed : Outcome.slice (overwrite ((List.range (dataLen + 1)).map fresh) 0 (text ++ [0])) 0 dataLen =
      .ok (text ++ behindText fresh text.length dataLen) := by
    have within : 0 + dataLen ≤ (overwrite ((List.range (dataLen + 1)).map fresh) 0 (text ++ [0])).length := by
      rw [overwrite_length inside, width]
      omega
    rw [Outcome.slice_of_le within, List.drop_zero, whole, List.take_append, List.take_of_length_le room]
    rfl
  have given : (text ++ behindText fresh text.length dataLen).length < 2 ^ 32 := by
    have few : (behindText fresh text.length dataLen).length ≤ dataLen - text.length := List.length_take_le _ _
    rw [List.length_append]
    omega
  simp only [hashText]
  rw [Nat.mod_eq_of_lt small, copied, Outcome.ok_bind_do, hashed, Outcome.ok_bind_do, ourMD5Data_eq size given]

/-- The response for a first half that is given: `<ha1>:<nonce>:md5(<cmd>:<url>)`,
hashed. -/
def digestText (ha1 nonce cmd url : List UInt8) : List UInt8 :=
  ha1 ++ colonText ++ nonce ++ colonText ++ hexDigits (md5 (cmd ++ colonText ++ url))

theorem digestText_length (ha1 nonce cmd url : List UInt8) :
    (digestText ha1 nonce cmd url).length = ha1.length + nonce.length + 34 := by
  simp only [digestText, List.length_append, hexDigits_length, md5_length, colonText_length]
  omega

/-- What `computeDigestResponse` prints for the user: at most 32 characters. -/
def Authenticator.ha1 (passwordIsMD5 : Bool) (username realm password : List UInt8) : List UInt8 :=
  if passwordIsMD5 then password.take 32 else hexDigits (md5 (username ++ colonText ++ realm ++ colonText ++ password))

theorem Authenticator.ha1_length (passwordIsMD5 : Bool) (username realm password : List UInt8) :
    (Authenticator.ha1 passwordIsMD5 username realm password).length ≤ 32 := by
  cases passwordIsMD5 with
  | true => exact List.length_take_le _ _
  | false =>
      rw [Authenticator.ha1, if_neg Bool.false_ne_true, hexDigits_length, md5_length]

section Response

variable {context : List UInt8} (size : context.length = 64) (fresh : Nat -> UInt8)
  {username realm password nonce cmd url : List UInt8} (nonceFits : nonce.length + 67 < 2 ^ 32)
  (requestFits : cmd.length + url.length + 2 < 2 ^ 32)

include size nonceFits requestFits

/-- The response.  32 characters are counted for the user: where there are fewer,
as of a password that should be a hash and is shorter, the zero byte and what
stood in the memory are hashed too. -/
theorem computeDigestResponse_eq (passwordIsMD5 : Bool)
    (userFits : passwordIsMD5 = false -> username.length + realm.length + password.length + 3 < 2 ^ 32) :
    Authenticator.computeDigestResponse context fresh
        { fRealm := some realm, fNonce := some nonce, fUsername := some username, fPassword := some password,
          fPasswordIsMD5 := passwordIsMD5 } cmd url =
      .ok (hexDigits (md5 (digestText (Authenticator.ha1 passwordIsMD5 username realm password) nonce cmd url ++
        behindText fresh
          ((Authenticator.ha1 passwordIsMD5 username realm password).length + nonce.length + 34)
          (nonce.length + 66)))) := by
  have short := Authenticator.ha1_length passwordIsMD5 username realm password
  have request : hashText context fresh (cmd.length + 1 + url.length) (cmd ++ colonText ++ url) =
      .ok (hexDigits (md5 (cmd ++ colonText ++ url))) := by
    have exactly : (cmd ++ colonText ++ url).length = cmd.length + 1 + url.length := by
      rw [List.length_append, List.length_append, colonText_length]
    rw [hashText_eq size fresh (by omega) (Nat.le_of_eq exactly), exactly, behindText_exact, List.append_nil]
  have response : hashText context fresh (nonce.length + 66)
      (digestText (Authenticator.ha1 passwordIsMD5 username realm password) nonce cmd url) =
      .ok (hexDigits (md5 (digestText (Authenticator.ha1 passwordIsMD5 username realm password) nonce cmd url ++
        behindText fresh
          ((Authenticator.ha1 passwordIsMD5 username realm password).length + nonce.length + 34)
          (nonce.length + 66)))) := by
    rw [hashText_eq size fresh (by omega) (by rw [digestText_length]; omega), digestText_length]
  have requestSize : (cmd.length + 1 + url.length) % 2 ^ 32 = cmd.length + 1 + url.length :=
    Nat.mod_eq_of_lt (by omega)
  have responseSize : (32 + 1 + nonce.length + 1 + 32) % 2 ^ 32 = nonce.length + 66 := by omega
  cases passwordIsMD5 with
  | true =>
      simp only [Authenticator.computeDigestResponse, stringAt, if_pos, Outcome.ok_bind_do, requestSize, request,
        responseSize]
      exact response
  | false =>
      have few := userFits rfl
      have user : hashText context fresh (username.length + 1 + realm.length + 1 + password.length)
          (username ++ colonText ++ realm ++ colonText ++ password) =
          .ok (hexDigits (md5 (username ++ colonText ++ realm ++ colonText ++ password))) := by
        have exactly : (username ++ colonText ++ realm ++ colonText ++ password).length =
            username.length + 1 + realm.length + 1 + password.length := by
          simp only [List.length_append, colonText_length]
        rw [hashText_eq size fresh (by omega) (Nat.le_of_eq exactly), exactly, behindText_exact, List.append_nil]
      have userSize : (username.length + 1 + realm.length + 1 + password.length) % 2 ^ 32 =
          username.length + 1 + realm.length + 1 + password.length := Nat.mod_eq_of_lt (by omega)
      simp only [Authenticator.computeDigestResponse, stringAt, if_neg Bool.false_ne_true, Outcome.ok_bind_do, userSize,
        user, requestSize, request, responseSize]
      exact response

end Response

/-- An authenticator that was given `md5(<username>:<realm>:<password>)` instead
of the password answers every request as one that was given the password, and
both give the digest of the comment at `computeDigestResponse`, whatever they
held before and whatever stood in the memory they use. -/
theorem digest_prehashed {context context' : List UInt8} (size : context.length = 64) (size' : context'.length = 64)
    (fresh fresh' : Nat -> UInt8) (previous previous' : Authenticator)
    {username username' realm password nonce cmd url : List UInt8}
    (userFits : username.length + realm.length + password.length + 3 < 2 ^ 32)
    (nonceFits : nonce.length + 67 < 2 ^ 32) (requestFits : cmd.length + url.length + 2 < 2 ^ 32) :
    ((previous.setRealmAndNonce (some realm) (some nonce)).setUsernameAndPassword (some username) (some password)
        false).computeDigestResponse context fresh cmd url =
      .ok (hexDigits (md5 (digestText
        (hexDigits (md5 (username ++ colonText ++ realm ++ colonText ++ password))) nonce cmd url))) ∧
    ((previous'.setRealmAndNonce (some realm) (some nonce)).setUsernameAndPassword (some username')
        (some (hexDigits (md5 (username ++ colonText ++ realm ++ colonText ++ password))))
        true).computeDigestResponse context' fresh' cmd url =
      .ok (hexDigits (md5 (digestText
        (hexDigits (md5 (username ++ colonText ++ realm ++ colonText ++ password))) nonce cmd url))) := by
  have digits : (hexDigits (md5 (username ++ colonText ++ realm ++ colonText ++ password))).length = 32 := by
    rw [hexDigits_length, md5_length]
  constructor
  · have plain := computeDigestResponse_eq size fresh nonceFits requestFits false fun _ => userFits
    have whole : Authenticator.ha1 false username realm password =
        hexDigits (md5 (username ++ colonText ++ realm ++ colonText ++ password)) := rfl
    rw [whole, digits, behindText_response, List.append_nil] at plain
    exact plain
  · have hashed := @computeDigestResponse_eq _ size' fresh' username' realm
      (hexDigits (md5 (username ++ colonText ++ realm ++ colonText ++ password))) _ _ _ nonceFits requestFits true
      fun plain => Bool.noConfusion plain
    have whole : Authenticator.ha1 true username' realm
        (hexDigits (md5 (username ++ colonText ++ realm ++ colonText ++ password))) =
        hexDigits (md5 (username ++ colonText ++ realm ++ colonText ++ password)) :=
      List.take_of_length_le (Nat.le_of_eq digits)
    rw [whole, digits, behindText_response, List.append_nil] at hashed
    exact hashed

/-- A user whose password is one letter, and a hash that is given for another
name. -/
theorem digest_prehashed_get :
    ((Authenticator.new.setRealmAndNonce (some (ascii "r")) (some (ascii "n"))).setUsernameAndPassword
        (some (ascii "u")) (some (ascii "p")) false).computeDigestResponse (List.replicate 64 0) (fun _ => 0)
        (ascii "GET") (ascii "/") =
      .ok (hexDigits (md5 (digestText
        (hexDigits (md5 (ascii "u" ++ colonText ++ ascii "r" ++ colonText ++ ascii "p"))) (ascii "n") (ascii "GET")
        (ascii "/")))) ∧
    ((Authenticator.new.setRealmAndNonce (some (ascii "r")) (some (ascii "n"))).setUsernameAndPassword
        (some (ascii "v")) (some (hexDigits (md5 (ascii "u" ++ colonText ++ ascii "r" ++ colonText ++ ascii "p"))))
        true).computeDigestResponse (List.replicate 64 1) (fun _ => 1) (ascii "GET") (ascii "/") =
      .ok (hexDigits (md5 (digestText
        (hexDigits (md5 (ascii "u" ++ colonText ++ ascii "r" ++ colonText ++ ascii "p"))) (ascii "n") (ascii "GET")
        (ascii "/")))) :=
  digest_prehashed (by decide) (by decide) (fun _ => 0) (fun _ => 1) Authenticator.new Authenticator.new (by decide)
    (by decide) (by decide)

end Net
end RtmpClient
