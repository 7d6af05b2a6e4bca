import ZdmProxy.Lib.Delimited

/-!
# PasswordAuthenticator tokens

A client's AUTH_RESPONSE to a PasswordAuthenticator carries a SASL PLAIN token: the auth id,
the username and the password, separated by NUL bytes (`AuthCredentials.Marshal`, `auth.go`).
The proxy decodes it (`Unmarshal`, `ParseCredentialsFromRequest`) to learn which credentials
the client sent, and `handleClientCredentials` (`clienthandler.go`) replaces the token by the
proxy's configured credentials when the client's are meant for the other cluster.

Go strings are byte strings, so credentials are byte lists here. `Unmarshal` appends a NUL to
the token and reads three fields with `bytes.Buffer.ReadBytes`/`ReadString`, each up to and
including the next NUL (`Delimited.readUntil`); a read that finds none fails with `io.EOF`.

The results:
* `unmarshal_marshal` and `marshal_unmarshal`: marshalling and unmarshalling are inverse on
  NUL-free credentials and on tokens with exactly two NUL bytes;
* `unmarshal_error_iff`: unmarshalling fails exactly on tokens with fewer than two NULs;
* `handleClientCredentials_of_substituted` and `parseCredentialsFromRequest_marshal`: a token
  the proxy substitutes decodes to the credentials it substituted.
-/

namespace ZdmProxy.Auth

open Delimited

/-- `AuthCredentials`. -/
structure AuthCredentials where
  authId : List UInt8
  username : List UInt8
  password : List UInt8
  deriving DecidableEq, Repr

namespace AuthCredentials

/-- `Marshal`: the auth id, a NUL, the username, a NUL and the password. -/
def marshal (c : AuthCredentials) : List UInt8 :=
  c.authId ++ [0] ++ c.username ++ [0] ++ c.password

/-- No field holds a NUL byte. -/
def NulFree (c : AuthCredentials) : Prop :=
  0 ∉ c.authId ∧ 0 ∉ c.username ∧ 0 ∉ c.password

instance (c : AuthCredentials) : Decidable c.NulFree :=
  inferInstanceAs (Decidable (_ ∧ _ ∧ _))

end AuthCredentials

/-- `bytes.Buffer.ReadBytes(delim)`, and `ReadString(delim)`, on the unread bytes: the line read,
the bytes left, and `io.EOF` when no `delim` was found. -/
def readBytes (source : List UInt8) (delim : UInt8) : List UInt8 × List UInt8 × Option String :=
  match readUntil delim source with
  | (line, rest, true) => (line, rest, none)
  | (line, rest, false) => (line, rest, some "EOF")

namespace AuthCredentials

/-- `Unmarshal`: the receiver after the call, and the error it returns. The auth id is stored
before the other two fields are read, so a failed call can leave it changed. -/
def unmarshal (c : AuthCredentials) (token : List UInt8) : AuthCredentials × Option String :=
  let source := token ++ [0]
  match readBytes source 0 with
  | (_, _, some err) => (c, some err)
  | (authId, source, none) =>
      -- authId[:len(authId)-1], or "" for the one-byte read of a lone NUL
      let c := if authId.length ≠ 1 then { c with authId := authId.dropLast }
        else { c with authId := [] }
      match readBytes source 0 with
      | (_, _, some err) => (c, some err)
      | (username, source, none) =>
          match readBytes source 0 with
          | (_, _, some err) => (c, some err)
          | (password, _, none) =>
              ({ c with username := username.dropLast, password := password.dropLast }, none)

end AuthCredentials

/-- `mechanism`: the bytes of PLAIN, the token of a client that asks for the SASL exchange. -/
def mechanism : List UInt8 := [80, 76, 65, 73, 78]

/-- `ParseCredentialsFromRequest` on an AUTH_RESPONSE token (`none` is a nil token): no
credentials for a nil or PLAIN token. Its error wraps the named result `err`, which is still
nil, so the text never carries the unmarshalling error. -/
def parseCredentialsFromRequest (token : Option (List UInt8)) :
    Except String (Option AuthCredentials) :=
  match token with
  | none => .ok none
  | some token =>
      if token = mechanism then .ok none
      else
        match (AuthCredentials.mk [] [] []).unmarshal token with
        | (_, some _) => .error
            "could not unmarshal auth credentials from token, can not proceed with target handshake: %!w(<nil>)"
        | (authCreds, none) => .ok (some authCreds)

/-- What `handleClientCredentials` reads of the handler. -/
structure CredentialsConfig where
  forwardAuthToTarget : Bool
  targetCredsOnClientRequest : Bool
  originUsername : List UInt8
  originPassword : List UInt8
  targetUsername : List UInt8
  targetPassword : List UInt8

namespace CredentialsConfig

/-- `primaryHandshakeCreds`: the configured credentials that replace the client's in the frame
sent to the primary cluster, if any. The branch with `forwardAuthToTarget` and not
`targetCredsOnClientRequest` is unreachable with the current configuration. -/
def primaryHandshakeCreds (config : CredentialsConfig) : Option AuthCredentials :=
  if config.forwardAuthToTarget then
    if config.targetCredsOnClientRequest then none
    else some ⟨[], config.targetUsername, config.targetPassword⟩
  else if config.targetCredsOnClientRequest then
    some ⟨[], config.originUsername, config.originPassword⟩
  else none

/-- The configured usernames and passwords hold no NUL byte. -/
def NulFree (config : CredentialsConfig) : Prop :=
  0 ∉ config.originUsername ∧ 0 ∉ config.originPassword ∧
    0 ∉ config.targetUsername ∧ 0 ∉ config.targetPassword

end CredentialsConfig

/-- `handleClientCredentials` on the token of a client AUTH_RESPONSE: the token of the frame it
returns. The credentials it records for the secondary and async handshakes are
`Handler.handleClientCredentials`. -/
def handleClientCredentials (config : CredentialsConfig) (token : Option (List UInt8)) :
    Except String (Option (List UInt8)) :=
  match parseCredentialsFromRequest token with
  | .error message => .error message
  | .ok none => .ok token
  | .ok (some _) =>
      match config.primaryHandshakeCreds with
      -- client credentials don't need to be replaced
      | none => .ok token
      | some primaryHandshakeCreds => .ok (some primaryHandshakeCreds.marshal)

/-! ## Reading one field -/

theorem readBytes_append {field : List UInt8} (rest : List UInt8) (free : 0 ∉ field) :
    readBytes (field ++ 0 :: rest) 0 = (field ++ [0], rest, none) := by
  rw [readBytes, readUntil_append rest free]

theorem readBytes_of_not_mem {source : List UInt8} (free : 0 ∉ source) :
    readBytes source 0 = (source, [], some "EOF") := by
  rw [readBytes, readUntil_of_not_mem free]

@[simp] theorem marshal_eq (c : AuthCredentials) :
    c.marshal = c.authId ++ 0 :: (c.username ++ 0 :: c.password) := by
  simp [AuthCredentials.marshal]

/-! ## Round trips -/

/-- Three NUL-free fields with a NUL after each are read back as the fields. -/
theorem unmarshal_fields (receiver : AuthCredentials) {authId username password : List UInt8}
    (freeId : 0 ∉ authId) (freeUser : 0 ∉ username) (freePassword : 0 ∉ password) :
    receiver.unmarshal (authId ++ 0 :: (username ++ 0 :: password)) =
      (⟨authId, username, password⟩, none) := by
  have source : authId ++ 0 :: (username ++ 0 :: password) ++ [0] =
      authId ++ 0 :: (username ++ 0 :: (password ++ 0 :: [])) := by
    simp
  simp only [AuthCredentials.unmarshal, source, readBytes_append _ freeId,
    readBytes_append _ freeUser, readBytes_append _ freePassword, List.dropLast_concat]
  -- the one-byte read of a lone NUL stores the same empty auth id as the general case
  split <;> simp_all

theorem unmarshal_marshal (receiver c : AuthCredentials) (free : c.NulFree) :
    receiver.unmarshal c.marshal = (c, none) := by
  rw [marshal_eq, unmarshal_fields receiver free.1 free.2.1 free.2.2]

/-- A token with exactly two NULs is three NUL-free fields. -/
theorem exists_fields_of_count {token : List UInt8} (two : token.count 0 = 2) :
    ∃ c : AuthCredentials, c.NulFree ∧ token = c.marshal := by
  obtain ⟨authId, rest, freeId, split⟩ :=
    exists_eq_append_of_mem (List.count_pos_iff.mp (by omega : 0 < token.count 0))
  have restCount : rest.count 0 = 1 := by
    rw [split, count_append_of_not_mem rest freeId] at two
    omega
  obtain ⟨username, password, freeUser, restSplit⟩ :=
    exists_eq_append_of_mem (List.count_pos_iff.mp (by omega : 0 < rest.count 0))
  have freePassword : 0 ∉ password := by
    rw [restSplit, count_append_of_not_mem password freeUser] at restCount
    exact List.count_eq_zero.mp (by omega)
  refine ⟨⟨authId, username, password⟩, ⟨freeId, freeUser, freePassword⟩, ?_⟩
  rw [marshal_eq, split, restSplit]

theorem marshal_unmarshal (receiver : AuthCredentials) {token : List UInt8}
    (two : token.count 0 = 2) :
    ∃ c, receiver.unmarshal token = (c, none) ∧ c.marshal = token := by
  obtain ⟨c, free, rfl⟩ := exists_fields_of_count two
  exact ⟨c, unmarshal_marshal receiver c free, rfl⟩

/-- Unmarshalling fails, with `io.EOF`, exactly on the tokens with fewer than two NULs. -/
theorem unmarshal_error_iff (receiver : AuthCredentials) (token : List UInt8) :
    (receiver.unmarshal token).2 = some "EOF" ↔ token.count 0 < 2 := by
  by_cases first : 0 ∈ token
  · obtain ⟨authId, rest, freeId, split⟩ := exists_eq_append_of_mem first
    by_cases second : 0 ∈ rest
    · obtain ⟨username, others, freeUser, restSplit⟩ := exists_eq_append_of_mem second
      -- past two NULs the appended one ends the password, whatever follows it
      obtain ⟨password, dropped, freePassword, passwordSplit⟩ :=
        exists_eq_append_of_mem (List.mem_append_right others (List.mem_singleton_self 0))
      have counted : 2 ≤ token.count 0 := by
        rw [split, count_append_of_not_mem rest freeId, restSplit,
          count_append_of_not_mem others freeUser]
        omega
      have source : token ++ [0] = authId ++ 0 :: (username ++ 0 :: (password ++ 0 :: dropped)) := by
        rw [split, restSplit]
        simp [← passwordSplit]
      simp only [AuthCredentials.unmarshal, source, readBytes_append _ freeId,
        readBytes_append _ freeUser, readBytes_append _ freePassword]
      constructor
      · intro failed
        cases failed
      · omega
    · have counted : token.count 0 = 1 := by
        rw [split, count_append_of_not_mem rest freeId, List.count_eq_zero_of_not_mem second]
      have source : token ++ [0] = authId ++ 0 :: (rest ++ 0 :: []) := by
        rw [split]
        simp
      simp only [AuthCredentials.unmarshal, source, readBytes_append _ freeId,
        readBytes_append _ second, readBytes_of_not_mem List.not_mem_nil]
      constructor
      · intro _
        omega
      · intro _
        trivial
  · have counted : token.count 0 = 0 := List.count_eq_zero_of_not_mem first
    simp only [AuthCredentials.unmarshal, readBytes_append [] first,
      readBytes_of_not_mem List.not_mem_nil]
    constructor
    · intro _
      omega
    · intro _
      trivial

/-! ## The substituted token -/

/-- The marshalled credentials, which start with the auth id's bytes and hold two NULs, are not
PLAIN. -/
theorem marshal_ne_mechanism {c : AuthCredentials} (free : c.NulFree) : c.marshal ≠ mechanism := by
  intro same
  have counts := congrArg (List.count 0) same
  rw [marshal_eq, count_append_of_not_mem _ free.1, count_append_of_not_mem _ free.2.1,
    List.count_eq_zero_of_not_mem free.2.2] at counts
  exact absurd counts (by decide)

theorem parseCredentialsFromRequest_marshal {c : AuthCredentials} (free : c.NulFree) :
    parseCredentialsFromRequest (some c.marshal) = .ok (some c) := by
  rw [parseCredentialsFromRequest, if_neg (marshal_ne_mechanism free),
    unmarshal_marshal _ c free]

/-- The configured credentials that replace the client's have no auth id and, when configured
without NULs, hold none. -/
theorem nulFree_of_primaryHandshakeCreds {config : CredentialsConfig} (free : config.NulFree)
    {creds : AuthCredentials} (primary : config.primaryHandshakeCreds = some creds) :
    creds.NulFree := by
  unfold CredentialsConfig.primaryHandshakeCreds at primary
  split_ifs at primary <;> cases primary
  · exact ⟨List.not_mem_nil, free.2.2.1, free.2.2.2⟩
  · exact ⟨List.not_mem_nil, free.1, free.2.1⟩

/-- When the client sent credentials and the configuration replaces them, the frame carries the
marshalled configured credentials. -/
theorem handleClientCredentials_of_substituted {config : CredentialsConfig}
    {token : Option (List UInt8)} {clientCreds creds : AuthCredentials}
    (parsed : parseCredentialsFromRequest token = .ok (some clientCreds))
    (primary : config.primaryHandshakeCreds = some creds) :
    handleClientCredentials config token = .ok (some creds.marshal) := by
  rw [handleClientCredentials, parsed]
  simp only [primary]

/-- Marshalling and unmarshalling are inverse on NUL-free credentials and on tokens with two
NULs, and a token the proxy substitutes for the client's decodes to the credentials it
substituted. -/
theorem auth_token_round_trip :
    (∀ (receiver c : AuthCredentials), c.NulFree → receiver.unmarshal c.marshal = (c, none)) ∧
    (∀ (receiver : AuthCredentials) (token : List UInt8), token.count 0 = 2 →
      ∃ c, receiver.unmarshal token = (c, none) ∧ c.marshal = token) ∧
    (∀ (config : CredentialsConfig) (token : Option (List UInt8))
      (clientCreds creds : AuthCredentials), config.NulFree →
      parseCredentialsFromRequest token = .ok (some clientCreds) →
      config.primaryHandshakeCreds = some creds →
      ∃ substituted, handleClientCredentials config token = .ok (some substituted) ∧
        parseCredentialsFromRequest (some substituted) = .ok (some creds)) := by
  refine ⟨unmarshal_marshal, fun receiver _ two => marshal_unmarshal receiver two, ?_⟩
  intro config token clientCreds creds free parsed primary
  exact ⟨creds.marshal, handleClientCredentials_of_substituted parsed primary,
    parseCredentialsFromRequest_marshal (nulFree_of_primaryHandshakeCreds free primary)⟩

/-- The token of user cassandra with password cassandra and no auth id reads back. -/
theorem auth_token_round_trip_cassandra :
    (AuthCredentials.mk [] [] []).unmarshal
        (AuthCredentials.mk [] [99, 97, 115, 115, 97, 110, 100, 114, 97]
          [99, 97, 115, 115, 97, 110, 100, 114, 97]).marshal =
      (⟨[], [99, 97, 115, 115, 97, 110, 100, 114, 97], [99, 97, 115, 115, 97, 110, 100, 114, 97]⟩,
        none) :=
  auth_token_round_trip.1 _ _ (by decide)

end ZdmProxy.Auth
