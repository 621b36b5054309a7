import Anycode.Config.Backend

/-!
# Credentials

The authentication type of a backend, its credential, and the header built from the two
(`config/credentials.rs`, `config/auth.rs`).
-/

namespace Anycode.Config

inductive AuthType where
  | apiKey
  | bearer
  | passthrough
  deriving DecidableEq

/-- `to_lowercase`, as far as an ASCII result can tell: besides `A` to `Z`, only the Kelvin sign
has an ASCII lower case. -/
def toLowercase (c : Char) : Char := if c.toNat = 0x212A then 'k' else c.toLower

namespace AuthType

def parse (s : String) : AuthType :=
  let lower := s.toList.map toLowercase
  if lower = "api_key".toList then .apiKey
  else if lower = "bearer".toList then .bearer
  else .passthrough

def usesOwnCredentials : AuthType → Bool
  | .apiKey | .bearer => true
  | .passthrough => false

end AuthType

inductive CredentialStatus where
  | configured (key : String)
  | unconfigured (reason : String)
  | noAuth
  deriving DecidableEq

namespace Backend

def authType (backend : Backend) : AuthType := .parse backend.authTypeStr

def resolveCredential (backend : Backend) : CredentialStatus :=
  match backend.authType with
  | .passthrough => .noAuth
  | .apiKey | .bearer =>
    match backend.apiKey with
    | some key => if key.isEmpty then .unconfigured "api_key is not set" else .configured key
    | none => .unconfigured "api_key is not set"

def isConfigured (backend : Backend) : Bool :=
  match backend.resolveCredential with
  | .configured _ | .noAuth => true
  | .unconfigured _ => false

end Backend

def buildAuthHeader (backend : Backend) : Option (String × List Char) :=
  match backend.authType, backend.resolveCredential with
  | .apiKey, .configured key => some ("x-api-key", key.toList)
  | .bearer, .configured key => some ("Authorization", "Bearer ".toList ++ key.toList)
  | _, _ => none

/-- A configured backend with its own credentials has exactly one header to authenticate with. -/
theorem buildAuthHeader_configured {backend : Backend} (own : backend.authType.usesOwnCredentials = true)
    (configured : backend.isConfigured = true) :
    ∃ key, backend.apiKey = some key ∧ key ≠ "" ∧
      (backend.authType = .apiKey ∧ buildAuthHeader backend = some ("x-api-key", key.toList) ∨
        backend.authType = .bearer ∧ buildAuthHeader backend = some ("Authorization", "Bearer ".toList ++ key.toList)) := by
  unfold Backend.isConfigured Backend.resolveCredential at configured
  unfold buildAuthHeader Backend.resolveCredential
  cases type : backend.authType with
  | passthrough =>
    rw [type] at own
    cases own
  | _ =>
    rw [type] at configured
    cases found : backend.apiKey with
    | none =>
      rw [found] at configured
      cases configured
    | some key =>
      rw [found] at configured
      by_cases empty : key.isEmpty = true
      · simp only [empty, if_true] at configured
        cases configured
      · have nonempty : key ≠ "" := fun same => empty (String.isEmpty_iff.mpr same)
        simp [empty, nonempty]

end Anycode.Config
