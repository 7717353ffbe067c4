import DriverHandover.Cluster.Certificate
import DriverHandover.Cluster.Kubeconfig
import DriverHandover.Timestamp

/-!
# Credentials

Before the first request it has to be clear whom to trust and how a user shows who they are. For
that, certificates, keys and tokens are read, from the configuration file itself or from the files
that it names.

## Main definitions

* `Surroundings` – what is found around a configuration file.
* `KubeCluster.isTrustUsable` – whether it is clear whom to trust.
* `KubeUser.isUsable` – whether it is clear how a user shows who they are.
-/

namespace DriverHandover

/-- What is found around a configuration file. -/
structure Surroundings where
  /-- The content of a file, if it can be read. -/
  bytesOf : String → Option (List UInt8)
  /-- The time, if there is a clock. -/
  now : Option Timestamp

namespace Surroundings

/-- Nothing is found. -/
def empty : Surroundings := ⟨fun _ => none, none⟩

/-- The bytes of what is given in Base64 or else in a file. -/
def load? (s : Surroundings) (data file : Option String) : Option (List UInt8) :=
  match data with
  | some data => Base64.decode? data.toList
  | none => file.bind s.bytesOf

end Surroundings

namespace KubeCluster

/-- Whether it is clear whom to trust: all certificates to trust, if there are any given, are
sound. -/
def isTrustUsable (s : Surroundings) (c : KubeCluster) : Bool :=
  if c.authorityData.isNone ∧ c.authority.isNone then true
  else
    match (s.load? c.authorityData c.authority).bind Pem.blocks? with
    | none => false
    | some blocks =>
      (blocks.filter (·.label == Pem.certificateLabel)).all fun b => Certificate.isSound b.bytes

end KubeCluster

namespace AuthProvider

/-- The time that a token has to be valid for at least, in seconds. -/
def leastValidity : Int := 60

/-- Whether a helper that keeps an access token keeps one that is still valid; `none` if its time
cannot be read. -/
def hasValidToken? (s : Surroundings) (p : AuthProvider) : Option Bool :=
  match p.settings.reverse.lookup "access-token", p.settings.reverse.lookup "expiry" with
  | some _, some expiry => do
    let expiry ← Timestamp.ofText? expiry
    return s.now.any fun now => now.seconds + leastValidity < expiry.seconds
  | _, _ => some false

/-- Whether a helper has a token. Nothing is run to get one. -/
def isUsable (s : Surroundings) (p : AuthProvider) : Bool :=
  let hasIdentity := (p.settings.lookup "id-token").isSome
  if p.name = "oidc" then hasIdentity
  else if p.name = "gcp" then hasIdentity || (p.hasValidToken? s).getD false
  else false

end AuthProvider

namespace KubeUser

/-- Whether a text may stand in a header of a request: no control character but a tab. -/
def isHeader (text : String) : Bool :=
  text.toList.all fun c => (' ' ≤ c && c != '\x7f') || c == '\t'

/-- Whether a file holds a token. -/
def isTokenFile (s : Surroundings) (file : String) : Bool :=
  ((s.bytesOf file).bind Utf8.decode?).isSome

/-- Whether the first way is usable in which the user can show who they are, if there is any: a
helper, a password, a token, a file with one, or a command, which does not count as usable. -/
def isAuthUsable (s : Surroundings) (u : KubeUser) : Bool :=
  match u.provider with
  | some provider => provider.isUsable s
  | none =>
    if u.username.isSome ∧ u.password.isSome then true
    else
      match u.token, u.tokenFile with
      | some token, _ => isHeader token
      | none, some file => isTokenFile s file
      | none, none => !u.hasCommand

/-- What a block with a list of certificates that no longer count says it is. -/
def revocationLabel : List UInt8 := Pem.ascii "X509 CRL"

/-- The private key in blocks: of each kind the last one, and of the kinds the first that there
is. -/
def privateKey? (blocks : List Pem.Block) : Option (PrivateKeyKind × List UInt8) :=
  PrivateKeyKind.all.findSome? fun kind =>
    (blocks.reverse.find? (·.label == kind.label)).map fun block => (kind, block.bytes)

/-- Whether blocks hold a certificate and a private key. -/
def isIdentity (blocks : List Pem.Block) : Bool :=
  blocks.any (·.label == Pem.certificateLabel) && !blocks.any (·.label == revocationLabel) &&
    (privateKey? blocks).any fun (kind, bytes) => PrivateKey.isSound kind bytes

/-- Whether the certificate and the key of the user are sound, if both can be read. -/
def isIdentityUsable (s : Surroundings) (u : KubeUser) : Bool :=
  match s.load? u.certificateData u.certificate, s.load? u.keyData u.key with
  | some certificate, some key =>
    ((Pem.lineBlocks? (key ++ [0x0A] ++ certificate)).map isIdentity).getD false
  | _, _ => true

/-- Whether the one in whose place the user asks can be named. -/
def isInsteadUsable (u : KubeUser) : Bool :=
  u.insteadOf.all isHeader && (u.insteadOfGroups.getD []).all isHeader

/-- Whether it is clear how a user shows who they are. -/
def isUsable (s : Surroundings) (u : KubeUser) : Bool :=
  u.isAuthUsable s && u.isIdentityUsable s && u.isInsteadUsable

/-- The files that are read for a user. -/
def files (u : KubeUser) : List String :=
  [u.tokenFile, u.certificate, u.key].filterMap id

end KubeUser

end DriverHandover
