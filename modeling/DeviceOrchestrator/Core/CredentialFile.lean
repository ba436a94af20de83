import DeviceOrchestrator.Core.SecretBox
import DeviceOrchestrator.Lib.Keyed

/-!
# The credential file

`CredentialStore.load_file` reads an object of entries, opens what is sealed and stores one
credential for each entry, in the order of the file; the first entry that cannot be read ends it,
and the ones before it stay stored. `resolve` asks the environment first. Here a credential has all
its fields, and the values that nothing converts are the JSON they were read from.
-/
namespace DeviceOrchestrator

/-- `Credential`, as `load_file` makes it. -/
structure StoredCredential where
  /-- The reference. -/
  ref : String
  /-- basic, bearer or cookie. -/
  kind : String := "basic"
  /-- The user, whatever the file has. -/
  username : Json := .null
  /-- The secret, revealed. -/
  secret : Option String := none
  /-- The realm. -/
  realm : String := "default"
  /-- The pairs that `dict` was given; a later one replaces one with an equal key. -/
  extra : List (Json × Json) := []

/-- `CredentialStore`. -/
structure SealedStore where
  /-- `_box`. -/
  box : Option SecretBox
  /-- `os.environ.get`, which refuses a name that it cannot encode. -/
  environ : String → Except PyError (Option String)
  /-- `_file_creds`. -/
  fileCreds : Keyed StoredCredential.ref

namespace SealedStore

/-- `put`. -/
def put (store : SealedStore) (credential : StoredCredential) : SealedStore :=
  { store with fileCreds := store.fileCreds.upsert .overwrite credential }

section
variable (python : Python) (primitives : Primitives)

/-- `resolve`: the environment first, then the file. -/
def resolve (store : SealedStore) (ref : String) : Except Raised StoredCredential := do
  let raw ← escaping (store.environ (envKey python ref))
  match raw.filter (· ≠ "") with
  | some raw =>
    let (username, password) := partitionColon raw
    if password ≠ "" then
      .ok
        { ref := ref
          kind := "basic"
          username := .str username
          secret := some password
          realm := ref }
    else .ok { ref := ref, kind := "bearer", secret := some username, realm := ref }
  | none =>
    match store.fileCreds.get? ref with
    | some credential => .ok credential
    | none =>
      let shown := python.showText ref
      let key := envKey python ref
      .error (.auth s!"no credential {shown} (looked for ${key}, then the store)")

end

end SealedStore

end DeviceOrchestrator
