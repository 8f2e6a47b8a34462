import ClusterVolumes.FileTree
import ClusterVolumes.Fleet
import ClusterVolumes.Hypervisor.Client
import ClusterVolumes.Text.Blank
import ClusterVolumes.Yaml.Node

/-!
# Configuration

A YAML document lists the clusters with what the driver needs to use them. A username with a
password wins over a token, whose two parts may be kept in files of their own.

- `Configuration.ofYaml` and `Configuration.ofFile` read the list;
- `ClusterSettings.credentials` finds what a cluster is used with;
- `Configuration.fleet` gathers the clusters that can be used.
-/

namespace ClusterVolumes

open Hypervisor (Client Credentials)
open Yaml (Node)

/-- What is configured for a cluster. -/
structure ClusterSettings where
  url : String
  region : String
  insecure : Bool := false
  username : Option String := none
  password : Option String := none
  tokenId : Option String := none
  tokenSecret : Option String := none
  tokenIdFile : Option String := none
  tokenSecretFile : Option String := none
  deriving DecidableEq, Repr

def ClusterSettings.record : Record ClusterSettings where
  start := { url := "", region := "" }
  fields :=
    [ (Field.of "url" .text (·.url) fun x s => { s with url := x }).must,
      (Field.of "region" .text (·.region) fun x s => { s with region := x }).must,
      .of "insecure" .bool (·.insecure) (fun x s => { s with insecure := x }),
      .of "username" (.option .text) (·.username) (fun x s => { s with username := x }),
      .of "password" (.option .text) (·.password) (fun x s => { s with password := x }),
      .of "token_id" (.option .text) (·.tokenId) (fun x s => { s with tokenId := x }),
      .of "token_secret" (.option .text) (·.tokenSecret) (fun x s => { s with tokenSecret := x }),
      .of "token_id_file" (.option .text) (·.tokenIdFile) (fun x s => { s with tokenIdFile := x }),
      .of "token_secret_file" (.option .text) (·.tokenSecretFile) fun x s =>
        { s with tokenSecretFile := x } ]

/-- The clusters that are configured. -/
structure Configuration where
  clusters : List ClusterSettings := []
  deriving DecidableEq, Repr

/-! ## Credentials -/

/-- A text that is there and not empty. -/
def given (o : Option String) : Option String :=
  o.filter fun s => !s.isEmpty

/-- The failure to read a file that the configuration names. -/
def unreadableFile (path : String) (e : SystemFailure) : Failure :=
  .configuration ("failed to read " ++ path ++ ": " ++ e.message)

/-- The text of a file without the blanks around it, which must not be empty. -/
def readSecret (files : FileTree) (path : String) : Except Failure String := do
  let secret := Text.trim (← (files.read path).mapError (unreadableFile path))
  if secret.isEmpty then throw (.configuration (path ++ " is empty")) else pure secret

/-- A part of a token, from its file if there is one. -/
def tokenPart (files : FileTree) (file value : Option String) : Except Failure String :=
  match file with
  | some path => readSecret files path
  | none => .ok ((given value).getD "")

namespace ClusterSettings

/-- The username with its password, if both are given. -/
def login? (s : ClusterSettings) : Option (String × String) := do
  pure (← given s.username, ← given s.password)

/-- What a cluster is used with. -/
def credentials (files : FileTree) (s : ClusterSettings) : Except Failure Credentials :=
  match s.login? with
  | some (username, password) => .ok (.password username password)
  | none => do
    let id ← tokenPart files s.tokenIdFile s.tokenId
    let secret ← tokenPart files s.tokenSecretFile s.tokenSecret
    if id.isEmpty || secret.isEmpty then
      throw (.configuration ("cluster " ++ s.region ++ " has no usable credentials"))
    else pure (.token id secret)

/-- Does the driver log in to a cluster as a user? -/
def isPrivileged (files : FileTree) (s : ClusterSettings) : Bool :=
  match s.credentials files with
  | .ok c => c.isLogin
  | .error _ => false

/-- The address of a cluster without slashes at its end. -/
def address (s : ClusterSettings) : String :=
  String.ofList (s.url.toList.reverse.dropWhile (· = '/')).reverse

/-- What the driver has to know of a cluster to use it. -/
def client (files : FileTree) (s : ClusterSettings) : Except Failure Client :=
  if s.url.isEmpty then .error (.configuration ("cluster " ++ s.region ++ " has no url"))
  else (s.credentials files).map fun credentials =>
    { region := s.region, address := s.address, credentials }

end ClusterSettings

/-! ## The fleet -/

namespace Configuration

/-- The first cluster that is configured for a region. -/
def get? (c : Configuration) (region : String) : Option ClusterSettings :=
  c.clusters.find? fun s => s.region = region

/-- The clusters that can be used, which all must be. -/
def fleet (files : FileTree) (c : Configuration) : Except Failure (Fleet Client) := do
  let clients ← c.clusters.mapM (ClusterSettings.client files)
  Fleet.ofClusters (clients.map fun client => (client.region, client))

end Configuration

/-- A fleet as messages show it. -/
def Fleet.text {κ : Type} (f : Fleet κ) : String :=
  let shown (region : String) : String :=
    Text.quoted region ++ ": HypervisorApi \x7b region: " ++ Text.quoted region ++ " \x7d"
  "ClusterPool \x7b clients: \x7b" ++ Text.joinWith ", " (f.regions.map shown) ++ "\x7d \x7d"

/-! ## Reading -/

namespace Configuration

/-- The values under the keys of a map that are looked at, of which none may be given twice. -/
def membersOf (keys : List String) (n : Node) : Option (List (String × Node)) := do
  let known := (← n.entries?).filter fun m => keys.contains m.1
  if (known.map Prod.fst).Nodup then some known else none

/-- A text that may be missing or null. -/
def optionalText (members : List (String × Node)) (key : String) : Option (Option String) :=
  match members.lookup key with
  | none => some none
  | some n => do if ← n.isNull? then pure none else some <$> n.text?

/-- Read the settings of a cluster. -/
def settingsOf (n : Node) : Option ClusterSettings := do
  let members ← membersOf (ClusterSettings.record.fields.map (·.name)) n
  pure
    { url := ← (← members.lookup "url").text?
      region := ← (← members.lookup "region").text?
      insecure := ← ((members.lookup "insecure").map Node.bool?).getD (some false)
      username := ← optionalText members "username"
      password := ← optionalText members "password"
      tokenId := ← optionalText members "token_id"
      tokenSecret := ← optionalText members "token_secret"
      tokenIdFile := ← optionalText members "token_id_file"
      tokenSecretFile := ← optionalText members "token_secret_file" }

/-- Read a configuration from a document. -/
def ofNode? (n : Node) : Option Configuration := do
  let members ← membersOf ["clusters"] n
  let items ← ((members.lookup "clusters").map Node.items?).getD (some [])
  pure ⟨← items.mapM settingsOf⟩

/-- Read a configuration from a YAML text. -/
def ofYaml (text : String) : Except Failure Configuration :=
  match (Node.ofText? text).bind ofNode? with
  | some c => .ok c
  | none => .error .badYaml

/-- Read a configuration from a file. -/
def ofFile (files : FileTree) (path : String) : Except Failure Configuration := do
  ofYaml (← (files.read path).mapError (unreadableFile path))

end Configuration

end ClusterVolumes
