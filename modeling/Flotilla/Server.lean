import Flotilla.Id

/-!
# Managed game servers

A server is known by its identifier, the secret of its management endpoint and the
loader it runs, which decides what extensions it can take. Extension registries
have a tag of their own for each loader; two of the tags differ from the names.
-/

namespace Flotilla

/-- The platform of a server. -/
inductive Loader where
  | vanilla
  | paper
  | fabric
  | forge
  | neoForge
  deriving DecidableEq

namespace Loader

/-- Every loader. -/
def all : List Loader := [.vanilla, .paper, .fabric, .forge, .neoForge]

/-- The name of a loader. -/
def name : Loader → String
  | .vanilla => "vanilla"
  | .paper => "paper"
  | .fabric => "fabric"
  | .forge => "forge"
  | .neoForge => "neo_forge"

/-- The tag of a loader in extension registries, which also stands for it in messages. -/
def tag : Loader → String
  | .vanilla => "datapack"
  | .neoForge => "neoforge"
  | loader => loader.name

/-- The loader of a name. -/
def parse? (s : String) : Option Loader := all.find? fun loader => loader.name = s

/-- The label of a loader in descriptions of a server. -/
def label : Loader → String
  | .vanilla => "Vanilla"
  | .paper => "Paper"
  | .fabric => "Fabric"
  | .forge => "Forge"
  | .neoForge => "NeoForge"

/-- A loader as a JSON value. -/
def toJson (loader : Loader) : Json := .str loader.name

/-- A loader in a JSON text. -/
def decode : Decoder Loader := Decoder.choice parse?

theorem parse?_name (loader : Loader) : parse? loader.name = some loader := by
  cases loader <;> rfl

end Loader

/-- What is needed to reach a server. -/
structure Server where
  id : ServerId
  secret : String
  loader : Loader
  deriving DecidableEq

namespace Server

/-- A server as a JSON value. -/
def toJson (server : Server) : Json :=
  .record [("id", server.id.toJson), ("management_secret", .str server.secret),
    ("loader", server.loader.toJson)]

/-- A server in a JSON text. -/
def decode : Decoder Server := fun depth tree => do
  let row ← Row.read
    [.required "id" (Id.decode : Decoder ServerId), .required "management_secret" Decoder.string,
      .required "loader" Loader.decode] depth tree
  return ⟨← row.required "id" Id.decode, ← row.required "management_secret" Decoder.string,
    ← row.required "loader" Loader.decode⟩

/-- The description of a server, which hides its secret. -/
def describe (server : Server) : String :=
  "InstanceRef \x7b id: InstanceId(" ++ server.id.text ++
    "), management_secret: \"<redacted>\", loader: " ++ server.loader.label ++ " \x7d"

end Server

end Flotilla
