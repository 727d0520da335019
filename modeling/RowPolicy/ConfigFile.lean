import RowPolicy.Decoding
import RowPolicy.Document.Yaml

/-!
# Configuration files

A configuration file is a text in YAML.
-/

namespace RowPolicy.Config

/-- The configuration in a text. -/
def ofYaml (text : String) : Except ConfigError Config := load (Yaml.read text)

/-- The configuration in a file with this content; there is none if there is no such file. -/
def ofFile (content : Option String) : Except ConfigError Config :=
  match content with
  | some text => ofYaml text
  | none => .error (.file "No such file or directory (os error 2)")

end RowPolicy.Config
