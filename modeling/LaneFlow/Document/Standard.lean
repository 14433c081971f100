import LaneFlow.Document.Codec
import LaneFlow.Gzip.Member
import LaneFlow.Json.Reader
import LaneFlow.Json.Writer
import LaneFlow.Yaml.Reader
import LaneFlow.Yaml.Resolution

/-!
# The standard codec

The codec that the program runs with. A damaged file of JSON may hold a whole
document in front of the damage; one of YAML is read up to its end, so nothing
is made of a damaged one.
-/

namespace LaneFlow.Document

/-- The document of a file of YAML. -/
def readYamlFile (file : Contents) : Whole Yaml.Found :=
  if file.isSound then Yaml.readBytes file.bytes else ⟨Yaml.brokenTree, false⟩

instance standardCodec : Codec where
  JsonValue := Json.Found
  YamlValue := Yaml.Found
  jsonLeaf := inferInstance
  yamlLeaf := inferInstance
  unpack := Gzip.unpack
  readJson file := Json.read (Utf8.decode file.bytes)
  readYaml := readYamlFile
  resolveYaml? := Yaml.resolveEntries?
  writeJson t := Utf8.encode (Json.pretty t)
  writeJsonLine t := Utf8.encode (Json.compact t)

end LaneFlow.Document
