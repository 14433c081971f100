import LaneFlow.Contents
import LaneFlow.Document.Value

/-!
# Codecs

The rules of JSON, of YAML and of compressed files are not made here. A `Codec`
stands for whatever keeps them: readers that make trees of what files hold, and
writers that make texts of trees. Everything else is told of any codec.

The scalars that a reader finds are known by what they are read as, which is
all that `Leaf` tells.
-/

namespace LaneFlow.Document

/-- A document, and whether it is all there is. -/
structure Whole (σ : Type) where
  tree : Tree σ
  isAlone : Bool

/-- How documents are read from files and written to them. -/
class Codec where
  /-- A single value as it is found in JSON. -/
  JsonValue : Type
  /-- A single value as it is found in YAML. -/
  YamlValue : Type
  jsonLeaf : Leaf JsonValue Float
  yamlLeaf : Leaf YamlValue Float
  /-- What there is in a compressed file. -/
  unpack : Contents → Contents
  /-- The first document of a file of JSON. -/
  readJson : Contents → Tree JsonValue
  /-- The first document of a file of YAML. -/
  readYaml : Contents → Whole YamlValue
  /-- What entries of a record in YAML say before anything is asked of them. -/
  resolveYaml? : List (Tree YamlValue × Tree YamlValue) →
    Option (List (Tree (Value Float) × Tree (Value Float)))
  /-- A document of JSON, spread over lines. -/
  writeJson : Tree (Value Float) → List UInt8
  /-- A document of JSON in one line. -/
  writeJsonLine : Tree (Value Float) → List UInt8

attribute [reducible, instance] Codec.jsonLeaf Codec.yamlLeaf

end LaneFlow.Document
