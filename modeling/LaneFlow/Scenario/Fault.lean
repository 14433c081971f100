import LaneFlow.Road.Lane

/-!
# Faults in scenario files

A scenario file can be well formed and still make no sense: it may refer to
something that does not exist, define something twice, or build lanes in a shape
that is not supported.
-/

namespace LaneFlow

/-- What a file refers to. -/
inductive Referent where
  | node
  | link
  | lane
deriving Repr, DecidableEq

/-- The word for what is referred to. -/
def Referent.name : Referent → String
  | .node => "node"
  | .link => "link"
  | .lane => "lane"

/-- What a scenario refuses to take in while it is built. -/
inductive BuildFault where
  /-- The network refuses a node or a link. -/
  | network (fault : NetworkFault)
  /-- The lanes of a link were added before. -/
  | lanes (fault : LanesTwice)
deriving Repr, DecidableEq

/-- What is said about what is not taken in. -/
def BuildFault.message : BuildFault → String
  | .network fault => fault.message
  | .lanes fault => fault.message

/-- Why the contents of a scenario file make no scenario. -/
inductive ScenarioFault where
  /-- What was read is not taken in. -/
  | refused (fault : BuildFault)
  /-- Something is referred to that does not exist. -/
  | unknownReference (kind : Referent) (id referencedBy : String)
  /-- More than one lane of a link leads to other lanes. -/
  | laneTree (link : String)
  /-- The lanes of a link are defined more than once. -/
  | lanesTwice (link : String)
deriving Repr, DecidableEq

/-- A fault in words. -/
def ScenarioFault.message : ScenarioFault → String
  | .refused fault => fault.message
  | .unknownReference kind id referencedBy =>
    s!"{kind.name} '{id}' referenced by {referencedBy} does not exist"
  | .laneTree link =>
    s!"link {link} has more than one lane leading to other lanes. " ++
      "Only an original lane followed by to-node lanes is supported"
  | .lanesTwice link => s!"lanes of link {link} are defined more than once"

end LaneFlow
