import CortexFlags.Catalogue.Basic
import CortexFlags.Yaml.Node

/-! Selections of a catalogue, as a list of summaries or as a YAML document. The units
of a document are all those of the catalogue, or those that the selected CPU is
compatible with. -/

namespace CortexFlags.Catalogue

/-- The CPUs of a name, or all of them. -/
def selectCpus (k : Catalogue) : Option String → Except FlagFault (List Cpu)
  | none => .ok k.cpus
  | some name =>
      match k.cpu name with
      | .ok c => .ok [c]
      | .error fault => .error fault

/-- The units that go with a selection. -/
def selectFpus (k : Catalogue) (name : Option String) (cpus : List Cpu) : List Fpu :=
  match name, cpus with
  | some _, c :: _ => k.fpus.filter (c.compatibleFpus.contains ·)
  | _, _ => k.fpus

open Yaml (Node)

def texts (names : List String) : Node := .sequence (names.map .text)

def cpuNode (c : Cpu) : Node :=
  .mapping [
    ("name", .text c.name), ("architecture", .text c.architecture),
    ("core_model", .text c.coreModel), ("fpus", texts (c.compatibleFpus.map Fpu.name))]

def fpuNode (f : Fpu) : Node :=
  .mapping [("priority", .int f.priority), ("features", texts f.features)]

/-- The document of some CPUs and units. -/
def node (cpus : List Cpu) (fpus : List Fpu) : Node :=
  .mapping [
    ("cpus", .sequence (cpus.map cpuNode)),
    ("fpus", .mapping (fpus.map fun f => (f.name, fpuNode f)))]

end CortexFlags.Catalogue
