import CortexFlags.Catalogue.KnowledgeBase

/-! The knowledge base that is always there. Floating point units are listed in bands of
equal priority. Within a band a superset comes first, with one exception: `vfpv3-d16-fp16`
stands before `vfpv3-fp16`, whose feature implies its own. -/

namespace CortexFlags

/-- A row with features of its own. -/
def FpuRow.own (priority : Int) (features : List String) : FpuRow :=
  ⟨some priority, some features, none⟩

/-- A row that stands for the features of another. -/
def FpuRow.named (priority : Int) (target : String) : FpuRow :=
  ⟨some priority, none, some target⟩

/-- A row with all its fields. -/
def CpuRow.full (architecture coreModel : String) (fpus : List String) : CpuRow :=
  ⟨some architecture, some coreModel, some fpus⟩

namespace KnowledgeBase

def shippedFpus : Table FpuRow where
  entries := [
    ("crypto-neon-fp-armv8", .own 0 ["crypto", "neon", "fp_armv8"]),
    ("neon-fp-armv8", .own 1 ["neon", "fp_armv8"]),
    ("neon-fp16", .own 1 ["neon", "fp_armv8d16"]),
    ("fp-armv8", .own 2 ["fp_armv8"]),
    ("fpv5-d16", .own 2 ["fp_armv8d16"]),
    ("fpv5-sp-d16", .own 2 ["fp_armv8d16sp"]),
    ("neon-vfpv4", .own 3 ["neon", "vfp4"]),
    ("vfpv4", .own 4 ["vfp4"]),
    ("vfpv4-d16", .own 4 ["vfp4d16"]),
    ("fpv4-sp-d16", .own 4 ["vfp4d16sp"]),
    ("neon-vfpv3", .own 5 ["neon", "vfp3"]),
    ("neon", .named 5 "neon-vfpv3"),
    ("vfp3", .own 6 ["vfp3"]),
    ("vfpv3", .named 6 "vfp3"),
    ("vfpv3-d16", .own 6 ["vfp3d16"]),
    ("vfpv3-d16-fp16", .own 6 ["vfp3d16sp"]),
    ("vfpv3-fp16", .own 6 ["vfp3sp"]),
    ("vfpv2", .own 7 ["vfp2"]),
    ("vfp", .named 8 "vfpv2")]
  nodup := by decide

def shippedCpus : Table CpuRow where
  entries := [
    ("cortex-m0", .full "Armv6-M" "cortex_m0" []),
    ("cortex-m0plus", .full "Armv6-M" "cortex_m0plus" []),
    ("cortex-m1", .full "Armv6-M" "cortex_m1" []),
    ("cortex-m3", .full "Armv7-M" "cortex_m3" []),
    ("cortex-m4", .full "Armv7E-M" "cortex_m4" ["fpv4-sp-d16"]),
    ("cortex-m7", .full "Armv7E-M" "cortex_m7"
      ["vfpv4", "vfpv4-d16", "fpv4-sp-d16", "fpv5-d16", "fpv5-sp-d16"]),
    ("cortex-m23", .full "Armv8-M Baseline" "cortex_m23" []),
    ("cortex-m33", .full "Armv8-M Mainline" "cortex_m33" ["fp-armv8", "neon-fp-armv8"]),
    ("cortex-m35p", .full "Armv8-M Mainline" "cortex_m35p" ["fp-armv8", "neon-fp-armv8"]),
    ("cortex-m55", .full "Armv8.1-M Mainline" "cortex_m55" ["fp-armv8", "neon-fp-armv8"]),
    ("cortex-m85", .full "Armv8.1-M Mainline" "cortex_m85" ["fp-armv8", "neon-fp-armv8"])]
  nodup := by decide

def shipped : KnowledgeBase := ⟨shippedFpus, shippedCpus⟩

end KnowledgeBase

end CortexFlags
