import CortexFlags.Table

/-! The vocabulary of target resolution: which feature flag implies which
others, and the base features of each core model. Flags and models are names;
only those listed here are known. -/

namespace CortexFlags

/-- The flag that asks for software floating point registers beside an FPU. -/
def softFloat : String := "soft_float"

/-! ## Implications -/

/-- Each known flag with the flags it directly implies. -/
def implications : Table (List String) where
  entries := [
    ("soft_float", []),
    ("fpregs", []),
    ("fp64", ["fpregs"]),
    ("d32", []),
    ("fp16", []),
    ("aes", ["neon"]),
    ("sha2", ["neon"]),
    ("vfp2sp", ["fpregs"]),
    ("vfp2", ["fp64", "vfp2sp"]),
    ("vfp3d16sp", ["vfp2sp"]),
    ("vfp3d16", ["vfp2", "vfp3d16sp"]),
    ("vfp3sp", ["d32", "vfp3d16sp"]),
    ("vfp3", ["vfp3d16", "vfp3sp"]),
    ("vfp4d16sp", ["vfp3d16sp", "fp16"]),
    ("vfp4d16", ["vfp4d16sp", "vfp3d16"]),
    ("vfp4sp", ["vfp4d16sp", "vfp3sp"]),
    ("vfp4", ["vfp3", "vfp4d16", "vfp4sp"]),
    ("fp_armv8d16sp", ["vfp4d16sp"]),
    ("fp_armv8d16", ["vfp4d16", "fp_armv8d16sp"]),
    ("fp_armv8sp", ["fp_armv8d16sp", "vfp4sp"]),
    ("fp_armv8", ["fp_armv8d16", "fp_armv8sp", "vfp4"]),
    ("neon", ["vfp3"]),
    ("crypto", ["neon", "aes", "sha2"]),
    ("mclass", []),
    ("thumb2", []),
    ("thumb_mode", []),
    ("dsp", []),
    ("hwdiv", []),
    ("db", []),
    ("noarm", []),
    ("strict_align", []),
    ("v6m", ["mclass", "noarm", "strict_align", "thumb_mode", "db"]),
    ("v7m", ["mclass", "noarm", "thumb2", "thumb_mode", "hwdiv", "db"]),
    ("v7em", ["v7m", "dsp"]),
    ("v8m", ["v6m", "hwdiv"]),
    ("v8m_main", ["v7m"]),
    ("v8_1m_main", ["v8m_main"]),
    ("mve", ["v8_1m_main", "dsp"]),
    ("v7a", ["thumb2", "db", "hwdiv"]),
    ("v7r", ["thumb2", "db", "hwdiv"])]
  nodup := by decide

/-! ## Core models -/

/-- Each known core model with its base features, none of which is an FPU one. -/
def coreModels : Table (List String) where
  entries := [
    ("cortex_m0", ["v6m"]),
    ("cortex_m0plus", ["v6m"]),
    ("cortex_m1", ["v6m"]),
    ("cortex_m3", ["v7m"]),
    ("cortex_m4", ["v7em"]),
    ("cortex_m7", ["v7em"]),
    ("cortex_m23", ["v8m"]),
    ("cortex_m33", ["v8m_main", "dsp"]),
    ("cortex_m35p", ["v8m_main", "dsp"]),
    ("cortex_m52", ["mve"]),
    ("cortex_m55", ["mve"]),
    ("cortex_m85", ["mve"]),
    ("cortex_a7", ["v7a"]),
    ("cortex_a9", ["v7a"]),
    ("cortex_r5", ["v7r"])]
  nodup := by decide

/-- Every implied flag is itself a known flag. -/
theorem implications_closed :
    ∀ entry ∈ implications.entries, ∀ f ∈ entry.2, f ∈ implications.keys := by
  decide

/-- Every base feature of a core model is a known flag. -/
theorem coreModels_known :
    ∀ entry ∈ coreModels.entries, ∀ f ∈ entry.2, f ∈ implications.keys := by
  decide

end CortexFlags
