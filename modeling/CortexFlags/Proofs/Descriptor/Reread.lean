import CortexFlags.Proofs.Descriptor.FixedPoint

/-! Descriptors that come out of flags or of inference can be read again, from the
values of their fields and from the flags that they are written as.

* `comesOut_iff_entered`: what comes out is exactly what is made of entries of the
  catalogue, with valid settings;
* `ofFlags_flags`: the values of its fields select the same descriptor again;
* `gccFlags_inj`: the flags that are written tell all names and selectors;
* `comesOut_reread`: all of this for whatever comes out. -/

namespace CortexFlags

namespace Descriptor

variable {k : Catalogue} {d e : Descriptor}

/-! ## Where descriptors come from -/

/-- The descriptor is selected by some flags, or inferred from some resolved
architecture. -/
def ComesOut (k : Catalogue) (d : Descriptor) : Prop :=
  (∃ flags, ofFlags k flags = .ok d) ∨ ∃ r, ofResolved k r = .ok d

/-- The descriptor is made of entries of the catalogue, and its settings are valid. -/
structure Entered (k : Catalogue) (d : Descriptor) : Prop where
  cpu_mem : d.cpu ∈ k.cpus
  fpu_mem : ∀ f, d.fpu = some f → f ∈ k.fpus
  valid : d.validate = .ok ()

theorem ComesOut.entered (h : ComesOut k d) : Entered k d := by
  rcases h with ⟨flags, hd⟩ | ⟨r, hd⟩
  · obtain ⟨hcpu, hfpu, hvalid⟩ := listed_of_ofFlags hd
    exact ⟨hcpu, hfpu, hvalid⟩
  · obtain ⟨hcpu, hfpu⟩ := listed_of_ofResolved hd
    exact ⟨hcpu, hfpu, validate_of_ofResolved hd⟩

/-! ## Reading the fields again -/

/-- The values of the fields, as flags. -/
def flags (d : Descriptor) : Flags where
  cpu := some d.cpu.name
  floatAbi := some d.floatAbi.name
  fpu := d.fpu.map Fpu.name
  thumb := decide (d.instructionSet = .thumb)
  arm := decide (d.instructionSet = .arm)
  bigEndian := decide (d.endianness = .big)

/-- **The fields select the descriptor again.** -/
theorem Entered.ofFlags_flags (h : Entered k d) : ofFlags k d.flags = .ok d := by
  refine ofFlags_eq_ok_iff.mpr ⟨⟨rfl, h.cpu_mem⟩, Or.inl rfl, ⟨rfl, h.fpu_mem⟩, ?_, ?_, h.valid⟩
  · cases hi : d.instructionSet <;> simp [Flags.instructionSet, flags, hi]
  · cases he : d.endianness <;> simp [Flags.endianness, flags, he]

theorem comesOut_iff_entered : ComesOut k d ↔ Entered k d :=
  ⟨ComesOut.entered, fun h => Or.inl ⟨d.flags, h.ofFlags_flags⟩⟩

/-! ## Reading the written flags again -/

/-- What stands behind the instruction set, for each endianness. -/
theorem gccFlags_eq (d : Descriptor) :
    d.gccFlags = ("-mcpu=" ++ d.cpu.name) :: ("-m" ++ d.instructionSet.name) ::
      ((if d.endianness = .big then ["-mbig-endian"] else []) ++
        ("-mfloat-abi=" ++ d.floatAbi.name) :: (d.fpu.map fun f => "-mfpu=" ++ f.name).toList) := by
  unfold gccFlags
  simp only [List.append_assoc, List.cons_append, List.nil_append]
  rfl

/-- **The written flags tell the fields apart.** The mark of big endian code is not the
text of a float ABI, so a list with the mark is not one without it. -/
theorem gccFlags_inj (h : d.gccFlags = e.gccFlags) : d.flags = e.flags := by
  have hmark : ∀ abi : FloatAbi, "-mbig-endian" ≠ "-mfloat-abi=" ++ abi.name := by
    intro abi
    cases abi <;> decide
  rw [gccFlags_eq, gccFlags_eq, List.cons.injEq, List.cons.injEq] at h
  obtain ⟨hcpu, hset, hrest⟩ := h
  have hcpu : d.cpu.name = e.cpu.name := (String.append_right_inj _).mp hcpu
  have hset : d.instructionSet = e.instructionSet :=
    InstructionSet.name_inj ((String.append_right_inj _).mp hset)
  obtain ⟨hendian, htail⟩ : d.endianness = e.endianness ∧
      ("-mfloat-abi=" ++ d.floatAbi.name) :: (d.fpu.map fun f => "-mfpu=" ++ f.name).toList =
        ("-mfloat-abi=" ++ e.floatAbi.name) :: (e.fpu.map fun f => "-mfpu=" ++ f.name).toList := by
    cases hd : d.endianness <;> cases he : e.endianness <;> rw [hd, he] at hrest
    · exact ⟨rfl, hrest⟩
    · exact absurd (List.cons.inj hrest).1.symm (hmark _)
    · exact absurd (List.cons.inj hrest).1 (hmark _)
    · exact ⟨rfl, (List.cons.inj hrest).2⟩
  obtain ⟨habi, hunit⟩ := List.cons.inj htail
  have habi : d.floatAbi.name = e.floatAbi.name := (String.append_right_inj _).mp habi
  have hunit : d.fpu.map Fpu.name = e.fpu.map Fpu.name := by
    cases hf : d.fpu <;> cases hg : e.fpu <;> simp only [hf, hg] at hunit
    · rfl
    · cases hunit
    · cases hunit
    · exact congrArg some ((String.append_right_inj _).mp (List.cons.inj hunit).1)
  simp only [flags, hcpu, habi, hunit, hset, hendian]

theorem Entered.eq_of_gccFlags_eq (hd : Entered k d) (he : Entered k e)
    (h : d.gccFlags = e.gccFlags) : d = e := by
  have hagain := hd.ofFlags_flags
  rw [gccFlags_inj h, he.ofFlags_flags] at hagain
  exact (Except.ok.inj hagain).symm

/-! ## All of it -/

/-- **What comes out can be read again**, from flags and from any resolved architecture,
whose features may be unknown and need not be closed. -/
theorem comesOut_reread (h : ComesOut k d) :
    d.validate = .ok () ∧
      (k.cpu d.cpu.name = .ok d.cpu ∧ ∀ f, d.fpu = some f → k.fpu f.name = .ok f) ∧
      ofFlags k d.flags = .ok d ∧
      (∀ fault, d.toQuery = .error fault → fault = .tooManyFeatures d.queryFeatures.length) ∧
      ∀ e, ComesOut k e → d.gccFlags = e.gccFlags → d = e := by
  have hentered := h.entered
  refine ⟨hentered.valid, ⟨k.cpu_eq_ok_iff.mpr ⟨hentered.cpu_mem, rfl⟩, fun f hf => ?_⟩,
    hentered.ofFlags_flags, fun fault hfault => ?_, fun e he => ?_⟩
  · exact k.fpu_eq_ok_iff.mpr ⟨hentered.fpu_mem f hf, rfl⟩
  · rw [toQuery_of_valid hentered.valid] at hfault
    split at hfault
    · cases hfault
      rfl
    · cases hfault
  · exact hentered.eq_of_gccFlags_eq he.entered

/-- A feature set that is neither closed nor known to the vocabulary. -/
def unclosed : ResolvedArch where
  arch := "armeb"
  os := freestanding
  abi := "any"
  coreModel := "cortex_m4"
  features := .ofList ["vfp2", "unheard"]

theorem unclosed_reread :
    ∃ d, ofResolved twoNames unclosed = .ok d ∧
      (d.validate = .ok () ∧
        (twoNames.cpu d.cpu.name = .ok d.cpu ∧
          ∀ f, d.fpu = some f → twoNames.fpu f.name = .ok f) ∧
        ofFlags twoNames d.flags = .ok d ∧
        (∀ fault, d.toQuery = .error fault → fault = .tooManyFeatures d.queryFeatures.length) ∧
        ∀ e, ComesOut twoNames e → d.gccFlags = e.gccFlags → d = e) := by
  have hd : ofResolved twoNames unclosed =
      .ok { renamed with floatAbi := .hard, fpu := some ⟨"vfp", 7, ["vfp2"]⟩ } := by rfl
  exact ⟨_, hd, comesOut_reread (Or.inr ⟨unclosed, hd⟩)⟩

end Descriptor

end CortexFlags
