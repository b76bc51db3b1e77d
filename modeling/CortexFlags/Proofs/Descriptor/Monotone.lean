import CortexFlags.Proofs.Descriptor.Inferred

/-! Inference on more flags.

* `Leads.grow`: among more flags the same unit leads, or one that was not backed before
  and comes ahead of it;
* `Grows.inferFpu`: the unit that is picked stays or gives way to one ahead of it;
* `Grows.floatAbiFor_eq_softfp`: no flag that is added makes a softfp ABI a hard one;
* `ofResolved_monotone`: hence what a descriptor with a unit becomes when flags are added. -/

namespace CortexFlags

variable {units : List Fpu} {P Q : String → Prop} {f g : Fpu}

/-! ## Units ahead of others -/

/-- One unit is listed before the other. -/
def ListedBefore (units : List Fpu) (g f : Fpu) : Prop :=
  ∃ front mid back, units = front ++ g :: (mid ++ f :: back)

/-- The unit has a lower priority, or the same and is listed before the other. -/
def Ahead (units : List Fpu) (g f : Fpu) : Prop :=
  g.priority < f.priority ∨ g.priority = f.priority ∧ ListedBefore units g f

/-- The unit that leads is ahead of every other that is backed. -/
theorem Leads.ahead (hg : Leads units Q g) (hf : f ∈ units) (hback : f.BackedBy Q)
    (hne : f ≠ g) : Ahead units g f := by
  obtain ⟨before, after, hunits, hbefore, hafter⟩ := hg.first
  rw [hunits, List.mem_append, List.mem_cons] at hf
  rcases hf with hf | rfl | hf
  · exact Or.inl (hbefore f hf hback)
  · exact absurd rfl hne
  · rcases Int.lt_or_eq_of_le (hafter f hf hback) with hlt | heq
    · exact Or.inl hlt
    · obtain ⟨mid, back, rfl⟩ := List.append_of_mem hf
      exact Or.inr ⟨heq, before, mid, back, hunits⟩

/-- **Gaining rivals.** Where more is backed, the unit gives way only to one ahead of it
that was not backed before. -/
theorem Leads.grow (hsub : ∀ x, P x → Q x) (hf : Leads units P f) (hg : Leads units Q g) :
    g = f ∨ ¬ g.BackedBy P ∧ Ahead units g f := by
  by_cases hback : g.BackedBy P
  · have hleads : Leads units P g := hg.shrink (fun _ _ h => h.imp hsub) hback
    exact Or.inl (hleads.unique hf)
  · have hne : f ≠ g := by
      rintro rfl
      exact hback hf.backed
    exact Or.inr ⟨hback, hg.ahead hf.mem (hf.backed.imp hsub) hne⟩

/-! ## More flags -/

/-- An architecture with more flags and, but for the ABI text, the same texts. -/
structure Grows (r r' : ResolvedArch) : Prop where
  arch : r'.arch = r.arch
  os : r'.os = r.os
  coreModel : r'.coreModel = r.coreModel
  features : ∀ x ∈ r.features, x ∈ r'.features

namespace Grows

variable {k : Catalogue} {r r' : ResolvedArch}

/-- **The unit stays or gives way** to one ahead of it. -/
theorem inferFpu (h : Grows r r') (hf : r.inferFpu k = some f) :
    ∃ g, r'.inferFpu k = some g ∧ (g = f ∨ ¬ r.hasAll g.features ∧ Ahead k.fpus g f) := by
  have hleads := ResolvedArch.leads_of_inferFpu hf
  obtain ⟨g, hg⟩ := exists_leads ⟨f, hleads.mem, hleads.backed.imp h.features⟩
  refine ⟨g, ResolvedArch.inferFpu_eq_some_iff.mpr hg, ?_⟩
  rw [ResolvedArch.hasAll_features_iff]
  exact hleads.grow h.features hg

/-- A softfp ABI stays one, whatever the units are. -/
theorem floatAbiFor_eq_softfp (h : Grows r r') (g : Fpu)
    (hsoftfp : r.floatAbiFor (some f) = .softfp) : r'.floatAbiFor (some g) = .softfp := by
  unfold ResolvedArch.floatAbiFor at hsoftfp ⊢
  by_cases hsoft : softFloat ∈ r.features
  · exact if_pos (h.features _ hsoft)
  · rw [if_neg hsoft] at hsoftfp
    cases hsoftfp

end Grows

namespace Descriptor

variable {k : Catalogue} {r r' : ResolvedArch} {d : Descriptor}

/-- **Inference is monotone in the flags.** A descriptor with a unit, inferred again from
more flags, keeps its CPU and its kind of code. Its unit stays, or gives way to one that was
not backed and comes ahead of it; it may be refused because the CPU lacks that unit, but it
is never soft, nor hard in the place of softfp. -/
theorem ofResolved_monotone (harch : r'.arch = r.arch) (hos : r'.os = r.os)
    (hmodel : r'.coreModel = r.coreModel) (hfeatures : ∀ x ∈ r.features, x ∈ r'.features)
    (hd : ofResolved k r = .ok d) (hf : d.fpu = some f) :
    ∃ g, (g = f ∨ ¬ r.hasAll g.features ∧ (g.priority < f.priority ∨
        g.priority = f.priority ∧ ListedBefore k.fpus g f)) ∧
      ((¬ d.cpu.supports g ∧ ofResolved k r' = .error (.incompatibleFpu g.name d.cpu.name)) ∨
        ∃ d', ofResolved k r' = .ok d' ∧ d'.cpu = d.cpu ∧
          d'.instructionSet = d.instructionSet ∧ d'.endianness = d.endianness ∧
          d'.fpu = some g ∧ d'.floatAbi ≠ .soft ∧
          (d.floatAbi = .softfp → d'.floatAbi = .softfp)) := by
  have hgrows : Grows r r' := ⟨harch, hos, hmodel, hfeatures⟩
  obtain ⟨hcpu, hname, hfree, hunit, _, habi⟩ := ofResolved_eq_ok_iff.mp hd
  rw [hf] at hunit habi
  rw [← hmodel] at hcpu
  rw [← harch] at hname
  rw [← hos] at hfree
  obtain ⟨g, hg, hahead⟩ := hgrows.inferFpu hunit
  refine ⟨g, hahead, ?_⟩
  by_cases hsupports : d.cpu.supports g
  · have hd' : ofResolved k r' =
        .ok { d with floatAbi := r'.floatAbiFor (some g), fpu := some g } := by
      refine ofResolved_eq_ok_iff.mpr ⟨hcpu, hname, hfree, hg, ?_, rfl⟩
      rintro _ ⟨⟩
      exact hsupports
    have hvalid := (validate_eq_ok_iff _).mp (validate_of_ofResolved hd')
    refine Or.inr ⟨_, hd', rfl, rfl, rfl, rfl, hvalid.1, fun hsoftfp => ?_⟩
    rw [habi] at hsoftfp
    exact hgrows.floatAbiFor_eq_softfp g hsoftfp
  · refine Or.inl ⟨hsupports, ofResolved_eq_incompatible_iff.mpr ?_⟩
    exact ⟨d.cpu, _, g, hcpu, Arch.ofName?_eq_some_iff.mpr hname, hfree, hg, hsupports, rfl, rfl⟩

/-- A unit that includes another is listed first, and one of a lower priority last. -/
def nestedUnits : List Fpu :=
  [⟨"double", 1, ["sp", "dp"]⟩, ⟨"single", 1, ["sp"]⟩, ⟨"vector", 0, ["sp", "simd"]⟩]

/-- The CPU lacks the last of them. -/
def nestedCpu : Cpu :=
  ⟨"nested", "Armv7-R", "nested_model", [⟨"single", 1, ["sp"]⟩, ⟨"double", 1, ["sp", "dp"]⟩]⟩

def nested : Catalogue := ⟨nestedUnits, [nestedCpu], by decide, by decide, by decide⟩

def nestedArch (features : List String) : ResolvedArch :=
  ⟨"thumbeb", "freestanding", "eabihf", "nested_model", .ofList features⟩

/-- The target of the CPU with its smaller unit. -/
def nestedSingle : Descriptor := ⟨nestedCpu, .thumb, .big, .softfp, some ⟨"single", 1, ["sp"]⟩⟩

/-- With one more flag the unit gives way to one listed before it, with another to one that
the CPU lacks. -/
theorem nested_monotone :
    ofResolved nested (nestedArch ["soft_float", "sp"]) = .ok nestedSingle ∧
      (∃ d, ofResolved nested (nestedArch ["dp", "soft_float", "sp"]) = .ok d ∧
        d.cpu = nestedCpu ∧ d.floatAbi = .softfp ∧ d.fpu = some ⟨"double", 1, ["sp", "dp"]⟩) ∧
      ofResolved nested (nestedArch ["simd", "soft_float", "sp"]) =
        .error (.incompatibleFpu "vector" "nested") := by
  have hd : ofResolved nested (nestedArch ["soft_float", "sp"]) = .ok nestedSingle := by rfl
  have hunit : nestedSingle.fpu = some ⟨"single", 1, ["sp"]⟩ := rfl
  have harch : (nestedArch ["dp", "soft_float", "sp"]).arch =
      (nestedArch ["soft_float", "sp"]).arch := rfl
  have hmore : ∀ x ∈ (nestedArch ["soft_float", "sp"]).features,
      x ∈ (nestedArch ["dp", "soft_float", "sp"]).features := by decide
  refine ⟨hd, ?_, by rfl⟩
  obtain ⟨g, _, ⟨_, hrefused⟩ | ⟨d, hout, hcpu, _, _, _, _, hsoftfp⟩⟩ :=
    ofResolved_monotone harch rfl rfl hmore hd hunit
  · cases hrefused
  · refine ⟨d, hout, hcpu, hsoftfp rfl, ?_⟩
    cases hout
    rfl

end Descriptor

end CortexFlags
