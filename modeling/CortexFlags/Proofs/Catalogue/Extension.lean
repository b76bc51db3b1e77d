import CortexFlags.Proofs.Catalogue.Construction
import CortexFlags.Proofs.Descriptor.MostSpecific
import CortexFlags.Proofs.Descriptor.Outcome

/-! A knowledge base with entries added behind those that are there.

* `Catalogue.extends_of_build`: its catalogue has new entries behind the old ones;
* `Extends.ofFlags_eq_ok`: what flags select stays selected;
* `Leads.append_iff`: a unit keeps leading unless a backed unit behind has a
  strictly lower priority;
* `Extends.ofResolved_eq_ok_iff`: so inference stays unless a new unit outranks
  the one that was picked;
* `Catalogue.build_extends`: all of this for two knowledge bases. -/

namespace CortexFlags

/-- The entries of both tables stand first, in order. The names behind are new, as no
table has a name twice. -/
structure KnowledgeBase.Extends (more base : KnowledgeBase) : Prop where
  fpus : base.fpus.entries <+: more.fpus.entries
  cpus : base.cpus.entries <+: more.cpus.entries

/-- The entries of both lists stand first, in order. -/
structure Catalogue.Extends (k' k : Catalogue) : Prop where
  fpus : k.fpus <+: k'.fpus
  cpus : k.cpus <+: k'.cpus

/-- The unit is preferred to what was picked so far, wherever it is declared behind it. -/
def Fpu.Outranks (g : Fpu) : Option Fpu → Prop
  | none => True
  | some f => g.priority < f.priority

/-! ## The catalogue of a longer knowledge base -/

theorem Table.get?_of_prefix {α : Type} {t u : Table α} (h : t.entries <+: u.entries)
    {key : String} {value : α} (hv : t.get? key = some value) : u.get? key = some value :=
  h.lookup_eq_some hv

/-- What rows make stands first, if more rows make the same and then more. -/
theorem prefix_of_forall₂ {α β : Type} {R S : α → β → Prop}
    (hsame : ∀ x y z, R x y → S x z → y = z) {xs xs' : List α} {ys ys' : List β}
    (hx : xs <+: xs') (hy : List.Forall₂ R xs ys) (hy' : List.Forall₂ S xs' ys') :
    ys <+: ys' := by
  obtain ⟨more, rfl⟩ := hx
  induction hy generalizing ys' with
  | nil => exact List.nil_prefix
  | cons hr _ ih =>
    rw [List.cons_append] at hy'
    obtain ⟨z, zs, hs, hzs, rfl⟩ := List.forall₂_cons_left_iff.mp hy'
    rw [hsame _ _ _ hr hs]
    exact (List.prefix_cons_inj z).mpr (ih hzs)

theorem FpuRow.Makes.extend {rows rows' : Table FpuRow} (h : rows.entries <+: rows'.entries)
    {name : String} {row : FpuRow} {f : Fpu} (hf : row.Makes rows name f) :
    row.Makes rows' name f where
  name := hf.name
  priority := hf.priority
  features := by
    have hfeatures := hf.features
    cases halias : row.aliasOf with
    | none =>
      rw [halias] at hfeatures
      exact hfeatures
    | some target =>
      rw [halias] at hfeatures
      obtain ⟨t, ht, hlisted⟩ := hfeatures
      exact ⟨t, Table.get?_of_prefix h ht, hlisted⟩

theorem CpuRow.Makes.extend {fpus fpus' : List Fpu} (h : fpus <+: fpus') {name : String}
    {row : CpuRow} {c : Cpu} (hc : row.Makes fpus name c) : row.Makes fpus' name c where
  name := hc.name
  architecture := hc.architecture
  coreModel := hc.coreModel
  fpus := by
    obtain ⟨names, hnames, hpicked⟩ := hc.fpus
    exact ⟨names, hnames, hpicked.imp fun _ _ hf => h.find?_eq_some hf⟩

theorem FpuRow.Makes.unique {rows : Table FpuRow} {name : String} {row : FpuRow} {f g : Fpu}
    (hf : row.Makes rows name f) (hg : row.Makes rows name g) : f = g := by
  rw [← FpuRow.build_eq_ok_iff] at hf hg
  rw [hf] at hg
  exact Except.ok.inj hg

theorem CpuRow.Makes.unique {fpus : List Fpu} {name : String} {row : CpuRow} {c d : Cpu}
    (hc : row.Makes fpus name c) (hd : row.Makes fpus name d) : c = d := by
  rw [← CpuRow.build_eq_ok_iff] at hc hd
  rw [hc] at hd
  exact Except.ok.inj hd

/-- **New entries stand behind the old ones**: neither an alias nor a list of units reads
differently where there is more to read from. -/
theorem Catalogue.extends_of_build {base more : KnowledgeBase} {k k' : Catalogue}
    (h : more.Extends base) (hk : build base = .ok k) (hk' : build more = .ok k') :
    k'.Extends k := by
  obtain ⟨hfpus, hcpus⟩ := build_eq_ok_iff.mp hk
  obtain ⟨hfpus', hcpus'⟩ := build_eq_ok_iff.mp hk'
  have hunits : k.fpus <+: k'.fpus :=
    prefix_of_forall₂ (fun _ _ _ hf hg => (hf.extend h.fpus).unique hg) h.fpus hfpus hfpus'
  exact ⟨hunits,
    prefix_of_forall₂ (fun _ _ _ hc hd => (hc.extend hunits).unique hd) h.cpus hcpus hcpus'⟩

/-! ## Leading among more units -/

namespace Leads

variable {units more : List Fpu} {P : String → Prop} {f g : Fpu}

/-- No backed unit has a lower priority than the one that leads. -/
theorem priority_le (h : Leads units P f) (hg : g ∈ units) (hback : g.BackedBy P) :
    f.priority ≤ g.priority := by
  obtain ⟨before, after, rfl, hb, ha⟩ := h.first
  rcases List.mem_append.mp hg with hg | hg
  · have hlt := hb g hg hback
    omega
  · rcases List.mem_cons.mp hg with rfl | hg
    · exact Int.le_refl _
    · exact ha g hg hback

/-- **Units behind** end a lead only by a strictly lower priority. -/
theorem append_iff (h : Leads units P f) :
    Leads (units ++ more) P f ↔ ∀ g ∈ more, g.BackedBy P → f.priority ≤ g.priority := by
  constructor
  · intro hlonger g hg hback
    exact hlonger.priority_le (List.mem_append_right _ hg) hback
  · intro hmore
    obtain ⟨before, after, rfl, hb, ha⟩ := h.first
    refine ⟨h.backed, before, after ++ more, by simp, hb, fun g hg hback => ?_⟩
    rcases List.mem_append.mp hg with hg | hg
    · exact ha g hg hback
    · exact hmore g hg hback

end Leads

/-! ## Selecting and inferring with more entries -/

namespace Catalogue.Extends

variable {k k' : Catalogue} {r : ResolvedArch} {d : Descriptor}

/-- The new units are those of new names. -/
theorem exists_new (h : k'.Extends k) :
    ∃ new, k'.fpus = k.fpus ++ new ∧
      ∀ g, g ∈ new ↔ g ∈ k'.fpus ∧ g.name ∉ k.fpus.map Fpu.name := by
  obtain ⟨new, hnew⟩ := h.fpus
  have hnodup := k'.fpuNames_nodup
  rw [← hnew, List.map_append] at hnodup
  refine ⟨new, hnew.symm, fun g => ?_⟩
  rw [← hnew]
  constructor
  · intro hg
    refine ⟨List.mem_append_right _ hg, fun hold => ?_⟩
    exact (List.nodup_append.mp hnodup).2.2 _ hold _ (List.mem_map_of_mem hg) rfl
  · rintro ⟨hg, hname⟩
    rcases List.mem_append.mp hg with hg | hg
    · exact absurd (List.mem_map_of_mem hg) hname
    · exact hg

/-- **What flags select stays selected.** -/
theorem ofFlags_eq_ok (h : k'.Extends k) {flags : Flags} (hd : Descriptor.ofFlags k flags = .ok d) :
    Descriptor.ofFlags k' flags = .ok d := by
  have hselects := Descriptor.ofFlags_eq_ok_iff.mp hd
  exact Descriptor.ofFlags_eq_ok_iff.mpr { hselects with
    cpu := ⟨hselects.cpu.1, h.cpus.subset hselects.cpu.2⟩
    fpu := ⟨hselects.fpu.1, fun f hf => h.fpus.subset (hselects.fpu.2 f hf)⟩ }

/-- **The unit stays** exactly if no new unit outranks it. -/
theorem inferFpu_eq_iff (h : k'.Extends k) :
    r.inferFpu k' = r.inferFpu k ↔
      ∀ g ∈ k'.fpus, g.name ∉ k.fpus.map Fpu.name → r.hasAll g.features →
        ¬ g.Outranks (r.inferFpu k) := by
  obtain ⟨new, hnew, hmem⟩ := h.exists_new
  have hforall : ∀ p : Fpu → Prop,
      (∀ g ∈ k'.fpus, g.name ∉ k.fpus.map Fpu.name → p g) ↔ ∀ g ∈ new, p g := by
    simp only [hmem, and_imp, implies_true]
  rw [hforall]
  simp only [ResolvedArch.hasAll_features_iff]
  cases hi : r.inferFpu k with
  | none =>
    rw [ResolvedArch.inferFpu_eq_none_iff] at hi ⊢
    rw [hnew, List.forall_mem_append]
    simp only [Fpu.Outranks, not_true_eq_false]
    exact ⟨fun hall => hall.2, fun hall => ⟨hi, hall⟩⟩
  | some f =>
    rw [ResolvedArch.inferFpu_eq_some_iff] at hi ⊢
    rw [hnew, hi.append_iff]
    simp only [Fpu.Outranks, Int.not_lt]

/-- **What is inferred stays** exactly if no new unit outranks the one that was picked. New
CPUs stand behind the one of the core model, which stays the first. -/
theorem ofResolved_eq_ok_iff (h : k'.Extends k) (hd : Descriptor.ofResolved k r = .ok d) :
    Descriptor.ofResolved k' r = .ok d ↔
      ∀ g ∈ k'.fpus, g.name ∉ k.fpus.map Fpu.name → r.hasAll g.features → ¬ g.Outranks d.fpu := by
  obtain ⟨hcpu, harch, hos, hfpu, hsup, habi⟩ := Descriptor.ofResolved_eq_ok_iff.mp hd
  have hcpu' : k'.cpuForModel? r.coreModel = some d.cpu := h.cpus.find?_eq_some hcpu
  rw [← hfpu, ← h.inferFpu_eq_iff, hfpu, Descriptor.ofResolved_eq_ok_iff]
  constructor
  · rintro ⟨_, _, _, hunit, _, _⟩
    exact hunit
  · intro hunit
    exact ⟨hcpu', harch, hos, hunit, hsup, habi⟩

end Catalogue.Extends

namespace Catalogue

variable {base more : KnowledgeBase} {k k' : Catalogue}

/-- **A conservative extension.** Flags that select a descriptor select it among more
entries too; and inference gives the same descriptor exactly if no new unit whose features
are all there outranks its unit. -/
theorem build_extends (h : more.Extends base) (hk : build base = .ok k)
    (hk' : build more = .ok k') :
    (∀ flags d, Descriptor.ofFlags k flags = .ok d →
      ∃ d', Descriptor.ofFlags k' flags = .ok d' ∧ d' = d ∧ d'.toQuery = d.toQuery) ∧
    ∀ r d, Descriptor.ofResolved k r = .ok d →
      (Descriptor.ofResolved k' r = .ok d ↔
        ¬ ∃ g ∈ k'.fpus, g.name ∉ base.fpus.keys ∧ r.hasAll g.features ∧ g.Outranks d.fpu) := by
  have hextends := extends_of_build h hk hk'
  refine ⟨fun flags d hd => ⟨d, hextends.ofFlags_eq_ok hd, rfl, rfl⟩, fun r d hd => ?_⟩
  rw [hextends.ofResolved_eq_ok_iff hd, (represents_of_build hk).fpuNames]
  constructor
  · rintro hall ⟨g, hg, hnew, hback, houtranks⟩
    exact hall g hg hnew hback houtranks
  · intro hnone g hg hnew hback houtranks
    exact hnone ⟨g, hg, hnew, hback, houtranks⟩

/-- Another unit of lower priority, and another CPU with the same core model. -/
def namedThrice : KnowledgeBase where
  fpus := ⟨[("vfpv2", .own 7 ["vfp2"]), ("vfp", .named 8 "vfpv2"), ("own", .own 3 ["vfp2"])],
    by decide⟩
  cpus := ⟨[("cortex-m4", .full "Armv7E-M" "cortex_m4" ["vfp", "vfpv2"]),
    ("cortex-m4f", .full "Armv7E-M" "cortex_m4" ["own"])], by decide⟩

theorem namedThrice_extends :
    namedThrice.Extends namedTwice ∧ ∃ k k', build namedTwice = .ok k ∧
      build namedThrice = .ok k' ∧
      (∀ flags d, Descriptor.ofFlags k flags = .ok d →
        ∃ d', Descriptor.ofFlags k' flags = .ok d' ∧ d' = d ∧ d'.toQuery = d.toQuery) ∧
      ∀ r d, Descriptor.ofResolved k r = .ok d →
        (Descriptor.ofResolved k' r = .ok d ↔ ¬ ∃ g ∈ k'.fpus,
          g.name ∉ namedTwice.fpus.keys ∧ r.hasAll g.features ∧ g.Outranks d.fpu) := by
  have hmore : namedThrice.Extends namedTwice := ⟨⟨_, rfl⟩, ⟨_, rfl⟩⟩
  have htwice : failure? (build namedTwice) = none := by
    rw [failure?_build]
    decide
  have hthrice : failure? (build namedThrice) = none := by
    rw [failure?_build]
    decide
  obtain ⟨k, hk⟩ := failure?_eq_none_iff.mp htwice
  obtain ⟨k', hk'⟩ := failure?_eq_none_iff.mp hthrice
  exact ⟨hmore, k, k', hk, hk', build_extends hmore hk hk'⟩

end Catalogue

end CortexFlags
