import CortexFlags.Proofs.Features.Closure
import CortexFlags.Resolution

/-! Resolution of a query: when it succeeds, and which flags come out.

* `resolve_eq_ok_iff`: the outcome is the query with the closure of its flags;
* `resolve_isOk_iff`: it exists exactly for a known core model and known flags;
* `mem_resolve_iff`: a flag comes out exactly if the query's flags lead to it;
* `softFloat_mem_resolve_iff`: the soft float flag comes out only if asked for. -/

namespace CortexFlags

namespace Query

variable {q : Query} {r : ResolvedArch}

/-- The flags that resolution closes: those of the core model, then those added. -/
def flags (q : Query) : List String :=
  (coreModels.get? q.coreModel).getD [] ++ q.featuresAdd

theorem base_known {model f : String} (h : f ∈ (coreModels.get? model).getD []) :
    f ∈ implications.keys := by
  cases hb : coreModels.get? model with
  | none => simp [hb] at h
  | some base =>
    rw [hb] at h
    exact coreModels_known _ (Table.mem_entries_of_get? hb) f h

/-- The outcome keeps the texts of the query and closes its flags. -/
theorem resolve_eq_ok_iff :
    q.resolve = .ok r ↔ q.coreModel ∈ coreModels.keys ∧ expand q.flags = .ok r.features ∧
      r.arch = q.arch ∧ r.os = q.os ∧ r.abi = q.abi ∧ r.coreModel = q.coreModel := by
  unfold resolve flags
  rw [Table.mem_keys_iff]
  cases hb : coreModels.get? q.coreModel with
  | none => simp
  | some base =>
    dsimp only [Option.getD_some]
    cases he : expand (base ++ q.featuresAdd) with
    | error e => simp
    | ok s =>
      obtain ⟨arch, os, abi, model, features⟩ := r
      simp only [Except.ok.injEq, ResolvedArch.mk.injEq, Option.some.injEq]
      constructor
      · rintro ⟨rfl, rfl, rfl, rfl, rfl⟩
        exact ⟨⟨base, rfl⟩, rfl, rfl, rfl, rfl, rfl⟩
      · rintro ⟨_, rfl, rfl, rfl, rfl, rfl⟩
        exact ⟨rfl, rfl, rfl, rfl, rfl⟩

/-- Resolution by a visit that computes. -/
theorem resolve_of_reached? {s : FeatureSet} (hk : q.coreModel ∈ coreModels.keys)
    (hs : reached? q.flags = some s) :
    q.resolve = .ok ⟨q.arch, q.os, q.abi, q.coreModel, s⟩ :=
  resolve_eq_ok_iff.mpr ⟨hk, expand_eq_of_reached? hs, rfl, rfl, rfl, rfl⟩

/-- **Resolution succeeds exactly for known names.** -/
theorem resolve_isOk_iff :
    (∃ r, q.resolve = .ok r) ↔
      q.coreModel ∈ coreModels.keys ∧ ∀ f ∈ q.featuresAdd, f ∈ implications.keys := by
  constructor
  · rintro ⟨r, hr⟩
    obtain ⟨hk, he, _⟩ := resolve_eq_ok_iff.mp hr
    have known := expand_isOk_iff.mp ⟨_, he⟩
    exact ⟨hk, fun f hf => known f (List.mem_append_right _ hf)⟩
  · rintro ⟨hk, hf⟩
    have known : ∀ f ∈ q.flags, f ∈ implications.keys := by
      intro f hm
      rcases List.mem_append.mp hm with hm | hm
      · exact base_known hm
      · exact hf f hm
    obtain ⟨s, hs⟩ := expand_isOk_iff.mpr known
    exact ⟨⟨q.arch, q.os, q.abi, q.coreModel, s⟩,
      resolve_eq_ok_iff.mpr ⟨hk, hs, rfl, rfl, rfl, rfl⟩⟩

/-- Nothing but the texts and the set of flags counts. -/
theorem resolve_congr {p : Query} (harch : p.arch = q.arch) (hos : p.os = q.os)
    (habi : p.abi = q.abi) (hmodel : p.coreModel = q.coreModel)
    (hfeatures : ∀ f, f ∈ p.featuresAdd ↔ f ∈ q.featuresAdd) (hr : p.resolve = .ok r) :
    q.resolve = .ok r := by
  have hflags : ∀ f, f ∈ p.flags ↔ f ∈ q.flags := by
    intro f
    rw [flags, flags, hmodel, List.mem_append, List.mem_append, hfeatures f]
  rw [resolve_eq_ok_iff, harch, hos, habi, hmodel] at hr
  obtain ⟨hk, hexpand, htexts⟩ := hr
  exact resolve_eq_ok_iff.mpr ⟨hk, expand_congr hflags hexpand, htexts⟩

theorem mem_resolve_iff (hr : q.resolve = .ok r) {f : String} :
    f ∈ r.features ↔ Reaches implications q.flags f :=
  mem_expand_iff (resolve_eq_ok_iff.mp hr).2.1

theorem known_of_mem_resolve (hr : q.resolve = .ok r) {f : String} (hf : f ∈ r.features) :
    f ∈ implications.keys := by
  obtain ⟨_, he, _⟩ := resolve_eq_ok_iff.mp hr
  refine ((mem_resolve_iff hr).mp hf).least (expand_isOk_iff.mp ⟨_, he⟩) ?_
  intro g gs _ hgs x hx
  exact implications_complete _ (Table.mem_entries_of_get? hgs) x hx

/-- A resolved set holds all that its members lead to. -/
theorem mem_resolve_of_reaches (hr : q.resolve = .ok r) {fs : List String}
    (hfs : ∀ f ∈ fs, f ∈ r.features) {f : String} (h : Reaches implications fs f) :
    f ∈ r.features := by
  rw [mem_resolve_iff hr]
  exact h.trans fun g hg => (mem_resolve_iff hr).mp (hfs g hg)

/-- No core model has the soft float flag, and no flag implies it. -/
theorem softFloat_reached_iff {model : String} {fs : List String} :
    Reaches implications ((coreModels.get? model).getD [] ++ fs) softFloat ↔ softFloat ∈ fs := by
  have implied : ∀ entry ∈ implications.entries, softFloat ∉ entry.2 := by decide
  have based : ∀ entry ∈ coreModels.entries, softFloat ∉ entry.2 := by decide
  constructor
  · intro h
    rcases List.mem_append.mp (mem_of_reaches implied h) with h | h
    · cases hb : coreModels.get? model with
      | none => simp [hb] at h
      | some base =>
        rw [hb] at h
        exact absurd h (based _ (Table.mem_entries_of_get? hb))
    · exact h
  · intro h
    exact .start (List.mem_append_right _ h)

theorem softFloat_mem_resolve_iff (hr : q.resolve = .ok r) :
    softFloat ∈ r.features ↔ softFloat ∈ q.featuresAdd := by
  rw [mem_resolve_iff hr]
  exact softFloat_reached_iff

end Query

end CortexFlags
