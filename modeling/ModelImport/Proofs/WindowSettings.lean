import ModelImport.Operator.Registry
import ModelImport.Proofs.ConverterRuns
/-!
# The window of a node

Convolutions and pools take their window from the attributes of the node, with defaults for what is left out, and from
their weights. `Site.Configures` says which window that is. Reading it returns that window (`runs_readWindow`) and no
other (`yields_readWindow`), so what a node comes to can be said by its window. The same is proved of the number of
spatial axes and of the number of groups, which are read before it.
-/

namespace ModelImport

open LookM ConverterM Operator Infer

/-! ## What the attributes say -/

/-- The kernel sizes of weights: those after the first two, unless their number is another or a size is not fixed. -/
def TensorType.kernel (weights : TensorType) (spatial : Nat) : List Nat :=
  weights.sizes?.elim [] fun sizes => if sizes.length = spatial + 2 then sizes.drop 2 else []

namespace Site

/-- The attribute lists sizes for so many places; or it is left out, and all of them are the default. -/
def Lists (site : Site) (key : String) (count default : Nat) (sizes : List Nat) : Prop :=
  site.Stores .ints key (some (sizes.map Int.ofNat)) ∧ sizes.length = count ∨
    site.Stores .ints key none ∧ sizes = List.replicate count default

/-- The kernel sizes are listed by an attribute, or else they are those of the weights. -/
def ListsKernel (site : Site) (spatial : Nat) (weights : Option TensorType) (kernel : List Nat) : Prop :=
  site.Stores .ints "kernel_shape" (some (kernel.map Int.ofNat)) ∨
    site.Stores .ints "kernel_shape" none ∧ ∃ w, weights = some w ∧ kernel = w.kernel spatial

/-- The attributes of the node give the window over so many axes. -/
structure Configures (site : Site) (spatial : Nat) (weights : Option TensorType) (w : Window) : Prop where
  kernel : site.ListsKernel spatial weights w.kernel
  known : w.kernel ≠ [] → w.kernel.length = spatial
  autoPad : ∃ name, site.Stores .string "auto_pad" name ∧ name.getD "NOTSET" = w.autoPad.name
  strides : site.Lists "strides" spatial 1 w.strides
  dilations : site.Lists "dilations" spatial 1 w.dilations
  pads : site.Lists "pads" (spatial * 2) 0 w.pads

end Site

/-! ## Reading it -/

namespace Operator
variable {site : Site} {key : String} {count default spatial : Nat} {weights : Option TensorType}

theorem runs_perAxis {sizes : List Nat} (h : site.Lists key count default sizes) :
    Runs site (perAxis key count default) sizes := by
  rcases h with ⟨hstored, hcount⟩ | ⟨hnone, rfl⟩
  · refine .bind (.attr? hstored) ?_
    dsimp only
    rw [List.length_map, if_neg (not_not_intro hcount)]
    exact .lift (nonNegative_eq_ok_iff.2 rfl)
  · exact .bind (.attr? hnone) .pure

theorem yields_perAxis : Yields site (perAxis key count default) (site.Lists key count default) := by
  refine .bind .attr? fun values hvalues => ?_
  cases values with
  | none => exact .pure (.inr ⟨hvalues, rfl⟩)
  | some values =>
    dsimp only
    split
    · exact .throw
    · next hcount =>
      refine .imp .lift fun sizes hsizes => ?_
      obtain rfl := nonNegative_eq_ok_iff.1 hsizes
      rw [List.length_map] at hcount
      exact .inl ⟨hvalues, Decidable.not_not.1 hcount⟩

theorem runs_readKernel {kernel : List Nat} (h : site.ListsKernel spatial weights kernel) :
    Runs site (readKernel spatial weights) kernel := by
  rcases h with hstored | ⟨hnone, w, rfl, rfl⟩
  · exact .bind (.attr? hstored) (.lift (nonNegative_eq_ok_iff.2 rfl))
  · refine .bind (.attr? hnone) ?_
    unfold TensorType.kernel
    dsimp only
    cases w.sizes? with
    | none => exact .pure
    | some sizes => exact .pure

theorem yields_readKernel : Yields site (readKernel spatial weights) (site.ListsKernel spatial weights) := by
  refine .bind .attr? fun kernel hkernel => ?_
  cases kernel with
  | some values =>
    refine .imp .lift fun kernel hsizes => ?_
    obtain rfl := nonNegative_eq_ok_iff.1 hsizes
    exact .inl hkernel
  | none =>
    cases weights with
    | none => exact .throw
    | some w =>
      have hlists : site.ListsKernel spatial (some w) (w.kernel spatial) := .inr ⟨hkernel, w, rfl, rfl⟩
      unfold TensorType.kernel at hlists
      dsimp only
      cases hsizes : w.sizes? with
      | none =>
        rw [hsizes] at hlists
        exact .pure hlists
      | some sizes =>
        rw [hsizes] at hlists
        exact .pure hlists

theorem runs_readAutoPad {autoPad : AutoPad} {name : Option String} (hname : site.Stores .string "auto_pad" name)
    (h : name.getD "NOTSET" = autoPad.name) : Runs site readAutoPad autoPad := by
  refine .bind (.attrOr hname) ?_
  rw [h, AutoPad.ofName?_name]
  exact .pure

theorem yields_readAutoPad : Yields site readAutoPad fun autoPad =>
    ∃ name, site.Stores .string "auto_pad" name ∧ name.getD "NOTSET" = autoPad.name := by
  refine .bind .attrOr ?_
  rintro _ ⟨name, hname, rfl⟩
  cases h : AutoPad.ofName? (name.getD "NOTSET") with
  | none => exact .throw
  | some autoPad => exact .pure ⟨name, hname, AutoPad.ofName?_eq_some_iff.1 h⟩

theorem runs_readWindow {w : Window} (h : site.Configures spatial weights w) :
    Runs site (readWindow spatial weights) w := by
  obtain ⟨name, hname, hpad⟩ := h.autoPad
  refine .bind (runs_readKernel h.kernel) ?_
  have hknown : ¬(w.kernel ≠ [] ∧ w.kernel.length ≠ spatial) := fun hbad => hbad.2 (h.known hbad.1)
  rw [if_neg hknown]
  refine .bind (runs_readAutoPad hname hpad) (.bind (runs_perAxis h.strides) ?_)
  exact .bind (runs_perAxis h.dilations) (.bind (runs_perAxis h.pads) .pure)

theorem yields_readWindow : Yields site (readWindow spatial weights) (site.Configures spatial weights) := by
  refine .bind yields_readKernel fun kernel hkernel => .guard fun hknown => ?_
  refine .bind yields_readAutoPad fun autoPad hautoPad => .bind yields_perAxis fun strides hstrides => ?_
  refine .bind yields_perAxis fun dilations hdilations => .bind yields_perAxis fun pads hpads => ?_
  refine .pure ⟨hkernel, ?_, hautoPad, hstrides, hdilations, hpads⟩
  intro hne
  exact Decidable.byContradiction fun hlength => hknown ⟨hne, hlength⟩

/-- An input of known rank has three axes at least, and the spatial ones are those after the first two. -/
theorem runs_spatialAxes {x : TensorType} {dims : List Dim} (hshape : x.shape = some dims) (hrank : 3 ≤ dims.length) :
    Runs site (spatialAxes x weights) (dims.length - 2) := by
  unfold spatialAxes TensorType.rank?
  rw [hshape, Option.map_some]
  dsimp only
  rw [if_neg (Nat.not_lt.2 hrank)]
  exact .pure

theorem yields_spatialAxes {x : TensorType} {dims : List Dim} (hshape : x.shape = some dims) :
    Yields site (spatialAxes x weights) fun spatial => 3 ≤ dims.length ∧ spatial = dims.length - 2 := by
  unfold spatialAxes TensorType.rank?
  rw [hshape, Option.map_some]
  dsimp only
  split
  · exact .runs .opType .throw
  · next hrank => exact .pure ⟨Nat.not_lt.1 hrank, rfl⟩

theorem runs_readGroup {group : Option Int} (hgroup : site.Stores .int "group" group) (hpositive : 1 ≤ group.getD 1) :
    Runs site readGroup (group.getD 1) := by
  refine .bind (.attrOr hgroup) ?_
  rw [if_neg (Int.not_lt.2 hpositive)]
  exact .pure

theorem yields_readGroup : Yields site readGroup fun group => 1 ≤ group := by
  refine .bind .attrOr fun group _ => ?_
  split
  · exact .throw
  · next hpositive => exact .pure (Int.not_lt.1 hpositive)

end Operator

end ModelImport
