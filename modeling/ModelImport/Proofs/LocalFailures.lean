import ModelImport.Operator.Registry
/-!
# Failures that are about a node

Most computations can only find fault with what they are given: with an axis, a shape, an equation, a tensor or an
attribute. Here this is said of each of them, as `FailsLocally`. A converter is made of such computations
(`Proofs/ConverterErrors.lean`).
-/

namespace ModelImport

/-- What can be wrong with a node and its operands. -/
def ImportError.Local : ImportError → Prop
  | duplicateBinding _ | unsupportedOperator _ | unresolvedInput _ => False
  | unsupportedOpset .. | decode _ | io .. | cancelled => False
  | _ => True

theorem ImportError.Local.ne_cancelled {e : ImportError} (h : e.Local) : e ≠ .cancelled := by
  rintro rfl
  exact h

/-- Whatever a computation fails with satisfies `P`. -/
def FailsWith {α : Type} (P : ImportError → Prop) (x : Except ImportError α) : Prop := ∀ e, x = .error e → P e

namespace FailsWith
variable {α β : Type} {P Q : ImportError → Prop}

theorem imp {x : Except ImportError α} (h : FailsWith P x) (hPQ : ∀ e, P e → Q e) : FailsWith Q x :=
  fun e he => hPQ e (h e he)

theorem ok {a : α} : FailsWith P (.ok a) := fun _ h => by cases h

theorem error {e : ImportError} (h : P e) : FailsWith P (.error e : Except ImportError α) := by
  rintro _ ⟨⟩
  exact h

theorem bind {x : Except ImportError α} {f : α → Except ImportError β} (hx : FailsWith P x)
    (hf : ∀ a, FailsWith P (f a)) : FailsWith P (x >>= f) := by
  cases x with
  | error e => exact error (hx e rfl)
  | ok a => exact hf a

theorem map {x : Except ImportError α} {f : α → β} (hx : FailsWith P x) : FailsWith P (x.map f) := by
  cases x with
  | error e => exact error (hx e rfl)
  | ok a => exact ok

theorem ite {c : Prop} [Decidable c] {x y : Except ImportError α} (hx : FailsWith P x) (hy : FailsWith P y) :
    FailsWith P (if c then x else y) := by
  split
  · exact hx
  · exact hy

/-- A check before the rest. -/
theorem guard {c : Prop} [Decidable c] {e : ImportError} {f : β → Except ImportError α} {x : Except ImportError α}
    (he : P e) (hx : FailsWith P x) : FailsWith P (if c then .error e >>= f else x) :=
  .ite (error he) hx

theorem mapM {f : β → Except ImportError α} (hf : ∀ b, FailsWith P (f b)) (l : List β) : FailsWith P (l.mapM f) := by
  induction l with
  | nil => exact ok
  | cons b l ih =>
    rw [List.mapM_cons]
    exact .bind (hf b) fun _ => .bind ih fun _ => ok

end FailsWith

/-- A computation that fails only with what is wrong with a node. -/
abbrev FailsLocally {α : Type} (x : Except ImportError α) : Prop := FailsWith ImportError.Local x

/-! ## Axes -/

namespace Infer

theorem normalizeAxis_local {key : String} {axis : Int} {rank : Nat} : FailsLocally (normalizeAxis key axis rank) :=
  .ite .ok (.error trivial)

theorem normalizeAxesAfter_local {key : String} {rank : Nat} {seen : List Nat} {axes : List Int} :
    FailsLocally (normalizeAxesAfter key rank seen axes) := by
  induction axes generalizing seen with
  | nil => exact .ok
  | cons axis axes ih => exact .bind normalizeAxis_local fun _ => .ite (.error trivial) (.bind ih fun _ => .ok)

theorem normalizeAxes_local {key : String} {axes : List Int} {rank : Nat} :
    FailsLocally (normalizeAxes key axes rank) :=
  normalizeAxesAfter_local

theorem targetDims_local {input : Option (List Dim)} {allowZero : Bool} {index : Nat} {inferred : Bool}
    {target : List Int} : FailsLocally (targetDims input allowZero index inferred target) := by
  induction target generalizing index inferred with
  | nil => exact .ok
  | cons size target ih => exact .ite (.error trivial) (.ite (.error trivial) (.bind ih fun _ => .ok))

theorem reshapeDims_local {input : Option (List Dim)} {target : List Int} {allowZero : Bool} :
    FailsLocally (reshapeDims input target allowZero) := by
  refine .bind targetDims_local fun dims => ?_
  cases target.findIdx? (· == -1) with
  | none => exact .ok
  | some index =>
    dsimp only
    cases leftOver? input dims index with
    | some size => exact .ok
    | none => exact .ok

theorem flattenDims_local {dims : List Dim} {axis : Int} : FailsLocally (flattenDims dims axis) :=
  .bind normalizeAxis_local fun _ => .ok

theorem permutation_local {perm : Option (List Int)} {rank : Nat} : FailsLocally (permutation perm rank) := by
  cases perm with
  | none => exact .ok
  | some perm => exact .ite (.error trivial) normalizeAxes_local

theorem checkUnitAxes_local {dims : List Dim} {axes : List Nat} : FailsLocally (checkUnitAxes dims axes) := by
  induction axes with
  | nil => exact .ok
  | cons axis axes ih =>
    rw [checkUnitAxes]
    cases (dims[axis]?).bind Dim.size? with
    | some size => exact .ite ih (.error trivial)
    | none => exact ih

theorem squeezeDims_local {dims : List Dim} {axes : List Int} : FailsLocally (squeezeDims dims axes) :=
  .bind normalizeAxes_local fun _ => .bind checkUnitAxes_local fun _ => .ok

theorem unsqueezeDims_local {dims : List Dim} {axes : List Int} : FailsLocally (unsqueezeDims dims axes) :=
  .bind normalizeAxes_local fun _ => .ok

theorem padSize_local {axis size : Nat} {before after : Int} : FailsLocally (padSize axis size before after) := by
  unfold padSize
  dsimp only
  split
  · exact .error trivial
  · exact .ite (.error trivial) .ok

theorem padDims_local {dims : List Dim} {pads : List (Nat × Int × Int)} {out : List Dim} :
    FailsLocally (padDims dims pads out) := by
  induction pads generalizing out with
  | nil => exact .ok
  | cons entry pads ih =>
    obtain ⟨axis, before, after⟩ := entry
    rw [padDims]
    cases (dims[axis]?).bind Dim.size? with
    | none => exact ih
    | some size => exact .bind padSize_local fun _ => ih

theorem tileDims_local {dims : List Dim} {repeats : List Int} : FailsLocally (tileDims dims repeats) := by
  fun_induction tileDims dims repeats with
  | case1 _ _ _ _ _ _ ih => exact .bind .ok fun _ => .bind ih fun _ => .ok
  | case2 => exact .error trivial
  | case3 _ _ _ _ _ ih => exact .bind .ok fun _ => .bind ih fun _ => .ok
  | case4 => exact .ok

end Infer

/-! ## Equations -/

namespace Einsum

theorem parseLabels_local {term : List Char} {seen : Bool} {text : List Char} :
    FailsLocally (parseLabels term seen text) := by
  fun_induction parseLabels term seen text with
  | case1 => exact .ok
  | case2 => exact .error trivial
  | case3 _ _ _ ih => exact .bind ih fun _ => .ok
  | case4 _ _ _ _ _ ih => exact .bind ih fun _ => .ok
  | case5 => exact .error trivial

theorem parse_local {text : String} : FailsLocally (parse text) := by
  refine .bind (.mapM (fun _ => parseLabels_local) _) fun inputs => ?_
  cases (splitArrow (squeeze text)).2 with
  | some rhs => exact .bind parseLabels_local fun _ => .ok
  | none => exact .ok

theorem gather_local {operands : List (Term × TensorType)} {axes : Axes} : FailsLocally (gather operands axes) := by
  induction operands generalizing axes with
  | nil => exact .ok
  | cons operand operands ih =>
    obtain ⟨term, type⟩ := operand
    rw [gather]
    cases type.shape with
    | none => exact .ok
    | some dims => exact .ite ih (.error trivial)

theorem outputDims_local {axes : Axes} {term : Term} : FailsLocally (outputDims axes term) := by
  induction term with
  | nil => exact .ok
  | cons label term ih =>
    cases label with
    | ellipsis => exact .bind ih fun _ => .ok
    | letter c =>
      rw [outputDims]
      cases axes.find? c with
      | some dim => exact .bind ih fun _ => .ok
      | none => exact .error trivial

theorem outputType_local {e : Equation} {element : ElementType} {operands : List TensorType} :
    FailsLocally (outputType e element operands) := by
  refine .guard trivial (.bind gather_local fun axes => ?_)
  cases axes with
  | none => exact .ok
  | some axes => exact .bind outputDims_local fun _ => .ok

end Einsum

/-! ## Tensors and attributes -/

theorem resolveElement_local {code : Int} : FailsLocally (resolveElement code) := by
  unfold resolveElement
  split
  · exact .ok
  · exact .error trivial

theorem DeclaredValue.type_local {d : DeclaredValue} : FailsLocally d.type := .bind resolveElement_local fun _ => .ok

theorem Payload.read_local {p : Payload} {name : String} {e : ElementType} {count : Nat} :
    FailsLocally (p.read name e count) := by
  unfold Payload.read
  dsimp only
  split
  · exact .ite (.error trivial) .ok
  · exact .error trivial
  · exact .error trivial
  · exact .ite (.error trivial) .ok
  · refine .ite (.error trivial) ?_
    split
    · exact .ok
    · exact .error trivial

theorem StoredTensor.materialize_local {t : StoredTensor} : FailsLocally t.materialize := by
  refine .bind resolveElement_local fun e => ?_
  cases t.dims.find? (· < 0) with
  | some d => exact .error trivial
  | none =>
    refine .bind Payload.read_local fun values => ?_
    split
    · exact .ok
    · exact .error trivial

namespace AttributeView

theorem value_local {v : AttributeView} {k : AttributeKind} {key : String} : FailsLocally (v.value k key) := by
  unfold value
  split
  · exact .ok
  · split
    · exact .ok
    · exact .error trivial

theorem required_local {v : AttributeView} {k : AttributeKind} {key : String} : FailsLocally (v.required k key).1 := by
  refine .bind value_local fun found => ?_
  cases found with
  | some value => exact .ok
  | none => exact .error trivial

end AttributeView

/-! ## Parameters of operators -/

namespace Operator

open Infer

theorem nonNegative_local {key : String} {values : List Int} : FailsLocally (nonNegative key values) := by
  induction values with
  | nil => exact .ok
  | cons v values ih =>
    rw [nonNegative]
    cases Word.size? v with
    | some n => exact .bind ih fun _ => .ok
    | none => exact .error trivial

theorem concatDims_local {shapes : List (List Dim)} {axis : Int} : FailsLocally (concatDims shapes axis) :=
  .guard trivial (.bind normalizeAxis_local fun _ => .ok)

theorem sliceAll_local {dims : List Dim} {starts ends : List Int} {axes steps : Option (List Int)} :
    FailsLocally (sliceAll dims starts ends axes steps) := by
  refine .guard trivial ?_
  cases axes with
  | some axes => exact .bind normalizeAxes_local fun _ => .guard trivial (.guard trivial .ok)
  | none => exact .ite (.error trivial) (.bind .ok fun _ => .guard trivial (.guard trivial .ok))

theorem padAll_local {dims : List Dim} {pads : List Int} {axes : Option (List Int)} :
    FailsLocally (padAll dims pads axes) := by
  cases axes with
  | some axes => exact .bind normalizeAxes_local fun _ => .guard trivial (.bind padDims_local fun _ => .ok)
  | none => exact .bind .ok fun _ => .guard trivial (.bind padDims_local fun _ => .ok)

theorem reductionPlaces_local {axes : Option (List Int)} {rank : Nat} : FailsLocally (reductionPlaces axes rank) := by
  cases axes with
  | some axes => exact normalizeAxes_local
  | none => exact .ok

theorem topDim_local {k : Option Int} : FailsLocally (topDim k) := by
  cases k with
  | none => exact .ok
  | some k =>
    rw [topDim]
    cases Word.size? k with
    | some n => exact .ok
    | none => exact .error trivial

theorem fillSizes_local {shape : List Int} : FailsLocally (fillSizes shape) := by
  unfold fillSizes
  split
  · exact .ok
  · exact .error trivial

theorem resizedDims_local {dims : List Dim} {sizes : Option (List Int)} {scales : Option (List Double)} :
    FailsLocally (resizedDims dims sizes scales) := by
  cases sizes with
  | some sizes => exact .ite .ok (.error trivial)
  | none =>
    cases scales with
    | some scales => exact .ite .ok (.error trivial)
    | none => exact .ok

end Operator

end ModelImport
