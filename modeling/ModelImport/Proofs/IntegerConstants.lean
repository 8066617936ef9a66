import Mathlib.Algebra.Ring.Int.Defs
import Mathlib.Data.List.Forall2
import ModelImport.Proofs.ConverterRuns
import ModelImport.Proofs.SliceWalk
/-!
# Integer constants

Sizes, axes, bounds and fill values that are given as constants are read as signed 64-bit values, whatever the element
type of the constant. An element stands for a number (`ElementType.number`), and the numbers of every integer and
boolean type but one fit such a value. The exception is an unsigned 64-bit element from `2 ^ 63` on, which is read as
the number less `2 ^ 64` and so as a negative one (`elementInt_eq`).

`integers_read_true_iff`: reading a constant gives one integer for each element, and it is the true one exactly if it
fits. All the ways in which converters take numbers from constants go through this reading.
-/

namespace ModelImport

open LookM ConverterM Operator

/-! ## Numbers of elements -/

namespace ElementType

/-- The number that an integer or boolean element stands for. -/
def number : (e : ElementType) → e.Carrier → Int
  | i8, v => v.toInt
  | i16, v => v.toInt
  | i32, v => v.toInt
  | i64, v => v.toInt
  | u8, v => v.toNat
  | u16, v => v.toNat
  | u32, v => v.toNat
  | u64, v => v.toNat
  | bool, v => v.toNat
  | f16, _ | bf16, _ | f32, _ | f64, _ => 0

def isUnsigned : ElementType → Bool
  | u8 | u16 | u32 | u64 => true
  | _ => false

theorem number_nonneg {e : ElementType} (h : e.isUnsigned) (v : e.Carrier) : 0 ≤ e.number v := by
  cases e with
  | u8 | u16 | u32 | u64 => exact Int.natCast_nonneg _
  | _ => cases h

/-- Every number fits a signed 64-bit value, unless the element is an unsigned one of 64 bits. -/
theorem fitsSigned_number {e : ElementType} (h : e ≠ .u64) (v : e.Carrier) : Word.FitsSigned (e.number v) := by
  rw [Word.fitsSigned_iff]
  cases e with
  | f16 | bf16 | f32 | f64 => simp [number]
  | i8 =>
    have hlow := Int8.le_toInt v
    have hhigh := Int8.toInt_lt v
    simp only [number]
    omega
  | i16 =>
    have hlow := Int16.le_toInt v
    have hhigh := Int16.toInt_lt v
    simp only [number]
    omega
  | i32 =>
    have hlow := Int32.le_toInt v
    have hhigh := Int32.toInt_lt v
    simp only [number]
    omega
  | i64 => exact ⟨Int64.le_toInt v, Int64.toInt_lt v⟩
  | u8 =>
    have hhigh := UInt8.toNat_lt v
    simp only [number]
    omega
  | u16 =>
    have hhigh := UInt16.toNat_lt v
    simp only [number]
    omega
  | u32 =>
    have hhigh := UInt32.toNat_lt v
    simp only [number]
    omega
  | u64 => exact absurd rfl h
  | bool => cases v <;> decide

theorem number_lt_count {e : ElementType} (v : e.Carrier) : e.number v < Word.count := by
  by_cases hu64 : e = .u64
  · subst hu64
    exact Int.ofNat_lt.2 v.toNat_lt
  · have hfits := Word.fitsSigned_iff.1 (fitsSigned_number hu64 v)
    have hcount : (9223372036854775808 : Int) < Word.count := by decide
    omega

end ElementType

/-! ## Reading -/

namespace Word

theorem count_eq : count = 18446744073709551616 := rfl

theorem toSigned_of_fits {n : Nat} (h : FitsSigned n) : toSigned n = n := by
  rw [fitsSigned_iff] at h
  rw [toSigned, count_eq]
  exact Int.bmod_eq_of_le (by omega) (by omega)

theorem toSigned_of_not_fits {n : Nat} (hn : n < count) (h : ¬FitsSigned n) : toSigned n = n - count := by
  rw [fitsSigned_iff] at h
  rw [count_eq] at hn
  have hlow : -((18446744073709551616 : Nat) / 2 : Int) ≤ n - (18446744073709551616 : Nat) := by omega
  rw [toSigned, count_eq, ← Int.sub_bmod_right]
  exact Int.bmod_eq_of_le hlow (by omega)

end Word

namespace TensorData

/-- An element is read as its number if that fits a signed 64-bit value, and else as the number less `2 ^ 64`. -/
theorem elementInt_eq {e : ElementType} (v : e.Carrier) :
    elementInt e v = if Word.FitsSigned (e.number v) then e.number v else e.number v - Word.count := by
  by_cases hu64 : e = .u64
  · subst hu64
    split
    · next hfits => exact Word.toSigned_of_fits hfits
    · next hfits => exact Word.toSigned_of_not_fits v.toNat_lt hfits
  · rw [if_pos (ElementType.fitsSigned_number hu64 v)]
    cases e with
    | u64 => exact absurd rfl hu64
    | bool => cases v <;> rfl
    | _ => rfl

theorem elementInt_eq_number_iff {e : ElementType} (v : e.Carrier) :
    elementInt e v = e.number v ↔ Word.FitsSigned (e.number v) := by
  rw [elementInt_eq]
  split
  · next hfits => simp [hfits]
  · next hfits =>
    have hcount : (0 : Int) < Word.count := by decide
    simp only [hfits, iff_false]
    omega

theorem elementInt_of_not_fits {e : ElementType} {v : e.Carrier} (h : ¬Word.FitsSigned (e.number v)) :
    e = .u64 ∧ elementInt e v = e.number v - Word.count := by
  refine ⟨?_, by rw [elementInt_eq, if_neg h]⟩
  by_contra hu64
  exact h (ElementType.fitsSigned_number hu64 v)

/-- An unsigned element is read as a negative integer exactly if its number is too large. -/
theorem elementInt_neg_iff {e : ElementType} (h : e.isUnsigned) (v : e.Carrier) :
    elementInt e v < 0 ↔ (2 ^ 63 : Int) ≤ e.number v := by
  have hlow := ElementType.number_nonneg h v
  have hhigh := ElementType.number_lt_count v
  rw [elementInt_eq]
  split
  · next hfits =>
    rw [Word.fitsSigned_iff] at hfits
    omega
  · next hfits =>
    rw [Word.fitsSigned_iff] at hfits
    omega

theorem ints?_eq {t : TensorData} (h : t.element.isFloat = false) :
    t.ints? = some (t.tensor.values.map (elementInt t.element)) := by
  simp [ints?, h]

theorem doubles_eq {t : TensorData} (h : t.element.isFloat = false) :
    t.doubles = (t.tensor.values.map (elementInt t.element)).map Double.ofInt := by
  obtain ⟨element, tensor⟩ := t
  rw [doubles, List.map_map]
  cases element with
  | f16 | bf16 | f32 | f64 => cases h
  | _ => rfl

/-- A list of integers that fit comes back from the constant that holds it. -/
theorem ints?_vectorInts {is : List Int} (h : ∀ i ∈ is, Word.FitsSigned i) : (vectorInts is).ints? = some is := by
  have hvalues : (vectorInts is).ints? = some ((is.map Int64.ofInt).map Int64.toInt) := rfl
  have hread : ∀ i ∈ is, (Int64.ofInt i).toInt = i := by
    intro i hi
    obtain ⟨hlow, hhigh⟩ := Word.fitsSigned_iff.1 (h i hi)
    exact Int64.toInt_ofInt_of_le hlow hhigh
  rw [hvalues, List.map_map]
  exact congrArg some ((List.map_congr_left hread).trans (List.map_id is))

end TensorData

/-- The input is a constant with the given data. -/
def Site.Holds (site : Site) (index : Nat) (t : TensorData) : Prop :=
  ∃ v, site.operands[index]? = some (some v) ∧ site.function.constant? v = some t

theorem Site.Holds.supplies {site : Site} {index : Nat} {t : TensorData} (h : site.Holds index t) {list : List Int}
    (hlist : t.ints? = some list) : site.Supplies index (some list) := by
  obtain ⟨v, hv, hdata⟩ := h
  exact ⟨v, t, hv, hdata, hlist⟩

/-- Constants are read as integers unless their elements are floating-point ones. There is one integer for each
element, in order, and it is the number of the element exactly if that fits a signed 64-bit value; only an unsigned
64-bit element may not, and it is read as its number less `2 ^ 64`. Converters see these integers wherever they take
sizes, axes or bounds from an input, they see them as doubles wherever they take doubles, and the first of them is the
fill value. Among them is a negative one, for a constant of unsigned elements, exactly if the number of some element is
`2 ^ 63` or more. -/
theorem integers_read_true_iff (t : TensorData) :
    (t.ints? = none ↔ t.element.isFloat = true) ∧ ∀ list, t.ints? = some list →
      List.Forall₂ (fun v read => (read = t.element.number v ↔ Word.FitsSigned (t.element.number v)) ∧
        (¬Word.FitsSigned (t.element.number v) → t.element = .u64 ∧ read = t.element.number v - Word.count))
        t.tensor.values list ∧
      (∀ (site : Site) (index : Nat), site.Holds index t → Runs site (constantInts? index) (some list)) ∧
      t.doubles = list.map Double.ofInt ∧ fillParam t = .int (list.headD 0) ∧
      (t.element.isUnsigned = true →
        ((∃ read ∈ list, read < 0) ↔ ∃ v ∈ t.tensor.values, (2 ^ 63 : Int) ≤ t.element.number v)) := by
  constructor
  · unfold TensorData.ints?
    cases t.element.isFloat <;> simp
  · intro list hlist
    have hfloat : t.element.isFloat = false := by
      cases hfloat : t.element.isFloat with
      | false => rfl
      | true => simp [TensorData.ints?, hfloat] at hlist
    obtain rfl : t.tensor.values.map (TensorData.elementInt t.element) = list :=
      Option.some.inj ((TensorData.ints?_eq hfloat).symm.trans hlist)
    refine ⟨?_, fun site index hholds => .constantInts? (hholds.supplies hlist), TensorData.doubles_eq hfloat, ?_, ?_⟩
    · rw [List.forall₂_map_right_iff, List.forall₂_same]
      intro v _
      exact ⟨TensorData.elementInt_eq_number_iff v, TensorData.elementInt_of_not_fits⟩
    · rw [fillParam, hlist]
    · intro hunsigned
      constructor
      · rintro ⟨read, hread, hnegative⟩
        obtain ⟨v, hv, rfl⟩ := List.mem_map.1 hread
        exact ⟨v, hv, (TensorData.elementInt_neg_iff hunsigned v).1 hnegative⟩
      · rintro ⟨v, hv, hlarge⟩
        exact ⟨_, List.mem_map_of_mem hv, (TensorData.elementInt_neg_iff hunsigned v).2 hlarge⟩

/-- A node over a value of the given type and a constant. -/
def constantSite (opType : String) (type : TensorType) (data : TensorData) (attributes : AttributeBag) : Site where
  node := { name := "sample", opType, domain := "", inputs := ["x", "c"], outputs := ["y"], attributes }
  operands := [some ⟨0⟩, some ⟨1⟩]
  function := (((Builder.new "main").createPlaceholder "x" type).2.createConstant "c" data).2.function
  opset := 13

/-- Of two neighbours at the middle of the unsigned 64-bit numbers the smaller one is read as it is. -/
theorem neighbours_read_apart :
    let t : TensorData := ⟨.u64, .vector [9223372036854775807, 9223372036854775808]⟩
    let list : List Int := [9223372036854775807, -9223372036854775808]
    let site := constantSite "Reshape" (.ranked .f32 []) t []
    t.ints? = some list ∧ site.Holds 1 t ∧ Runs site (constantInts? 1) (some list) ∧
      t.doubles = list.map Double.ofInt ∧ fillParam t = .int 9223372036854775807 ∧ ∃ read ∈ list, read < 0 := by
  intro t list site
  have hlist : t.ints? = some list := by decide +kernel
  have hholds : site.Holds 1 t := ⟨⟨1⟩, rfl, rfl⟩
  obtain ⟨-, hread, hdoubles, hfill, hnegative⟩ := (integers_read_true_iff t).2 list hlist
  refine ⟨hlist, hholds, hread site 1 hholds, hdoubles, hfill, (hnegative rfl).2 ?_⟩
  refine ⟨9223372036854775808, ?_, Int.le_refl _⟩
  exact List.mem_cons_of_mem _ List.mem_cons_self

/-- The largest unsigned 64-bit number is read as -1, so a value reshaped to that size gets whatever size is left. -/
theorem largest_read_as_open_size :
    let t : TensorData := ⟨.u64, .vector [18446744073709551615]⟩
    let site := constantSite "Reshape" (.ranked .f32 [.static 2, .static 3]) t []
    t.tensor.values.map (ElementType.number .u64) = [18446744073709551615] ∧ t.ints? = some [-1] ∧
      (Converter.of reshape).Emits site
        (site.instruction [("allowzero", .int 0), ("shape", .ints [-1])] [.ranked .f32 [.static 6]]) := by
  intro t site
  have hread : t.ints? = some [-1] := by decide +kernel
  have hshape : site.Supplies 1 (some [-1]) := Site.Holds.supplies ⟨⟨1⟩, rfl, rfl⟩ hread
  have hlist : Runs site (requiredInts "shape" 5) (some [-1]) :=
    .requiredInts rfl ⟨fun hold => absurd hold (by decide), fun _ => hshape⟩
  refine ⟨by decide +kernel, hread, Lowers.converter ?_⟩
  refine .bind (.checkOutputs_exact rfl) (.bind (.flag (Site.stores_none .int rfl)) (.bind hlist ?_))
  exact .bind (.inputType ⟨⟨0⟩, rfl, rfl⟩) (.bind (.lift rfl) .emit)

end ModelImport
