import Mathlib.Algebra.Ring.Nat
import Mathlib.Data.Int.ModEq
import ModelImport.Proofs.AxisOrders
import ModelImport.Proofs.IntegerConstants
/-!
# Axes modulo the rank

Counting an axis from the back adds the rank to it, so an axis and its place are the same number modulo the rank. Within
the rank the place is therefore the remainder of the axis (`fromBack_eq_emod`), and two axes share a place exactly if
they are congruent (`fromBack_eq_iff_modEq`): so an axis counted from the back is found to repeat one counted from the
front.

A machine works this out in signed 64-bit values, in a loop that appends each place to those before it.
`signedPlacesAfter?` is that loop, which gives up where a sum is no such value, and never does.

`axes_normalized_exactly`: axes have places exactly if they are within the rank and no two of them are congruent; each
place is then the one number within the rank that is congruent to its axis, and places are their own places.
-/

namespace ModelImport

namespace Word

theorem toSigned_of_lt {n : Nat} (h : n < 2 ^ 63) : toSigned n = n := toSigned_of_fits (fitsSigned_iff.2 (by omega))

theorem ofSigned_of_lt {i : Int} (h : 0 ≤ i ∧ i < 9223372036854775808) : ofSigned i = i.toNat := by
  rw [ofSigned, count_eq, Int.emod_eq_of_lt h.1 (by omega)]

end Word

namespace Infer

variable {key : String} {rank : Nat} {axes : List Int} {places : List Nat}

/-! ## Places as remainders -/

theorem fromBack_eq_emod {axis : Int} (h : -(rank : Int) ≤ axis ∧ axis < rank) : fromBack rank axis = axis % rank := by
  unfold fromBack
  split
  · rw [← Int.add_emod_right, Int.emod_eq_of_lt (by omega) (by omega)]
  · rw [Int.emod_eq_of_lt (by omega) (by omega)]

theorem fromBack_eq_iff_modEq {a b : Int} (ha : -(rank : Int) ≤ a ∧ a < rank) (hb : -(rank : Int) ≤ b ∧ b < rank) :
    fromBack rank a = fromBack rank b ↔ a ≡ b [ZMOD rank] := by
  rw [fromBack_eq_emod ha, fromBack_eq_emod hb]
  rfl

/-- The place of an axis is the one number within the rank that is congruent to it. -/
theorem isPlace_iff {axis : Int} (h : -(rank : Int) ≤ axis ∧ axis < rank) (n : Nat) :
    (n < rank ∧ (n : Int) ≡ axis [ZMOD rank]) ↔ (n : Int) = fromBack rank axis := by
  have hrange := fromBack_mem_range_iff.2 h
  rw [fromBack_eq_emod h] at hrange ⊢
  constructor
  · rintro ⟨hlt, hcongruent⟩
    rw [← hcongruent.eq, Int.emod_eq_of_lt (by omega) (by omega)]
  · intro heq
    refine ⟨by omega, ?_⟩
    rw [heq]
    exact Int.mod_modEq axis rank

/-- Valid axes are those within the rank of which no two are congruent. -/
theorem validAxes_iff_modEq :
    ValidAxes rank axes ↔
      (∀ axis ∈ axes, -(rank : Int) ≤ axis ∧ axis < rank) ∧ axes.Pairwise fun a b => ¬a ≡ b [ZMOD rank] := by
  have hdistinct (hrange : ∀ axis ∈ axes, -(rank : Int) ≤ axis ∧ axis < rank) :
      (axes.map (fromBack rank)).Nodup ↔ axes.Pairwise fun a b => ¬a ≡ b [ZMOD rank] := by
    rw [List.Nodup, List.pairwise_map]
    apply List.Pairwise.iff_of_mem
    intro a b ha hb
    exact not_congr (fromBack_eq_iff_modEq (hrange a ha) (hrange b hb))
  constructor
  · rintro ⟨hrange, hplaces⟩
    exact ⟨hrange, (hdistinct hrange).1 hplaces⟩
  · rintro ⟨hrange, hpairs⟩
    exact ⟨hrange, (hdistinct hrange).2 hpairs⟩

theorem getElem?_normalizeAxes (h : normalizeAxes key axes rank = .ok places) {i : Nat} {axis : Int}
    (haxis : axes[i]? = some axis) : ∃ place : Nat, places[i]? = some place ∧ (place : Int) = fromBack rank axis := by
  have hentry := congrArg (·[i]?) (normalizeAxes_eq_ok_iff.1 h).1
  simp only [List.getElem?_map, haxis, Option.map_some, Option.map_eq_some_iff] at hentry
  exact hentry

/-- Places, read as signed values, are axes counted from the front. -/
theorem normalizeAxes_toSigned (key : String) (hrank : rank < 2 ^ 63) (h : ValidPlaces rank places) :
    normalizeAxes key (places.map Word.toSigned) rank = .ok places := by
  have hsigned : places.map Word.toSigned = places.map Int.ofNat := by
    apply List.map_congr_left
    intro place hplace
    exact Word.toSigned_of_lt (Nat.lt_trans (h.inRange place hplace) hrank)
  rw [hsigned]
  exact normalizeAxes_places key h

/-! ## The machine's way -/

/-- The place of an axis, worked out in signed 64-bit values; nothing, where a sum is no such value. -/
def signedPlace? (key : String) (axis : Int) (rank : Nat) : Option (Except ImportError Nat) :=
  let rank := Word.toSigned rank
  let place? := if axis < 0 then Word.checkedAdd axis rank else some axis
  place?.map fun place =>
    if place < 0 ∨ rank ≤ place then .error (.invalidAttribute key s!"axis {axis} out of range for rank {rank}")
    else .ok (Word.ofSigned place)

/-- The places of axes in a loop over them, where `out` are the places of those before. -/
def signedPlacesAfter? (key : String) (rank : Nat) (out : List Nat) : List Int → Option (Except ImportError (List Nat))
  | [] => some (.ok out)
  | axis :: rest =>
    match signedPlace? key axis rank with
    | none => none
    | some (.error e) => some (.error e)
    | some (.ok place) =>
      if place ∈ out then some (.error (.invalidAttribute key s!"axis {place} listed twice"))
      else signedPlacesAfter? key rank (out ++ [place]) rest

/-- The places of axes, worked out in signed 64-bit values. -/
def signedPlaces? (key : String) (axes : List Int) (rank : Nat) : Option (Except ImportError (List Nat)) :=
  signedPlacesAfter? key rank [] axes

/-- No sum is given up: what is added to a rank is below zero. -/
theorem signedPlace?_eq {axis : Int} (hrank : rank < 2 ^ 63) (haxis : Word.FitsSigned axis) :
    signedPlace? key axis rank = some (normalizeAxis key axis rank) := by
  rw [Word.fitsSigned_iff] at haxis
  have hplace : (if axis < 0 then Word.checkedAdd axis rank else some axis) = some (fromBack rank axis) := by
    unfold fromBack
    split
    · exact if_pos (Word.fitsSigned_iff.2 (by omega))
    · rfl
  simp only [signedPlace?, Word.toSigned_of_lt hrank, hplace, Option.map_some, normalizeAxis_eq]
  generalize fromBack rank axis = place
  by_cases hout : place < 0 ∨ (rank : Int) ≤ place
  · rw [if_pos hout, if_neg (by omega)]
    rfl
  · rw [if_neg hout, if_pos (by omega), Word.ofSigned_of_lt (by omega)]

/-- The loop goes on as the recursion does, whose `seen` are the places that the loop has appended. -/
theorem signedPlacesAfter?_eq {seen out : List Nat} (hrank : rank < 2 ^ 63)
    (haxes : ∀ axis ∈ axes, Word.FitsSigned axis) (hsame : ∀ place, place ∈ out ↔ place ∈ seen) :
    signedPlacesAfter? key rank out axes = some ((normalizeAxesAfter key rank seen axes).map (out ++ ·)) := by
  induction axes generalizing seen out with
  | nil =>
    have hnil : normalizeAxesAfter key rank seen [] = .ok [] := rfl
    rw [signedPlacesAfter?, hnil, Except.map, List.append_nil]
  | cons axis rest ih =>
    obtain ⟨haxis, hrest⟩ := List.forall_mem_cons.1 haxes
    rw [signedPlacesAfter?, signedPlace?_eq hrank haxis, normalizeAxesAfter]
    cases normalizeAxis key axis rank with
    | error e => rfl
    | ok place =>
      simp only [hsame, bind, Except.bind]
      split
      · rfl
      · next hfresh =>
        have hsame' : ∀ other, other ∈ out ++ [place] ↔ other ∈ place :: seen := by
          intro other
          rw [List.mem_append, List.mem_singleton, List.mem_cons, hsame, or_comm]
        rw [ih hrest hsame']
        cases normalizeAxesAfter key rank (place :: seen) rest with
        | error e => rfl
        | ok others =>
          rw [Except.map, List.append_assoc]
          rfl

theorem signedPlaces?_eq (hrank : rank < 2 ^ 63) (haxes : ∀ axis ∈ axes, Word.FitsSigned axis) :
    signedPlaces? key axes rank = some (normalizeAxes key axes rank) := by
  have hloop : signedPlacesAfter? key rank [] axes = some ((normalizeAxesAfter key rank [] axes).map ([] ++ ·)) :=
    signedPlacesAfter?_eq hrank haxes fun _ => Iff.rfl
  rw [signedPlaces?, hloop, normalizeAxes]
  cases normalizeAxesAfter key rank [] axes with
  | error e => rfl
  | ok places => rfl

end Infer

open Infer

/-- For any rank below `2 ^ 63` and any signed axes: the axes have places exactly if all are within the rank, counted
from either end, and no two are congruent modulo the rank. There are then as many places as axes, each the one number
within the rank that is congruent to its axis; they are distinct, so at most as many as the rank, and are their own
places. It all comes out the same in signed 64-bit values. -/
theorem axes_normalized_exactly (key : String) (rank : Nat) (axes : List Int) (hrank : rank < 2 ^ 63)
    (haxes : ∀ axis ∈ axes, Word.FitsSigned axis) :
    ((∃ places, normalizeAxes key axes rank = .ok places) ↔
      (∀ axis ∈ axes, -(rank : Int) ≤ axis ∧ axis < rank) ∧ axes.Pairwise fun a b => ¬a ≡ b [ZMOD rank]) ∧
    (∀ places, normalizeAxes key axes rank = .ok places →
      places.length = axes.length ∧
      (∀ (i : Nat) (axis : Int), axes[i]? = some axis →
        ∃ place, places[i]? = some place ∧ ∀ n : Nat, (n < rank ∧ (n : Int) ≡ axis [ZMOD rank]) ↔ n = place) ∧
      places.Nodup ∧ places.length ≤ rank ∧
      normalizeAxes key (places.map Word.toSigned) rank = .ok places) ∧
    signedPlaces? key axes rank = some (normalizeAxes key axes rank) := by
  refine ⟨(normalizeAxes_succeeds_iff key).trans validAxes_iff_modEq, ?_, signedPlaces?_eq hrank haxes⟩
  intro places hplaces
  have hinRange := ((normalizeAxes_succeeds_iff key).1 ⟨places, hplaces⟩).inRange
  have hvalid := (normalizeAxes_eq_ok_iff.1 hplaces).2
  refine ⟨length_normalizeAxes hplaces, ?_, hvalid.distinct, ?_, normalizeAxes_toSigned key hrank hvalid⟩
  · intro i axis haxis
    obtain ⟨place, hplace, hfound⟩ := getElem?_normalizeAxes hplaces haxis
    refine ⟨place, hplace, fun n => ?_⟩
    rw [isPlace_iff (hinRange axis (List.mem_of_getElem? haxis)), ← hfound, Int.natCast_inj]
  · simpa using hvalid.subperm_range.length_le

/-- Both ends of the largest rank: the first axis counted from the back, which then may not come from the front too. -/
theorem largest_rank_normalized :
    9223372036854775807 < 2 ^ 63 ∧ (∀ axis ∈ [-9223372036854775807, 9223372036854775806], Word.FitsSigned axis) ∧
      normalizeAxes "axes" [-9223372036854775807, 9223372036854775806] 9223372036854775807 =
        .ok [0, 9223372036854775806] ∧
      (∀ n : Nat, (n < 9223372036854775807 ∧ (n : Int) ≡ -9223372036854775807 [ZMOD (9223372036854775807 : Nat)]) ↔
        n = 0) ∧
      normalizeAxes "axes" ([0, 9223372036854775806].map Word.toSigned) 9223372036854775807 =
        .ok [0, 9223372036854775806] ∧
      signedPlaces? "axes" [-9223372036854775807, 9223372036854775806] 9223372036854775807 =
        some (.ok [0, 9223372036854775806]) ∧
      ¬∃ places, normalizeAxes "axes" [0, -9223372036854775807] 9223372036854775807 = .ok places := by
  have hrank : 9223372036854775807 < 2 ^ 63 := by decide
  have haxes : ∀ axis ∈ [-9223372036854775807, 9223372036854775806], Word.FitsSigned axis := by decide
  have hplaces : normalizeAxes "axes" [-9223372036854775807, 9223372036854775806] 9223372036854775807 =
      .ok [0, 9223372036854775806] := rfl
  obtain ⟨-, hexact, hsigned⟩ := axes_normalized_exactly "axes" _ _ hrank haxes
  obtain ⟨-, hentry, -, -, hagain⟩ := hexact _ hplaces
  obtain ⟨place, hplace, hunique⟩ := hentry 0 _ rfl
  cases hplace
  refine ⟨hrank, haxes, hplaces, hunique, hagain, hsigned.trans (congrArg some hplaces), ?_⟩
  obtain ⟨hsucceeds, -⟩ := axes_normalized_exactly "axes" _ [0, -9223372036854775807] hrank (by decide)
  rw [hsucceeds]
  rintro ⟨-, hpairs⟩
  exact absurd hpairs (by decide)

end ModelImport
