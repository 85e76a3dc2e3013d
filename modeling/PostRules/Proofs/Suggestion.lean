import PostRules.Rule.Kind
import PostRules.Proofs.EditDistance
import Mathlib.Data.List.MinMax

/-!
# Suggested kinds

A leaf whose type names no kind is reported with a suggestion, `LeafKind.closest`. The main
statement, `closest_suggests_first_nearest`, says what is suggested for every text: the first
kind, in the order of `LeafKind.all`, whose name is at the least edit distance from the text
with its ASCII capitals lowered, provided that twice that distance is at most the longer of the
text's length and the name's; otherwise nothing. So a text that spells a kind's name up to the
case of ASCII letters gets that kind.

The search in the code keeps the first of equally near kinds, which is what `List.argmin` does
(`firstNearest_eq_argmin`), and its distance is the Levenshtein distance
(`Text.editDistance_eq_levenshtein`).
-/

namespace PostRules

namespace LeafKind

/-- The distance from a text, lowered (`Char.toLower` changes only `A` to `Z`), to the name of a
kind: the least number of single-character edits between them. -/
def nameDistance (input : String) (k : LeafKind) : Nat :=
  Text.levenshtein (input.toList.map Char.toLower) k.name.toList

/-- The list of all leaf kinds holds every kind. -/
theorem mem_all (k : LeafKind) : k ∈ all := by
  cases k <;> decide

/-- Distinct leaf kinds have distinct names. -/
theorem name_injective : Function.Injective name := by
  intro k k' h
  cases k <;> cases k' <;> first | rfl | simp [name] at h

/-- Names of kinds are ASCII, so their length in bytes is their length in characters. -/
theorem utf8ByteSize_name (k : LeafKind) : k.name.utf8ByteSize = k.name.length := by
  cases k <;> decide

/-- The search for the nearest kind keeps the first of the least, as `List.argmin` does. -/
theorem firstNearest_eq_argmin (score : LeafKind → Nat) (l : List LeafKind) :
    firstNearest score l = (l.argmin score).map fun k => (k, score k) := by
  induction l with
  | nil => rfl
  | cons k l ih =>
    rw [firstNearest, ih, List.argmin_cons]
    cases l.argmin score with
    | none => rfl
    | some k' => by_cases h : score k' < score k <;> simp [h]

/-- The distance `closest` computes for a kind is the Levenshtein distance of the lowered text
to its name. -/
theorem editDistance_lowered (input : String) (k : LeafKind) :
    Text.editDistance (input.toList.map Char.toLower) k.name.toList = nameDistance input k := by
  rw [Text.editDistance_eq_levenshtein]
  rfl

/-- What `closest` suggests: the first nearest kind, when it is near enough. -/
theorem closest_eq_some_iff (input : String) (k : LeafKind) :
    closest input = some k ↔
      all.argmin (nameDistance input) = some k ∧
        2 * nameDistance input k ≤ max input.length k.name.length := by
  unfold closest
  simp only [editDistance_lowered, firstNearest_eq_argmin, List.length_map, String.length_toList]
  cases hk : all.argmin (nameDistance input) with
  | none => simp
  | some k' =>
    simp only [Option.map_some, utf8ByteSize_name, Option.some.injEq, Nat.mul_comm 2]
    by_cases hnear : nameDistance input k' * 2 ≤ max input.length k'.name.length
    · simp only [hnear, if_true, Option.some.injEq]
      constructor
      · rintro rfl; exact ⟨rfl, hnear⟩
      · rintro ⟨rfl, -⟩; rfl
    · simp only [hnear, if_false, reduceCtorEq, false_iff, not_and]
      rintro rfl
      exact hnear

/-- A text that spells the name of `k` once its ASCII capitals are lowered is at distance zero
from `k` and from no other kind, so `k` is suggested. -/
theorem closest_of_lower_eq_name {input : String} {k : LeafKind}
    (h : input.toList.map Char.toLower = k.name.toList) : closest input = some k := by
  have hzero : nameDistance input k = 0 := by
    rw [nameDistance, h, Text.levenshtein_eq_zero_iff]
  have hfirst : all.argmin (nameDistance input) = some k := by
    rw [List.argmin_eq_some_iff]
    refine ⟨mem_all k, fun k' _ => by omega, fun k' _ hk' => ?_⟩
    have hsame : k' = k := by
      have hdist : nameDistance input k' = 0 := by omega
      rw [nameDistance, h, Text.levenshtein_eq_zero_iff] at hdist
      exact name_injective (String.toList_inj.1 hdist).symm
    rw [hsame]
  exact (closest_eq_some_iff input k).2 ⟨hfirst, by omega⟩

example : closest "keywrod" = some .keyword := by decide

/-- For every text, `closest` suggests exactly the first kind, in the order of `all`, whose name
is at the least edit distance from the lowered text, when twice that distance is at most the
longer of the two lengths; and a kind's own name, in any ASCII case, suggests that kind. -/
theorem closest_suggests_first_nearest (input : String) :
    (∀ k, closest input = some k ↔
      all.argmin (nameDistance input) = some k ∧
        2 * nameDistance input k ≤ max input.length k.name.length) ∧
    ∀ k, input.toList.map Char.toLower = k.name.toList → closest input = some k :=
  ⟨closest_eq_some_iff input, fun _ h => closest_of_lower_eq_name h⟩

end LeafKind

end PostRules
