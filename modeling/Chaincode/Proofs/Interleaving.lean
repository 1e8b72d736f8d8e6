import Mathlib.Data.List.FinRange
import Mathlib.Logic.Function.Basic

namespace Chaincode

/-! Lists that grow together.

A whole interleaves its parts when both come about together: each item is put
at the end of the whole and at the end of one part.  So nothing of a part is
lost, added or reordered, and the whole has nothing else.
-/

inductive Interleaved {ι α : Type} [DecidableEq ι] : (ι → List α) → List α → Prop where
  | start : Interleaved (fun _ => []) []
  | next {parts : ι → List α} {whole : List α} (index : ι) (item : α)
      (earlier : Interleaved parts whole) :
      Interleaved (Function.update parts index (parts index ++ [item])) (whole ++ [item])

namespace Interleaved

variable {ι α : Type} [DecidableEq ι] {parts : ι → List α} {whole : List α}

theorem append (earlier : Interleaved parts whole) (index : ι) (items : List α) :
    Interleaved (Function.update parts index (parts index ++ items)) (whole ++ items) := by
  induction items generalizing parts whole with
  | nil =>
      rw [List.append_nil, Function.update_eq_self, List.append_nil]
      exact earlier
  | cons item rest ih =>
      have step := ih (earlier.next index item)
      rw [Function.update_idem, Function.update_self, List.append_assoc, List.append_assoc] at step
      exact step

private theorem flatMap_update (indices : List ι) (distinct : indices.Nodup) {index : ι}
    (member : index ∈ indices) (items : List α) :
    (indices.flatMap (Function.update parts index (parts index ++ items))).Perm
      (indices.flatMap parts ++ items) := by
  induction indices with
  | nil => cases member
  | cons first rest ih =>
      obtain ⟨notLater, restDistinct⟩ := List.nodup_cons.mp distinct
      rw [List.flatMap_cons, List.flatMap_cons]
      rcases List.mem_cons.mp member with rfl | later
      · have unchanged :
            rest.flatMap (Function.update parts index (parts index ++ items)) =
              rest.flatMap parts := by
          apply List.flatMap_congr
          intro other present
          have different : other ≠ index := by
            rintro rfl
            exact notLater present
          exact Function.update_of_ne different _ _
        rw [Function.update_self, unchanged, List.append_assoc, List.append_assoc]
        exact List.Perm.append_left _ List.perm_append_comm
      · have different : first ≠ index := by
          rintro rfl
          exact notLater later
        rw [Function.update_of_ne different, List.append_assoc]
        exact List.Perm.append_left _ (ih restDistinct later)

/-- The whole has the items of its parts, each as often as they have it. -/
theorem perm {count : Nat} {parts : Fin count → List α} {whole : List α}
    (interleaved : Interleaved parts whole) :
    whole.Perm ((List.finRange count).flatMap parts) := by
  induction interleaved with
  | start => simp
  | next index item earlier ih =>
      refine (ih.append_right [item]).trans ?_
      exact (flatMap_update _ (List.nodup_finRange count) (List.mem_finRange index) [item]).symm

end Interleaved

end Chaincode
