import LineShell.Proofs.Text.Decoding
import Mathlib.Data.List.Nodup
/-!
# Ordering — names in their order

Names are ordered byte by byte (`Bytes.precedes`), which is a linear order.  What has been put in the order of its names
holds the same things as before, none of them before an earlier one; and where no two have the same name there is only
one such order, whatever order they came in (`eq_of_perm`).
-/
namespace LineShell
namespace Bytes

theorem precedes_cons_iff {a b : UInt8} {as bs : Bytes} :
    precedes (a :: as) (b :: bs) = true ↔ a < b ∨ a = b ∧ precedes as bs = true := by
  rw [precedes]
  by_cases hlt : a < b
  · simp [hlt]
  · by_cases hgt : b < a
    · have hne : a ≠ b := fun h => hlt (h ▸ hgt)
      simp [hlt, hgt, hne]
    · have heq : a = b := UInt8.le_antisymm (UInt8.not_lt.1 hgt) (UInt8.not_lt.1 hlt)
      simp [heq]

theorem precedes_total : ∀ a b : Bytes, (precedes a b || precedes b a) = true
  | [], _ => rfl
  | _ :: _, [] => rfl
  | a :: as, b :: bs => by
    rw [Bool.or_eq_true, precedes_cons_iff, precedes_cons_iff]
    have htail : precedes as bs = true ∨ precedes bs as = true := Bool.or_eq_true _ _ ▸ precedes_total as bs
    by_cases heq : a = b
    · exact htail.imp (fun h => .inr ⟨heq, h⟩) (fun h => .inr ⟨heq.symm, h⟩)
    · exact (UInt8.lt_or_lt_of_ne heq).imp .inl .inl

theorem precedes_trans : ∀ {a b c : Bytes}, precedes a b = true → precedes b c = true → precedes a c = true
  | [], _, _, _, _ => rfl
  | _ :: _, [], _, h, _ => nomatch h
  | _ :: _, _ :: _, [], _, h => nomatch h
  | a :: as, b :: bs, c :: cs, hab, hbc => by
    rw [precedes_cons_iff] at *
    rcases hab with hab | ⟨rfl, hab⟩
    · rcases hbc with hbc | ⟨rfl, -⟩
      · exact .inl (UInt8.lt_trans hab hbc)
      · exact .inl hab
    · exact hbc.imp_right fun ⟨heq, hbc⟩ => ⟨heq, precedes_trans hab hbc⟩

theorem precedes_antisymm : ∀ {a b : Bytes}, precedes a b = true → precedes b a = true → a = b
  | [], [], _, _ => rfl
  | [], _ :: _, _, h => nomatch h
  | _ :: _, [], h, _ => nomatch h
  | a :: as, b :: bs, hab, hba => by
    rw [precedes_cons_iff] at *
    rcases hab with hab | ⟨rfl, hab⟩
    · rcases hba with hba | ⟨rfl, -⟩
      · exact absurd hba (UInt8.lt_asymm hab)
      · exact absurd hab (UInt8.lt_irrefl _)
    · rcases hba with hba | ⟨-, hba⟩
      · exact absurd hba (UInt8.lt_irrefl _)
      · rw [precedes_antisymm hab hba]

section

variable {α : Type} (name : α → Bytes)

/-- **Each name is followed by none that comes before it.** -/
def InOrder (xs : List α) : Prop := xs.Pairwise fun x y => precedes (name x) (name y) = true

theorem inOrder_mergeSort (xs : List α) : InOrder name (xs.mergeSort fun x y => precedes (name x) (name y)) := by
  have htrans (x y z : α) : precedes (name x) (name y) = true → precedes (name y) (name z) = true →
      precedes (name x) (name z) = true := precedes_trans
  exact List.pairwise_mergeSort htrans (fun x y => precedes_total (name x) (name y)) xs

variable {name}

/-- **Where no two have the same name there is only one order.** -/
theorem InOrder.eq_of_perm {xs ys : List α} (hxs : InOrder name xs) (hys : InOrder name ys) (h : xs.Perm ys)
    (hnames : (xs.map name).Nodup) : xs = ys := by
  refine List.Perm.eq_of_pairwise ?_ hxs hys h
  intro x y hx hy hxy hyx
  exact List.inj_on_of_nodup_map hnames hx (h.mem_iff.2 hy) (precedes_antisymm hxy hyx)

end

end Bytes
end LineShell
