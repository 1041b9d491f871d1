import Columnar.Kernel.Reduction
import Mathlib.Algebra.Group.Nat.Defs
import Mathlib.Tactic.Lemma

/-! A compensated sum keeps the plain sums on the way, and beside them what the additions lose. -/

namespace Columnar.Reduction

variable {α : Type} [Floating α]

/-- What is lost where `a` is added to `s`, counted from the greater of the two. -/
def lostBy (s a : α) : α :=
  if Ordered.atLeast (Floating.abs s) (Floating.abs a) then (s - (s + a)) + a else (a - (s + a)) + s

def lossesFrom (s : α) (as : List α) : List α :=
  let additions := ((as.scanl (· + ·) s).zip as).filter fun (s, a) => Floating.isFinite (s + a)
  additions.map fun (s, a) => lostBy s a

def losses (as : List α) : List α := lossesFrom Floating.zero as

def running (as : List α) : Compensated α := as.foldl Compensated.add ⟨Floating.zero, Floating.zero⟩

lemma lossesFrom_cons (s a : α) (as : List α) : lossesFrom s (a :: as) =
    if Floating.isFinite (s + a) then lostBy s a :: lossesFrom (s + a) as
    else lossesFrom (s + a) as := by
  simp only [lossesFrom, List.scanl_cons, List.zip_cons_cons, List.filter_cons]
  split
  · rfl
  · rfl

lemma Compensated.add_eq (c : Compensated α) (a : α) :
    c.add a =
      ⟨c.sum + a, if Floating.isFinite (c.sum + a) then c.lost + lostBy c.sum a else c.lost⟩ := by
  simp only [Compensated.add, lostBy]
  split
  · split
    · rfl
    · rfl
  · rfl

lemma Compensated.foldl_add (c : Compensated α) (as : List α) : as.foldl Compensated.add c =
    ⟨as.foldl (· + ·) c.sum, (lossesFrom c.sum as).foldl (· + ·) c.lost⟩ := by
  induction as generalizing c with
  | nil => rfl
  | cons a as ih =>
    rw [List.foldl_cons, ih, Compensated.add_eq, lossesFrom_cons]
    split
    · rfl
    · rfl

lemma running_eq (as : List α) : running as = ⟨sumWith .naive as, sumWith .naive (losses as)⟩ :=
  Compensated.foldl_add _ as

theorem compensated_falls_back (as : List α) :
    (∀ k, running (as.take k) = ⟨sumWith .naive (as.take k), sumWith .naive (losses (as.take k))⟩) ∧
    (¬Floating.isFinite (sumWith .naive as) → sumWith .compensated as = sumWith .naive as) ∧
    (Floating.isFinite (sumWith .naive as) →
      sumWith .compensated as = sumWith .naive as + sumWith .naive (losses as)) := by
  have hresult : sumWith .compensated as =
      if Floating.isFinite (running as).sum then (running as).sum + (running as).lost
      else (running as).sum := rfl
  rw [running_eq] at hresult
  refine ⟨fun k => running_eq _, ?_, ?_⟩
  · intro hinfinite
    rw [hresult, if_neg hinfinite]
  · intro hfinite
    rw [hresult, if_pos hfinite]

theorem compensated_falls_back_infinity :
    let zero : Float := Floating.zero
    let one : Float := Floating.scaled 1 0
    let great : Float := Floating.scaled (10 ^ 100) 0
    let as := [one, great, one, -great]
    let bs := [one, Floating.infinity, great, one]
    Floating.isFinite (sumWith .naive as) ∧ sumWith .naive as = zero ∧
      losses as = [zero, one, one, zero] ∧
      sumWith .compensated as = one + one ∧
      ¬Floating.isFinite (sumWith .naive bs) ∧ sumWith .compensated bs = Floating.infinity := by
  intro zero one great as bs
  obtain ⟨-, -, hfinite⟩ := compensated_falls_back as
  obtain ⟨-, hinfinite, -⟩ := compensated_falls_back bs
  have has : Floating.isFinite (sumWith .naive as) := by decide +kernel
  have hbs : ¬Floating.isFinite (sumWith .naive bs) := by decide +kernel
  have hsum : sumWith .naive as = zero := by decide +kernel
  have hlosses : losses as = [zero, one, one, zero] := by decide +kernel
  refine ⟨has, hsum, hlosses, ?_, hbs, (hinfinite hbs).trans (by decide +kernel)⟩
  rw [hfinite has, hsum, hlosses]
  decide +kernel

end Columnar.Reduction
