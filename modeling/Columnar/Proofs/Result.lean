import Columnar.Json.Fault
import Mathlib.Data.List.Forall2
import Mathlib.Tactic.Lemma

namespace Columnar

variable {ε γ δ : Type}

lemma bind_eq_ok {x : Except ε γ} {f : γ → Except ε δ} {d : δ} :
    x >>= f = .ok d ↔ ∃ c, x = .ok c ∧ f c = .ok d := by
  cases x with
  | error e => simp [bind, Except.bind]
  | ok c => simp [bind, Except.bind]

lemma bind_eq_error {x : Except ε γ} {f : γ → Except ε δ} {e : ε} :
    x >>= f = .error e ↔ x = .error e ∨ ∃ c, x = .ok c ∧ f c = .error e := by
  cases x with
  | error e => simp [bind, Except.bind]
  | ok c => simp [bind, Except.bind]

lemma map_const_eq_ok {x : Except ε Unit} {c d : γ} :
    (x.map fun () => c) = .ok d ↔ x = .ok () ∧ d = c := by
  cases x with
  | error e => simp [Except.map]
  | ok u => simp [Except.map, eq_comm]

lemma throw_if_eq_ok {p : Prop} [Decidable p] {e : ε} :
    (if p then throw e else pure () : Except ε Unit) = .ok () ↔ ¬p := by
  split
  · simp [throw, throwThe, MonadExceptOf.throw, *]
  · simp [pure, Except.pure, *]

lemma run_ofExcept {σ : Type} (x : Except ε γ) (s : σ) :
    (ofExcept x : EStateM ε σ γ).run s =
      match x with
      | .ok c => .ok c s
      | .error e => .error e s := by
  cases x with
  | ok c => rfl
  | error e => rfl

lemma Json.accept_eq_ok_iff {x : Result γ} {c : γ} : Json.accept x = .ok c ↔ x = .ok c := by
  cases x with
  | ok d => simp [accept, Except.mapError]
  | error e => simp [accept, Except.mapError]

lemma mapM_eq_ok_iff {f : γ → Except ε δ} {cs : List γ} {ds : List δ} :
    cs.mapM f = .ok ds ↔ List.Forall₂ (fun c d => f c = .ok d) cs ds := by
  induction cs generalizing ds with
  | nil => simp [pure, Except.pure, eq_comm]
  | cons c cs ih =>
    rw [List.mapM_cons, bind_eq_ok]
    simp only [bind_eq_ok, ih, List.forall₂_cons_left_iff]
    constructor
    · rintro ⟨d, hd, rest, hrest, hds⟩
      exact ⟨d, rest, hd, hrest, (Except.ok.inj hds).symm⟩
    · rintro ⟨d, rest, hd, hrest, rfl⟩
      exact ⟨d, hd, rest, hrest, rfl⟩

lemma exists_forall₂_iff {R : γ → δ → Prop} {cs : List γ} :
    (∃ ds, List.Forall₂ R cs ds) ↔ ∀ c ∈ cs, ∃ d, R c d := by
  induction cs with
  | nil => simp
  | cons c cs ih =>
    rw [List.forall_mem_cons, ← ih]
    constructor
    · rintro ⟨_, h⟩
      cases h with
      | cons hd hds => exact ⟨⟨_, hd⟩, _, hds⟩
    · rintro ⟨⟨d, hd⟩, ds, hds⟩
      exact ⟨d :: ds, .cons hd hds⟩

lemma exists_mapM_iff {f : γ → Except ε δ} {cs : List γ} :
    (∃ ds, cs.mapM f = .ok ds) ↔ ∀ c ∈ cs, ∃ d, f c = .ok d := by
  simp only [mapM_eq_ok_iff, exists_forall₂_iff]

lemma mapM_congr {f : γ → Except ε δ} {bs cs : List γ}
    (h : List.Forall₂ (fun b c => f b = f c) bs cs) :
    bs.mapM f = cs.mapM f := by
  induction h with
  | nil => rfl
  | cons hhead _ ih => rw [List.mapM_cons, List.mapM_cons, hhead, ih]

end Columnar
