import Mathlib.Data.List.Forall2
import Outline.Log

set_option autoImplicit false

/-!
# When outcomes are results

A sequence of steps gives a result if each of its steps does.
-/
namespace Outline

namespace Outcome

variable {α β : Type}

theorem result_bind_eq_ok_iff {x : Outcome α} {f : α → Outcome β} {b : β} :
    (x >>= f).result = .ok b ↔ ∃ a, x.result = .ok a ∧ (f a).result = .ok b := by
  rw [result_bind]
  cases x.result with
  | error e => simp [Except.bind]
  | ok a => simp [Except.bind]

theorem result_forEach_eq_ok_iff {f : α → Outcome β} {items : List α} {results : List β} :
    (forEach f items).result = .ok results ↔
      List.Forall₂ (fun a b => (f a).result = .ok b) items results := by
  induction items generalizing results with
  | nil =>
    rw [List.forall₂_nil_left_iff]
    change Except.ok [] = Except.ok results ↔ _
    rw [Except.ok.injEq, eq_comm]
  | cons a items ih =>
    simp only [forEach, result_bind_eq_ok_iff, result_pure, ih]
    constructor
    · rintro ⟨b, hb, rest, hrest, heq⟩
      cases heq
      exact .cons hb hrest
    · intro h
      cases h with
      | cons hb hrest => exact ⟨_, hb, _, hrest, rfl⟩

theorem bind_congr {x : Outcome α} {f g : α → Outcome β} (h : ∀ a, x.result = .ok a → f a = g a) :
    x >>= f = x >>= g := by
  change andThen x f = andThen x g
  unfold andThen
  cases hx : x.result with
  | error e => rfl
  | ok a => simp only [h a hx]

theorem forEach_congr {f g : α → Outcome β} {items : List α} (h : ∀ a ∈ items, f a = g a) :
    forEach f items = forEach g items := by
  induction items with
  | nil => rfl
  | cons a items ih =>
    rw [List.forall_mem_cons] at h
    rw [forEach, forEach, h.1, ih h.2]

/-- A computation fails for the first of some items that has a property, and gives a result if no
item has it. -/
def FailsAtFirst (bad : α → Bool) (failure : α → Failure) (items : List α) (x : Outcome β) : Prop :=
  match items.find? bad with
  | some a => x.result = .error (failure a)
  | none => ∃ b, x.result = .ok b

section FailsAtFirst

variable {γ : Type} {bad : α → Bool} {failure : α → Failure}

theorem FailsAtFirst.result_eq {items : List α} {x : Outcome β} {a : α}
    (h : FailsAtFirst bad failure items x) (ha : items.find? bad = some a) :
    x.result = .error (failure a) := by
  rwa [FailsAtFirst, ha] at h

theorem FailsAtFirst.bind {items more : List α} {x : Outcome β} {f : β → Outcome γ}
    (hx : FailsAtFirst bad failure items x)
    (hf : ∀ b, x.result = .ok b → FailsAtFirst bad failure more (f b)) :
    FailsAtFirst bad failure (items ++ more) (x >>= f) := by
  unfold FailsAtFirst at hx hf ⊢
  rw [List.find?_append]
  cases hitems : items.find? bad with
  | some a =>
    rw [hitems] at hx
    rw [Option.some_or, result_bind, hx]
    rfl
  | none =>
    rw [hitems] at hx
    obtain ⟨b, hb⟩ := hx
    rw [Option.none_or, result_bind, hb]
    exact hf b hb

theorem FailsAtFirst.bind_ok {items : List α} {x : Outcome β} {f : β → Outcome γ}
    (hx : FailsAtFirst bad failure items x) (hf : ∀ b, ∃ c, (f b).result = .ok c) :
    FailsAtFirst bad failure items (x >>= f) := by
  rw [← List.append_nil items]
  exact hx.bind fun b _ => hf b

theorem failsAtFirst_ok_bind {items : List α} {x : Outcome β} {f : β → Outcome γ} {b : β}
    (hx : x.result = .ok b) (hf : FailsAtFirst bad failure items (f b)) :
    FailsAtFirst bad failure items (x >>= f) := by
  have hnone : FailsAtFirst bad failure [] x := ⟨b, hx⟩
  refine hnone.bind fun b' hb' => ?_
  rw [hx, Except.ok.injEq] at hb'
  exact hb' ▸ hf

theorem failsAtFirst_forEach {f : α → Outcome β} {items : List α}
    (h : ∀ a ∈ items, FailsAtFirst bad failure [a] (f a)) :
    FailsAtFirst bad failure items (forEach f items) := by
  induction items with
  | nil => exact ⟨[], rfl⟩
  | cons a items ih =>
    rw [List.forall_mem_cons] at h
    exact h.1.bind fun b _ => (ih h.2).bind_ok fun bs => ⟨b :: bs, rfl⟩

end FailsAtFirst

end Outcome

theorem Except.mapError_eq_ok_iff {α ε δ : Type} {x : Except ε α} {f : ε → δ} {a : α} :
    x.mapError f = .ok a ↔ x = .ok a := by
  cases x <;> simp [Except.mapError]

theorem Except.exists_eq_ok {α ε : Type} {x : Except ε α} (h : x.isOk) : ∃ a, x = .ok a := by
  cases x with
  | error e => cases h
  | ok a => exact ⟨a, rfl⟩

theorem Except.eq_ok_of_toOption {α ε : Type} {x : Except ε α} {a : α}
    (h : x.toOption = some a) : x = .ok a := by
  cases x with
  | error e => cases h
  | ok b => exact congrArg Except.ok (Option.some_inj.1 h)

end Outline
