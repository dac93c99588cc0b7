/-
  PlotTypes.Proofs.Pairing — two lists related element by element, and results that can fail.
-/

import Mathlib.Data.List.Forall2

namespace PlotTypes

variable {α β γ : Type} {R : α → β → Prop}

theorem exists_left_of_mem {l : List α} {m : List β} (h : List.Forall₂ R l m) : ∀ b ∈ m, ∃ a ∈ l, R a b := by
  induction h with
  | nil => nofun
  | cons hab _ ih =>
    intro b hb
    rcases List.mem_cons.mp hb with rfl | hb
    · exact ⟨_, List.mem_cons_self, hab⟩
    · obtain ⟨a, ha, hr⟩ := ih b hb
      exact ⟨a, List.mem_cons_of_mem _ ha, hr⟩

theorem exists_right_of_mem {l : List α} {m : List β} (h : List.Forall₂ R l m) : ∀ a ∈ l, ∃ b ∈ m, R a b :=
  exists_left_of_mem h.flip

/-- A list can be related to some other one exactly when each of its elements can be related. -/
theorem exists_forall₂_iff {l : List α} : (∃ m, List.Forall₂ R l m) ↔ ∀ a ∈ l, ∃ b, R a b := by
  constructor
  · rintro ⟨m, h⟩ a ha
    obtain ⟨b, -, hr⟩ := exists_right_of_mem h a ha
    exact ⟨b, hr⟩
  · intro h
    induction l with
    | nil => exact ⟨[], .nil⟩
    | cons a r ih =>
      obtain ⟨b, hb⟩ := h a List.mem_cons_self
      obtain ⟨m, hm⟩ := ih fun x hx => h x (List.mem_cons_of_mem _ hx)
      exact ⟨b :: m, .cons hb hm⟩

/-- Related elements are related as elements of their list. -/
theorem forall₂_of_mem {l : List α} {m : List β} (h : List.Forall₂ R l m) :
    List.Forall₂ (fun a b => a ∈ l ∧ R a b) l m :=
  (List.forall₂_and_left _ _).mpr ⟨fun _ ha => ha, h⟩

/-- Two lists that differ in one element are related if the two elements are. -/
theorem forall₂_append_cons {R : α → α → Prop} (hrefl : ∀ a, R a a) {before after : List α} {a b : α} (h : R a b) :
    List.Forall₂ R (before ++ a :: after) (before ++ b :: after) :=
  List.rel_append (List.forall₂_same.mpr fun c _ => hrefl c) (.cons h (List.forall₂_same.mpr fun c _ => hrefl c))

/-- What a partial function gives for a list is related to the elements for which it gives something. -/
theorem forall₂_filter_filterMap {p : α → Bool} {g : α → Option β} (hp : ∀ a, (g a).isSome = p a)
    (hR : ∀ a b, g a = some b → R a b) (l : List α) : List.Forall₂ R (l.filter p) (l.filterMap g) := by
  induction l with
  | nil => exact .nil
  | cons a r ih =>
    have ha := hp a
    cases hg : g a with
    | none =>
      rw [hg] at ha
      rw [List.filter_cons_of_neg (by simp [← ha]), List.filterMap_cons_none hg]
      exact ih
    | some b =>
      rw [hg] at ha
      rw [List.filter_cons_of_pos (by simp [← ha]), List.filterMap_cons_some hg]
      exact .cons (hR a b hg) ih

/-- What related elements agree on, related lists agree on. -/
theorem map_eq_map_of_forall₂ {f : α → γ} {g : β → γ} (hfg : ∀ a b, R a b → f a = g b) {l : List α} {m : List β}
    (h : List.Forall₂ R l m) : l.map f = m.map g := by
  induction h with
  | nil => rfl
  | cons hab _ ih => rw [List.map_cons, List.map_cons, hfg _ _ hab, ih]

/-- The same, where places count too. -/
theorem mapIdx_eq_mapIdx_of_forall₂ {f : Nat → α → γ} {g : Nat → β → γ} (hfg : ∀ i a b, R a b → f i a = g i b)
    {l : List α} {m : List β} (h : List.Forall₂ R l m) : l.mapIdx f = m.mapIdx g := by
  induction h generalizing f g with
  | nil => rfl
  | cons hab _ ih =>
    rw [List.mapIdx_cons, List.mapIdx_cons, hfg 0 _ _ hab]
    rw [ih fun i a b => hfg (i + 1) a b]

/-- Paired with one and the same list, too. -/
theorem zipWith_eq_zipWith_of_forall₂ {δ : Type} {f : δ → α → γ} {g : δ → β → γ}
    (hfg : ∀ d a b, R a b → f d a = g d b) (ds : List δ) {l : List α} {m : List β} (h : List.Forall₂ R l m) :
    List.zipWith f ds l = List.zipWith g ds m := by
  induction h generalizing ds with
  | nil => rw [List.zipWith_nil_right, List.zipWith_nil_right]
  | cons hab _ ih =>
    cases ds with
    | nil => rfl
    | cons d ds => rw [List.zipWith_cons_cons, List.zipWith_cons_cons, hfg d _ _ hab, ih]

/-- What related elements give parts of, related lists do. -/
theorem sublist_flatMap_of_forall₂ {f : α → List γ} {g : β → List γ} (hfg : ∀ a b, R a b → (f a).Sublist (g b))
    {l : List α} {m : List β} (h : List.Forall₂ R l m) : (l.flatMap f).Sublist (m.flatMap g) := by
  induction h with
  | nil => exact .slnil
  | cons hab _ ih =>
    rw [List.flatMap_cons, List.flatMap_cons]
    exact (hfg _ _ hab).append ih

theorem forall₂_trans {S : β → γ → Prop} {l : List α} {m : List β} {k : List γ} (h : List.Forall₂ R l m)
    (hs : List.Forall₂ S m k) : List.Forall₂ (fun a c => ∃ b, R a b ∧ S b c) l k := by
  induction h generalizing k with
  | nil =>
    cases hs
    exact .nil
  | cons hab _ ih =>
    cases hs with
    | cons hbc hs => exact .cons ⟨_, hab, hbc⟩ (ih hs)

/-! ## Results -/

theorem map_ok_iff {ε α β : Type} {f : α → β} {x : Except ε α} {b : β} :
    x.map f = .ok b ↔ ∃ a, x = .ok a ∧ f a = b := by
  cases x with
  | error e => simp [Except.map]
  | ok a => simp [Except.map]

theorem map_error_iff {ε α β : Type} {f : α → β} {x : Except ε α} {e : ε} : x.map f = .error e ↔ x = .error e := by
  cases x with
  | error e' => simp [Except.map]
  | ok a => simp [Except.map]

theorem bind_ok_iff {ε α β : Type} {x : Except ε α} {f : α → Except ε β} {b : β} :
    (x >>= f) = .ok b ↔ ∃ a, x = .ok a ∧ f a = .ok b := by
  cases x with
  | error e => simp [bind, Except.bind]
  | ok a => simp [bind, Except.bind]

theorem mapError_error_iff {ε ε' α : Type} {g : ε → ε'} {x : Except ε α} {e : ε'} :
    x.mapError g = .error e ↔ ∃ f, x = .error f ∧ g f = e := by
  cases x with
  | error f => simp [Except.mapError]
  | ok a => simp [Except.mapError]

theorem mapError_ok_iff {ε ε' α : Type} {g : ε → ε'} {x : Except ε α} {a : α} : x.mapError g = .ok a ↔ x = .ok a := by
  cases x with
  | error f => simp [Except.mapError]
  | ok b => simp [Except.mapError]

theorem toOption_eq_some_iff {ε α : Type} {x : Except ε α} {a : α} : x.toOption = some a ↔ x = .ok a := by
  cases x with
  | error e => simp [Except.toOption]
  | ok b => simp [Except.toOption]

end PlotTypes
