/-
  PlotTypes.Proofs.Package.Class — when the class of a compound and the module of a node
  are made, and what they hold.

  `typeOf` is the only step that can fail, and only on a leaf. So a class is made exactly
  when all attributes of its compound are `Typed` (`exists_classOf_iff`), and a module when
  those of all its compounds are (`exists_moduleOf_iff`). Callers use `propertyOf_ok`,
  `classOf_ok_iff` and `moduleOf_some_iff`, and need not open the definitions.
-/

import PlotTypes.Package.Class
import PlotTypes.Proofs.Pairing
import PlotTypes.Proofs.Schema.Tree

namespace PlotTypes.Package

open PlotTypes.Python PlotTypes.Schema

/-! ## A step on every element -/

/-- A step succeeds on a list exactly when it succeeds on each element. -/
theorem each_ok_iff {α β : Type} (f : α → Logged β) (l : List α) (bs : List β) :
    (Logged.each f l).result = .ok bs ↔ List.Forall₂ (fun a b => (f a).result = .ok b) l bs := by
  induction l generalizing bs with
  | nil => simp [Logged.each, eq_comm]
  | cons a r ih =>
    rw [List.forall₂_cons_left_iff]
    unfold Logged.each
    cases h : (f a).result with
    | error e => simp
    | ok b =>
      simp only [map_ok_iff, ih]
      constructor
      · rintro ⟨rest, hrest, rfl⟩
        exact ⟨b, rest, rfl, hrest, rfl⟩
      · rintro ⟨b', rest, hb, hrest, rfl⟩
        cases hb
        exact ⟨rest, hrest, rfl⟩

/-- A step that succeeds on a list logs what it logs for each element. -/
theorem events_each {α β : Type} {f : α → Logged β} {l : List α} {bs : List β}
    (h : (Logged.each f l).result = .ok bs) : (Logged.each f l).events = l.flatMap fun a => (f a).events := by
  induction l generalizing bs with
  | nil => rfl
  | cons a r ih =>
    unfold Logged.each at h ⊢
    cases hb : (f a).result with
    | error e =>
      simp only [hb] at h
      cases h
    | ok b =>
      simp only [hb] at h ⊢
      obtain ⟨rest, hrest, -⟩ := map_ok_iff.mp h
      rw [ih hrest, List.flatMap_cons]

/-! ## Properties -/

def Typed (a : Node) : Prop := kindOf a = .simple → (Primitive.ofTag? (a.tag.getD "")).isSome = true

theorem exists_typeOf_iff (s : Settings) (owner a : Node) : (∃ t, typeOf s owner a = .ok t) ↔ Typed a := by
  unfold Typed typeOf valueType?
  cases kindOf a with
  | sequence => simp
  | nested => simp
  | simple =>
    cases h : Primitive.ofTag? (a.tag.getD "") with
    | none => simp
    | some p => simp

theorem propertyOf_ok {s : Settings} {owner a : Node} {p : Property} (h : (propertyOf s owner a).result = .ok p) :
    p.name = a.property ∧ p.kind = kindOf a ∧ ∃ words, typeOf s owner a = .ok (p.typeText, words) := by
  unfold propertyOf at h
  split at h
  · cases h
  · rename_i type summary ht
    cases h
    exact ⟨rfl, rfl, summary, ht⟩

theorem exists_propertyOf_iff (s : Settings) (owner a : Node) :
    (∃ p, (propertyOf s owner a).result = .ok p) ↔ Typed a := by
  rw [← exists_typeOf_iff s owner a]
  unfold propertyOf
  cases typeOf s owner a with
  | error e => simp
  | ok t => simp

/-- The types that name a generated class. -/
theorem typeText_qualified {s : Settings} {owner a : Node} {p : Property}
    (h : (propertyOf s owner a).result = .ok p) :
    (p.kind = .nested → p.typeText = qualified s owner a) ∧
      (p.kind = .sequence → p.typeText = "Tuple[" ++ qualified s owner a ++ ", ...]") := by
  obtain ⟨-, hkind, words, ht⟩ := propertyOf_ok h
  rw [hkind]
  unfold typeOf at ht
  constructor
  · intro hk
    simp only [hk, Except.ok.injEq, Prod.mk.injEq] at ht
    exact ht.1.symm
  · intro hk
    simp only [hk, Except.ok.injEq, Prod.mk.injEq] at ht
    exact ht.1.symm

/-! ## Classes -/

theorem classOf_ok_iff {s : Settings} {n : Node} {c : ClassDecl} :
    (classOf s n).result = .ok c ↔
      ∃ ps, List.Forall₂ (fun a p => (propertyOf s n a).result = .ok p) n.children ps ∧
        c = ⟨n.className, s.classBase, ps, constructorOf s n ps⟩ := by
  show (Logged.each (propertyOf s n) n.children).result.map _ = .ok c ↔ _
  rw [map_ok_iff]
  simp only [each_ok_iff]
  constructor
  · rintro ⟨ps, h, rfl⟩
    exact ⟨ps, h, rfl⟩
  · rintro ⟨ps, h, rfl⟩
    exact ⟨ps, h, rfl⟩

theorem exists_classOf_iff (s : Settings) (n : Node) :
    (∃ c, (classOf s n).result = .ok c) ↔ ∀ a ∈ n.children, Typed a := by
  simp only [← exists_propertyOf_iff s n, ← exists_forall₂_iff, classOf_ok_iff]
  constructor
  · rintro ⟨_, ps, h, -⟩
    exact ⟨ps, h⟩
  · rintro ⟨ps, h⟩
    exact ⟨_, ps, h, rfl⟩

/-! ## Modules -/

theorem moduleOf_some_iff {s : Settings} {n : Node} {m : ModuleDecl} :
    (moduleOf s n).result = .ok (some m) ↔
      n.hasCompoundChildren = true ∧ m.imports = importsOf s n ∧
        List.Forall₂ (fun c d => (classOf s c).result = .ok d) n.compoundChildren m.classes := by
  unfold moduleOf
  split
  · rename_i hc
    show (Logged.each (classOf s) n.compoundChildren).result.map _ = .ok (some m) ↔ _
    simp only [map_ok_iff, each_ok_iff, hc, true_and]
    constructor
    · rintro ⟨classes, h, he⟩
      cases he
      exact ⟨rfl, h⟩
    · rintro ⟨hi, h⟩
      exact ⟨m.classes, h, by rw [← hi]⟩
  · rename_i hc
    simp [hc]

theorem moduleOf_none_iff {s : Settings} {n : Node} :
    (moduleOf s n).result = .ok none ↔ n.hasCompoundChildren = false := by
  unfold moduleOf
  split
  · rename_i hc
    show (Logged.each (classOf s) n.compoundChildren).result.map _ = .ok none ↔ _
    simp [map_ok_iff, hc]
  · rename_i hc
    simp [hc]

def classesOf (made : Option ModuleDecl) : List ClassDecl := (made.map (·.classes)).getD []

/-- A module that is made, or not needed, has one class for each compound child. -/
theorem classesOf_moduleOf {s : Settings} {n : Node} {made : Option ModuleDecl} (h : (moduleOf s n).result = .ok made) :
    List.Forall₂ (fun c d => (classOf s c).result = .ok d) n.compoundChildren (classesOf made) := by
  cases made with
  | none =>
    rw [Node.compoundChildren_eq_nil (moduleOf_none_iff.mp h)]
    exact .nil
  | some m => exact (moduleOf_some_iff.mp h).2.2

theorem exists_moduleOf_iff (s : Settings) (n : Node) :
    (∃ m, (moduleOf s n).result = .ok m) ↔ ∀ c ∈ n.compoundChildren, ∀ a ∈ c.children, Typed a := by
  simp only [← exists_classOf_iff s, ← exists_forall₂_iff]
  constructor
  · rintro ⟨m, h⟩
    exact ⟨_, classesOf_moduleOf h⟩
  · rintro ⟨classes, h⟩
    by_cases hc : n.hasCompoundChildren = true
    · exact ⟨some ⟨importsOf s n, classes⟩, moduleOf_some_iff.mpr ⟨hc, rfl, h⟩⟩
    · exact ⟨none, moduleOf_none_iff.mpr (by simpa using hc)⟩

end PlotTypes.Package
