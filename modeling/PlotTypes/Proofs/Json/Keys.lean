/-
  PlotTypes.Proofs.Json.Keys — no object that is read repeats a key.

  The reader puts each member into those read before it, and `put` gives a key that is there
  already its new value in the old place. So keys stay unique in every object, however deep
  (`uniqueKeys_of_read`).
-/

import PlotTypes.Json.Reader
import PlotTypes.Proofs.Pairing

namespace PlotTypes.Json

inductive UniqueKeys : Json → Prop
  | null : UniqueKeys .null
  | bool (b : Bool) : UniqueKeys (.bool b)
  | number (n : Number) : UniqueKeys (.number n)
  | string (s : String) : UniqueKeys (.string s)
  | array (items : List Json) : (∀ v ∈ items, UniqueKeys v) → UniqueKeys (.array items)
  | object (members : Members) : members.keys.Nodup → (∀ e ∈ members, UniqueKeys e.2) → UniqueKeys (.object members)

namespace UniqueKeys

theorem nodup_keys {members : Members} (h : UniqueKeys (.object members)) : members.keys.Nodup := by
  cases h with
  | object _ hkeys _ => exact hkeys

theorem of_mem {members : Members} (h : UniqueKeys (.object members)) : ∀ e ∈ members, UniqueKeys e.2 := by
  cases h with
  | object _ _ hmembers => exact hmembers

theorem of_get? {j v : Json} {key : String} (h : UniqueKeys j) (hv : j.get? key = some v) : UniqueKeys v := by
  obtain ⟨members, hm, hlookup⟩ := Option.bind_eq_some_iff.mp hv
  obtain rfl := members?_eq_some.mp hm
  obtain ⟨before, after, hsplit, -⟩ := List.lookup_eq_some_iff.mp hlookup
  exact h.of_mem (key, v) (by simp [hsplit])

/-- A member more keeps the keys of an object unique. -/
theorem put {members : Members} {v : Json} (h : UniqueKeys (.object members)) (hv : UniqueKeys v) (key : String) :
    UniqueKeys (.object (members.put key v)) := by
  refine .object _ (Members.nodup_keys_put key v members h.nodup_keys) ?_
  replace h := h.of_mem
  induction members with
  | nil => simpa [Members.put] using hv
  | cons e r ih =>
    rw [List.forall_mem_cons] at h
    rw [Members.put]
    split
    · exact List.forall_mem_cons.mpr ⟨hv, h.2⟩
    · exact List.forall_mem_cons.mpr ⟨h.1, ih h.2⟩

end UniqueKeys

/-! ## Reading -/

theorem eq_of_readWord {v w : Json} {ws cs r : List Char} (h : readWord v ws cs = .ok (w, r)) : w = v := by
  induction ws generalizing cs with
  | nil =>
    cases h
    rfl
  | cons c ws ih =>
    cases cs with
    | nil => cases h
    | cons d cs =>
      rw [readWord] at h
      split at h
      · exact ih h
      · cases h

theorem exists_number_of_readNumber {cs r : List Char} {v : Json} (h : readNumber cs = .ok (v, r)) :
    ∃ n, v = .number n := by
  unfold readNumber at h
  split at h
  · cases h
  · split at h
    · cases h
    · cases h
      exact ⟨_, rfl⟩

/-- What the reader returns with some fuel, started on unique keys. -/
structure ReadsUnique (fuel : Nat) : Prop where
  value : ∀ {depth cs v r}, readValue fuel depth cs = .ok (v, r) → v.UniqueKeys
  items : ∀ {depth items cs v r}, (∀ x ∈ items, x.UniqueKeys) → readItems fuel depth items cs = .ok (v, r) → v.UniqueKeys
  members : ∀ {depth members cs v r}, (object members).UniqueKeys → readMembers fuel depth members cs = .ok (v, r) →
    v.UniqueKeys

namespace ReadsUnique

theorem zero : ReadsUnique 0 where
  value h := by
    rw [readValue] at h
    cases h
  items _ h := by
    rw [readItems] at h
    cases h
  members _ h := by
    rw [readMembers] at h
    cases h

variable {fuel depth : Nat} {cs r : List Char} {v : Json}

theorem value_succ (ih : ReadsUnique fuel) (h : readValue (fuel + 1) depth cs = .ok (v, r)) : v.UniqueKeys := by
  rw [readValue] at h
  split at h
  · cases h
  rename_i c rest _
  by_cases hnull : c == 'n'
  · rw [if_pos hnull] at h
    rw [eq_of_readWord h]
    exact .null
  by_cases htrue : c == 't'
  · rw [if_neg hnull, if_pos htrue] at h
    rw [eq_of_readWord h]
    exact .bool true
  by_cases hfalse : c == 'f'
  · rw [if_neg hnull, if_neg htrue, if_pos hfalse] at h
    rw [eq_of_readWord h]
    exact .bool false
  rw [if_neg hnull, if_neg htrue, if_neg hfalse] at h
  split at h
  · obtain ⟨n, rfl⟩ := exists_number_of_readNumber h
    exact .number n
  split at h
  · cases hs : readString .character [] rest with
    | error f =>
      rw [hs] at h
      cases h
    | ok read =>
      rw [hs] at h
      cases h
      exact .string _
  split at h
  · split at h
    · cases h
    · exact ih.items (List.forall_mem_nil _) h
  split at h
  · split at h
    · cases h
    · exact ih.members (.object [] List.nodup_nil (List.forall_mem_nil _)) h
  · cases h

theorem items_succ (ih : ReadsUnique fuel) {items : List Json} (hitems : ∀ x ∈ items, x.UniqueKeys)
    (h : readItems (fuel + 1) depth items cs = .ok (v, r)) : v.UniqueKeys := by
  rw [readItems] at h
  split at h
  · cases h
  · cases h
    exact .array _ fun x hx => hitems x (List.mem_reverse.mp hx)
  · split at h
    · cases h
    · rename_i hv
      exact ih.items (List.forall_mem_cons.mpr ⟨ih.value hv, hitems⟩) h

theorem members_succ (ih : ReadsUnique fuel) {members : Members} (hmembers : (object members).UniqueKeys)
    (h : readMembers (fuel + 1) depth members cs = .ok (v, r)) : v.UniqueKeys := by
  rw [readMembers] at h
  split at h
  · cases h
  · cases h
    exact hmembers
  split at h
  · cases h
  split at h
  · cases h
  split at h
  · cases h
  · rename_i hv
    exact ih.members (hmembers.put (ih.value hv) _) h

end ReadsUnique

theorem readsUnique (fuel : Nat) : ReadsUnique fuel := by
  induction fuel with
  | zero => exact .zero
  | succ fuel ih => exact ⟨ih.value_succ, ih.items_succ, ih.members_succ⟩

/-- No object of a document that is read repeats a key. -/
theorem uniqueKeys_of_read {text : String} {document : Json} (h : Json.read text = .ok document) :
    document.UniqueKeys := by
  unfold Json.read readWithin at h
  obtain ⟨⟨v, r⟩, hv, h⟩ := bind_ok_iff.mp h
  dsimp only at h
  split at h
  · cases h
    exact (readsUnique _).value hv
  · cases h

end PlotTypes.Json
