/-
  PlotTypes.Proofs.Files — what the operations on a file system change.

  Making directories only adds directories where nothing was, whether it succeeds or stops
  on the way (`makesDirectories_makeDirectories`). Writing a file changes the one place that
  its path names (`writes_of_writeText`). Neither takes a directory away, so a path that
  names a place names the same place afterwards (`KeepsDirectories.locate`).
-/

import PlotTypes.Files
import PlotTypes.Proofs.Pairing

namespace PlotTypes.Files

theorem get?_put (fs : Files) (p q : Place) (e : Entry) :
    (fs.put p e).get? q = if q.isPrefixOf fs.current then some .directory else if q = p then some e else fs.get? q := by
  unfold get? put
  by_cases hq : q.isPrefixOf fs.current = true
  · simp [hq]
  simp only [hq, if_false, Bool.false_eq_true]
  by_cases hp : q = p
  · subst hp
    simp
  · have hne : (q == p) = false := by simpa using hp
    rw [List.lookup_cons, hne, if_neg hp]
    show List.lookup q (fs.entries.filter _) = _
    induction fs.entries with
    | nil => rfl
    | cons entry r ih =>
      obtain ⟨k, v⟩ := entry
      by_cases hk : k = p
      · subst hk
        rw [List.filter_cons_of_neg (by simp), List.lookup_cons, hne]
        exact ih
      · rw [List.filter_cons_of_pos (by simpa using hk), List.lookup_cons, List.lookup_cons, ih]

/-- A place that is no directory is not on the way to the working directory. -/
theorem not_isPrefixOf_current {fs : Files} {p : Place} (h : fs.get? p ≠ some .directory) :
    p.isPrefixOf fs.current = false := by
  cases hp : p.isPrefixOf fs.current with
  | false => rfl
  | true => exact absurd (by simp [get?, hp]) h

theorem get?_put_self {fs : Files} {p : Place} (h : fs.get? p ≠ some .directory) (e : Entry) :
    (fs.put p e).get? p = some e := by
  rw [get?_put, not_isPrefixOf_current h]
  simp

theorem get?_put_of_ne {fs : Files} {p q : Place} (h : q ≠ p) (e : Entry) : (fs.put p e).get? q = fs.get? q := by
  rw [get?_put, if_neg h]
  split
  · rename_i hq
    simp [get?, hq]
  · rfl

/-! ## Directories are kept -/

structure KeepsDirectories (fs fs' : Files) : Prop where
  current : fs'.current = fs.current
  directory : ∀ p, fs.get? p = some .directory → fs'.get? p = some .directory

namespace KeepsDirectories

variable {fs fs' fs'' : Files}

theorem refl (fs : Files) : KeepsDirectories fs fs := ⟨rfl, fun _ h => h⟩

theorem trans (h : KeepsDirectories fs fs') (h' : KeepsDirectories fs' fs'') : KeepsDirectories fs fs'' :=
  ⟨h'.current.trans h.current, fun p hp => h'.directory p (h.directory p hp)⟩

theorem enter (h : KeepsDirectories fs fs') {at_ place : Place} {parts : List Path.Part}
    (he : fs.enter at_ parts = .ok place) : fs'.enter at_ parts = .ok place := by
  induction parts generalizing at_ with
  | nil => exact he
  | cons s r ih =>
    rw [Files.enter] at he ⊢
    cases hn : next at_ s with
    | error f =>
      rw [hn] at he
      cases he
    | ok entered =>
      simp only [hn] at he ⊢
      split at he
      · cases he
      · rename_i hd
        rw [h.directory _ hd]
        exact ih he
      · cases he

theorem arrive (h : KeepsDirectories fs fs') {p : Path} {arrived : Place × Path.Part} (ha : fs.arrive p = .ok arrived) :
    fs'.arrive p = .ok arrived := by
  unfold Files.arrive at ha ⊢
  cases hf : fault? p with
  | some f =>
    rw [hf] at ha
    cases ha
  | none =>
    simp only [hf, map_ok_iff] at ha ⊢
    obtain ⟨place, he, hplace⟩ := ha
    rw [h.current]
    exact ⟨place, h.enter he, hplace⟩

/-- A path goes on naming the place that it names. -/
theorem locate (h : KeepsDirectories fs fs') {p : Path} {place : Place} (hl : fs.locate p = .ok place) :
    fs'.locate p = .ok place := by
  unfold Files.locate at hl ⊢
  obtain ⟨arrived, ha, hn⟩ := bind_ok_iff.mp hl
  exact bind_ok_iff.mpr ⟨arrived, h.arrive ha, hn⟩

end KeepsDirectories

/-! ## Making directories -/

structure MakesDirectories (fs fs' : Files) : Prop where
  current : fs'.current = fs.current
  get? : ∀ p, fs'.get? p = fs.get? p ∨ (fs.get? p = none ∧ fs'.get? p = some .directory)

namespace MakesDirectories

variable {fs fs' fs'' : Files}

theorem refl (fs : Files) : MakesDirectories fs fs := ⟨rfl, fun _ => .inl rfl⟩

theorem trans (h : MakesDirectories fs fs') (h' : MakesDirectories fs' fs'') : MakesDirectories fs fs'' := by
  refine ⟨h'.current.trans h.current, fun p => ?_⟩
  rcases h.get? p with hp | ⟨hnone, hp⟩
  · rw [← hp]
    exact h'.get? p
  · rcases h'.get? p with hp' | ⟨hnone', -⟩
    · exact .inr ⟨hnone, hp'.trans hp⟩
    · rw [hp] at hnone'
      cases hnone'

theorem keepsDirectories (h : MakesDirectories fs fs') : KeepsDirectories fs fs' := by
  refine ⟨h.current, fun p hd => ?_⟩
  rcases h.get? p with hp | ⟨hnone, -⟩
  · rw [hp, hd]
  · rw [hd] at hnone
    cases hnone

/-- A place that has something keeps it. -/
theorem get?_eq (h : MakesDirectories fs fs') {p : Place} {e : Entry} (he : fs.get? p = some e) :
    fs'.get? p = some e := by
  rcases h.get? p with hp | ⟨hnone, -⟩
  · rw [hp, he]
  · rw [he] at hnone
    cases hnone

end MakesDirectories

theorem makesDirectories_makeDirectory {fs fs' : Files} {p : Path} (h : fs.makeDirectory p = .ok fs') :
    MakesDirectories fs fs' := by
  unfold makeDirectory at h
  obtain ⟨⟨at_, last⟩, -, h⟩ := bind_ok_iff.mp h
  cases last with
  | name s =>
    obtain ⟨place, -, h⟩ := bind_ok_iff.mp h
    split at h
    · cases h
    · rename_i hsome
      cases h
      have hnone : fs.get? place = none := by simpa using hsome
      refine ⟨rfl, fun q => ?_⟩
      by_cases hq : q = place
      · subst hq
        exact .inr ⟨hnone, get?_put_self (by simp [hnone]) _⟩
      · exact .inl (get?_put_of_ne hq _)
  | root => cases h
  | here => cases h
  | up => cases h

theorem makesDirectories_unlessDirectory {fs : Files} (p : Path) {made : Except Fault Files}
    (h : ∀ fs', made = .ok fs' → MakesDirectories fs fs') : MakesDirectories fs (unlessDirectory fs p made).2 := by
  cases made with
  | ok fs' => exact h fs' rfl
  | error f => exact .refl fs

/-- Also when it stops on the way. -/
theorem makesDirectories_makeWithin (fs : Files) (depth : Nat) (p : Path) :
    MakesDirectories fs (makeWithin fs depth p).2 := by
  have hself : ∀ (fs : Files) (p : Path), MakesDirectories fs (unlessDirectory fs p (fs.makeDirectory p)).2 :=
    fun fs p => makesDirectories_unlessDirectory p fun _ => makesDirectories_makeDirectory
  induction depth generalizing fs p with
  | zero => exact hself fs p
  | succ depth ih =>
    rw [makeWithin]
    split
    · rename_i q _ _
      have habove : MakesDirectories fs (if q.text.isEmpty then (.ok (), fs) else makeWithin fs depth q).2 := by
        split
        · exact .refl fs
        · exact ih fs q
      split
      · rename_i fs' hmade
        rw [hmade] at habove
        exact habove.trans (hself fs' p)
      · exact habove
    · exact hself fs p

theorem makesDirectories_makeDirectories (fs : Files) (p : Path) : MakesDirectories fs (fs.makeDirectories p).2 := by
  unfold makeDirectories
  split
  · exact .refl fs
  · exact makesDirectories_makeWithin fs _ p

theorem makesDirectories_makeParents (fs : Files) (p : Path) : MakesDirectories fs (fs.makeParents p).2 := by
  unfold makeParents
  split
  · exact makesDirectories_makeDirectories fs _
  · exact .refl fs

/-! ## Writing -/

/-- `content` is written to a place. A device takes it and stays what it is. -/
structure Writes (fs fs' : Files) (p : Place) (content : List UInt8) : Prop where
  current : fs'.current = fs.current
  notDirectory : fs.get? p ≠ some .directory
  here : fs'.get? p = some (.file content) ∨ (fs.get? p = some .device ∧ fs'.get? p = some .device)
  elsewhere : ∀ q, q ≠ p → fs'.get? q = fs.get? q

theorem Writes.keepsDirectories {fs fs' : Files} {p : Place} {content : List UInt8} (h : Writes fs fs' p content) :
    KeepsDirectories fs fs' := by
  refine ⟨h.current, fun q hq => ?_⟩
  have hne : q ≠ p := by
    rintro rfl
    exact h.notDirectory hq
  rw [h.elsewhere q hne, hq]

/-- A file is written to the place that its path names. -/
theorem writes_of_writeText {fs fs' : Files} {p : Path} {s : String} (h : fs.writeText p s = .ok fs') :
    ∃ place, fs.locate p = .ok place ∧ Writes fs fs' place (Text.Utf8.encode s) := by
  unfold writeText at h
  obtain ⟨⟨at_, last⟩, ha, h⟩ := bind_ok_iff.mp h
  dsimp only at h
  split at h
  · cases h
  obtain ⟨place, hn, h⟩ := bind_ok_iff.mp h
  refine ⟨place, bind_ok_iff.mpr ⟨(at_, last), ha, hn⟩, ?_⟩
  split at h
  · cases h
  · rename_i hdevice
    cases h
    exact ⟨rfl, by simp [hdevice], .inr ⟨hdevice, hdevice⟩, fun _ _ => rfl⟩
  · rename_i hdirectory _
    cases h
    exact ⟨rfl, hdirectory, .inl (get?_put_self hdirectory _), fun q hq => get?_put_of_ne hq _⟩

end PlotTypes.Files
