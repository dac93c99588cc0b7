/-
  PlotTypes.Proofs.Path — the parts of a path that is pushed together.

  Pushing a relative text adds its steps to those of the path (`steps_push`), with or without
  a slash between. A file name is a text that is one step of its own; a path made of file
  names alone has just these for its parts, and below a directory it leads to a place below
  the directory (`staysBelow_of_steps`).
-/

import PlotTypes.Path
import PlotTypes.Proofs.Python.Call
import PlotTypes.Proofs.Text.Pieces

namespace PlotTypes

open PlotTypes.Text

namespace Path

/-! ## Pushing -/

/-- The steps between slashes, without the root. -/
def between (cs : List Char) : List Part := (pieces (· == '/') cs).filterMap step?

theorem steps_eq (p : Path) : p.steps = (if isAbsolute p.text then [.root] else []) ++ between p.text.toList := rfl

theorem between_append_slash (as bs : List Char) : between (as ++ '/' :: bs) = between as ++ between bs := by
  rw [between, pieces_append_cons (by rfl), List.filterMap_append]
  rfl

theorem isAbsolute_append {s : String} (hs : s ≠ "") (t : String) : isAbsolute (s ++ t) = isAbsolute s := by
  have hne : s.toList ≠ [] := fun h => hs (String.toList_eq_nil_iff.mp h)
  obtain ⟨c, r, hc⟩ := List.exists_cons_of_ne_nil hne
  rw [isAbsolute, isAbsolute, String.toList_append, hc]
  rfl

theorem steps_push {p : Path} {s : String} (hs : isAbsolute s = false) :
    (p.push s).steps = p.steps ++ (Path.mk s).steps := by
  have hsteps : (Path.mk s).steps = between s.toList := by
    rw [steps_eq]
    simp [hs]
  rw [push, if_neg (by simp [hs]), hsteps]
  by_cases hempty : p.text = ""
  · rw [if_pos (by simp [hempty]), hempty, String.empty_append, hsteps, steps_eq, hempty]
    rfl
  by_cases hend : endsInSlash p.text = true
  · rw [if_pos (by simp [hend])]
    obtain ⟨t, ht⟩ : ∃ t, p.text.toList = t ++ ['/'] :=
      List.getLast?_eq_some_iff.mp (eq_of_beq hend)
    rw [steps_eq, steps_eq, isAbsolute_append hempty, String.toList_append, ht, List.append_assoc, List.singleton_append,
      between_append_slash, between_append_slash, List.append_assoc, List.append_assoc]
    rfl
  · rw [if_neg (by simp [hempty, hend]), steps_eq, steps_eq, String.append_assoc, isAbsolute_append hempty,
      String.toList_append, String.toList_append]
    show _ ++ between (p.text.toList ++ '/' :: s.toList) = _
    rw [between_append_slash, List.append_assoc]

/-! ## File names -/

def isFileName (s : String) : Bool := s != "" && s != "." && s != ".." && !s.toList.contains '/'

theorem isFileName_iff {s : String} :
    isFileName s = true ↔ (s ≠ "" ∧ s ≠ "." ∧ s ≠ "..") ∧ '/' ∉ s.toList := by
  simp [isFileName, and_assoc]

theorem step?_toList {s : String} (h : s ≠ "" ∧ s ≠ "." ∧ s ≠ "..") : step? s.toList = some (.name s) := by
  obtain ⟨hempty, hhere, hup⟩ := h
  have hempty' : s.toList ≠ [] := fun e => hempty (String.toList_inj.mp e)
  have hhere' : s.toList ≠ ['.'] := fun e => hhere (String.toList_inj.mp e)
  have hup' : s.toList ≠ ['.', '.'] := fun e => hup (String.toList_inj.mp e)
  unfold step?
  rw [if_neg hempty', if_neg hhere', if_neg hup', String.ofList_toList]

theorem isAbsolute_of_isFileName {s : String} (h : isFileName s = true) : isAbsolute s = false := by
  obtain ⟨-, hslash⟩ := isFileName_iff.mp h
  cases hs : s.toList with
  | nil => simp [isAbsolute, hs]
  | cons c r =>
    have hc : c ≠ '/' := by
      rintro rfl
      exact hslash (hs ▸ List.mem_cons_self)
    simp [isAbsolute, hs, hc]

theorem steps_of_isFileName {s : String} (h : isFileName s = true) : (Path.mk s).steps = [.name s] := by
  obtain ⟨hne, hslash⟩ := isFileName_iff.mp h
  have hpieces : pieces (· == '/') s.toList = [s.toList] := by
    refine pieces_eq_singleton fun c hc => ?_
    simpa using fun e : c = '/' => hslash (e ▸ hc)
  rw [steps_eq, between, hpieces, isAbsolute_of_isFileName h]
  simp [step?_toList hne]

theorem steps_pushAll {p : Path} {ss : List String} (h : ∀ s ∈ ss, isFileName s = true) :
    (p.pushAll ss).steps = p.steps ++ ss.map .name := by
  unfold pushAll
  induction ss generalizing p with
  | nil => simp
  | cons s r ih =>
    rw [List.forall_mem_cons] at h
    rw [List.foldl_cons, ih h.2, steps_push (isAbsolute_of_isFileName h.1), steps_of_isFileName h.1, List.map_cons,
      List.append_assoc]
    rfl

theorem isFileName_of_step? {piece : List Char} {s : String} (hp : '/' ∉ piece) (h : step? piece = some (.name s)) :
    isFileName s = true := by
  unfold step? at h
  repeat' split at h
  all_goals cases h
  rename_i hempty hhere hup
  rw [isFileName_iff, String.toList_ofList]
  refine ⟨⟨fun e => hempty ?_, fun e => hhere ?_, fun e => hup ?_⟩, hp⟩
  all_goals
    have hlist := congrArg String.toList e
    rw [String.toList_ofList] at hlist
    exact hlist

/-- Every name in a path is a file name. -/
theorem isFileName_of_mem_steps {p : Path} {s : String} (h : Part.name s ∈ p.steps) : isFileName s = true := by
  rw [steps_eq, List.mem_append] at h
  rcases h with h | h
  · split at h
    · simp at h
    · cases h
  · obtain ⟨piece, hp, hs⟩ := List.mem_filterMap.mp h
    refine isFileName_of_step? (fun hslash => ?_) hs
    have := not_of_mem_pieces piece hp '/' hslash
    simp at this

theorem isFileName_of_isIdentifier {s : String} (h : Python.isIdentifier s = true) : isFileName s = true := by
  obtain ⟨⟨c, r, hs⟩, hw⟩ := Python.word_of_isIdentifier h
  have hnot : ∀ d, Python.continuesIdentifier d = false → d ∉ s.toList := by
    intro d hd hmem
    rw [hw d hmem] at hd
    cases hd
  have hdot : '.' ∉ s.toList := hnot '.' (by decide)
  refine isFileName_iff.mpr ⟨⟨?_, ?_, ?_⟩, hnot '/' (by decide)⟩
  · rintro rfl
    cases hs
  · rintro rfl
    exact hdot (List.mem_singleton_self '.')
  · rintro rfl
    exact hdot List.mem_cons_self

/-! ## Parts -/

theorem mem_steps_of_mem_parts {p : Path} {q : Part} (h : q ∈ p.parts) : q ∈ p.steps := by
  unfold parts at h
  split at h
  · cases h
  · rename_i first rest hsteps
    rw [hsteps]
    rcases List.mem_cons.mp h with rfl | h
    · exact List.mem_cons_self
    · exact List.mem_cons_of_mem _ (List.mem_filter.mp h).1

/-- Names are kept as parts, wherever they stand. -/
theorem parts_of_steps_append {p q : Path} {names : List String} (h : q.steps = p.steps ++ names.map .name) :
    q.parts = p.parts ++ names.map .name := by
  have hkept : ∀ ns : List String, (ns.map Part.name).filter (· != .here) = ns.map .name := by
    intro ns
    refine List.filter_eq_self.mpr fun x hx => ?_
    obtain ⟨n, -, rfl⟩ := List.mem_map.mp hx
    rfl
  unfold parts
  rw [h]
  cases p.steps with
  | nil =>
    cases names with
    | nil => rfl
    | cons n r => simp only [List.nil_append, List.map_cons, hkept]
  | cons first rest => simp only [List.cons_append, List.filter_append, hkept]

theorem parts_of_steps {p : Path} {names : List String} (h : p.steps = names.map .name) : p.parts = names.map .name :=
  parts_of_steps_append (p := ⟨""⟩) h

/-- A path that leads down from any directory it is joined to, and is told by names alone. -/
structure StaysBelow (p : Path) : Prop where
  relative : isAbsolute p.text = false
  noUp : Part.up ∉ p.parts
  joined : ∀ out : Path, (out.join p).parts = out.parts ++ p.parts

theorem staysBelow_of_steps {p : Path} {names : List String} (h : p.steps = names.map .name) : StaysBelow p := by
  have hparts := parts_of_steps h
  have hrelative : isAbsolute p.text = false := by
    cases ha : isAbsolute p.text with
    | false => rfl
    | true =>
      have hroot : Part.root ∈ names.map .name := by
        rw [← h, steps_eq, ha]
        exact List.mem_cons_self
      obtain ⟨n, -, hn⟩ := List.mem_map.mp hroot
      cases hn
  refine ⟨hrelative, fun hup => ?_, fun out => ?_⟩
  · rw [hparts] at hup
    obtain ⟨n, -, hn⟩ := List.mem_map.mp hup
    cases hn
  · rw [hparts]
    refine parts_of_steps_append ?_
    rw [join, steps_push hrelative]
    exact congrArg _ h

end Path

end PlotTypes
