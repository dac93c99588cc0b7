/-
  PlotTypes.Proofs.Python.Docstring — what rendered docstrings hold when they are read.

  A triple-quoted string is read from just after its opening delimiter: a backslash takes the
  next character with it, and the first three quotes that are left end the string
  (`readDocstring`). Documentation is escaped in two passes, backslashes first, and a line may
  end in quotes or in a backslash. What makes the passes safe is that every line is followed by
  a line feed: two quotes at its end are never completed by the next line.
  - `escapeDoc_triple`, `escapeDoc_self` and the lemma beside them: both passes as one.
  - `readsAs_escapeDoc`: an escaped line and its line feed read as the line, whatever follows.
  - `holdsDocstring`: lines that read as others make a docstring that holds those.
  - `docstrings_read_back`: the docstrings of properties, constructors and methods end where
    their closing delimiter was written, and hold the documentation as it was.
-/

import PlotTypes.Proofs.Python.Storing

namespace PlotTypes.Python

open PlotTypes.Text

variable {c : Char} {r text content : List Char}

/-! ## Reading -/

/-- A character as it is written in a string: alone, or after a backslash. -/
inductive Written where
  | plain (c : Char)
  | escaped (c : Char)
  deriving DecidableEq, Repr

def Written.char : Written → Char
  | plain c => c
  | escaped c => c

def readBefore (ws : List Written) (read : Option (List Written × List Char)) : Option (List Written × List Char) :=
  read.map fun (vs, after) => (ws ++ vs, after)

/-- The characters of a triple-quoted string, and the text after its closing delimiter. Nothing for a string that does
    not end. -/
def readDocstring : List Char → Option (List Written × List Char)
  | [] => none
  | '"' :: '"' :: '"' :: r => some ([], r)
  | '\\' :: c :: r => readBefore [.escaped c] (readDocstring r)
  | ['\\'] => none
  | c :: r => readBefore [.plain c] (readDocstring r)

theorem readBefore_readBefore (vs ws : List Written) (read : Option (List Written × List Char)) :
    readBefore vs (readBefore ws read) = readBefore (vs ++ ws) read := by
  cases read with
  | none => rfl
  | some x => simp [readBefore]

theorem readBefore_nil (read : Option (List Written × List Char)) : readBefore [] read = read := by
  cases read with
  | none => rfl
  | some x => rfl

theorem readDocstring_close (r : List Char) : readDocstring ('"' :: '"' :: '"' :: r) = some ([], r) := rfl

theorem readDocstring_escaped (c : Char) (r : List Char) :
    readDocstring ('\\' :: c :: r) = readBefore [.escaped c] (readDocstring r) := by
  rw [readDocstring]

theorem readDocstring_plain (hc : c ≠ '\\') (h : c = '"' → ∀ s, r ≠ '"' :: '"' :: s) :
    readDocstring (c :: r) = readBefore [.plain c] (readDocstring r) := by
  rw [readDocstring]
  · exact fun s hq hs => h hq s hs
  · exact fun d s hd => absurd hd hc
  · exact fun hd => absurd hd hc

/-- A text that reads as `content` before whatever follows it, with no escapes but those of backslashes and quotes. -/
def ReadsAs (text content : List Char) : Prop :=
  ∃ ws : List Written, ws.map Written.char = content ∧ (∀ c, .escaped c ∈ ws → c = '\\' ∨ c = '"') ∧
    ∀ rest, readDocstring (text ++ rest) = readBefore ws (readDocstring rest)

theorem readsAs_nil : ReadsAs [] [] := ⟨[], rfl, nofun, fun rest => (readBefore_nil (readDocstring rest)).symm⟩

theorem ReadsAs.append {text' content' : List Char} (h : ReadsAs text content) (h' : ReadsAs text' content') :
    ReadsAs (text ++ text') (content ++ content') := by
  obtain ⟨ws, hchars, hescaped, hread⟩ := h
  obtain ⟨vs, hchars', hescaped', hread'⟩ := h'
  refine ⟨ws ++ vs, by rw [List.map_append, hchars, hchars'], fun c hc => ?_, fun rest => ?_⟩
  · exact (List.mem_append.mp hc).elim (hescaped c) (hescaped' c)
  · rw [List.append_assoc, hread, hread', readBefore_readBefore]

theorem readsAs_singleton (hc : c ≠ '\\') (hq : c ≠ '"') : ReadsAs [c] [c] := by
  refine ⟨[.plain c], rfl, by simp, fun rest => ?_⟩
  exact readDocstring_plain hc fun h => absurd h hq

def Unquoted (s : String) : Prop := ∀ c ∈ s.toList, c ≠ '\\' ∧ c ≠ '"'

instance (s : String) : Decidable (Unquoted s) :=
  decidable_of_iff (s.toList.all (fun c => c ≠ '\\' ∧ c ≠ '"') = true) (by simp [Unquoted])

theorem readsAs_self {l : List Char} (h : ∀ c ∈ l, c ≠ '\\' ∧ c ≠ '"') : ReadsAs l l := by
  induction l with
  | nil => exact readsAs_nil
  | cons c r ih =>
    obtain ⟨⟨hc, hq⟩, hr⟩ := List.forall_mem_cons.mp h
    exact (readsAs_singleton hc hq).append (ih hr)

/-! ## Escaped lines -/

/-- Doubling backslashes makes no quotes. -/
theorem exists_cons_of_flatMap_escapeBackslash {y : List Char} (h : r.flatMap escapeBackslash = '"' :: y) :
    ∃ s, r = '"' :: s ∧ s.flatMap escapeBackslash = y := by
  cases r with
  | nil => cases h
  | cons c s =>
    rw [List.flatMap_cons, escapeBackslash] at h
    split at h
    · cases h
    · obtain ⟨rfl, rfl⟩ := List.cons.inj h
      exact ⟨s, rfl, rfl⟩

theorem escapeDoc_backslash (r : List Char) : escapeDoc ('\\' :: r) = '\\' :: '\\' :: escapeDoc r := rfl

theorem escapeDoc_triple (r : List Char) :
    escapeDoc ('"' :: '"' :: '"' :: r) = '\\' :: '"' :: '\\' :: '"' :: '\\' :: '"' :: escapeDoc r := rfl

theorem escapeDoc_self (hc : c ≠ '\\') (h : c = '"' → ∀ s, r ≠ '"' :: '"' :: s) :
    escapeDoc (c :: r) = c :: escapeDoc r := by
  have hself : escapeBackslash c = [c] := by rw [escapeBackslash, if_neg (by simpa using hc)]
  rw [escapeDoc, List.flatMap_cons, hself, List.singleton_append, escapeTriple, ← escapeDoc]
  intro s hquote hs
  obtain ⟨r', rfl, hr'⟩ := exists_cons_of_flatMap_escapeBackslash hs
  obtain ⟨r'', rfl, -⟩ := exists_cons_of_flatMap_escapeBackslash hr'
  exact h hquote r'' rfl

/-- The cases of escaping: both passes take a backslash, three quotes or any other character off a line. -/
theorem escapeDoc_induction {P : List Char → Prop} (nil : P []) (backslash : ∀ r, P r → P ('\\' :: r))
    (triple : ∀ r, P r → P ('"' :: '"' :: '"' :: r))
    (self : ∀ c r, c ≠ '\\' → (c = '"' → ∀ s, r ≠ '"' :: '"' :: s) → P r → P (c :: r)) (line : List Char) :
    P line := by
  fun_induction escapeTriple line with
  | case1 r ih => exact triple r ih
  | case2 c r hne ih =>
    by_cases hc : c = '\\'
    · subst hc
      exact backslash r ih
    · exact self c r hc (fun hq s hs => hne s hq hs) ih
  | case3 => exact nil

/-- A quote in front of an escaped line is one of the line itself. -/
theorem exists_cons_of_escapeDoc_append {rest y : List Char} (h : escapeDoc r ++ '\n' :: rest = '"' :: y) :
    ∃ s, r = '"' :: s ∧ escapeDoc s ++ '\n' :: rest = y := by
  cases r with
  | nil => cases h
  | cons c s =>
    by_cases hc : c = '\\'
    · subst hc
      cases h
    by_cases htriple : c = '"' ∧ ∃ t, s = '"' :: '"' :: t
    · obtain ⟨rfl, t, rfl⟩ := htriple
      cases h
    · rw [escapeDoc_self hc fun hq t ht => htriple ⟨hq, t, ht⟩] at h
      obtain ⟨rfl, rfl⟩ := List.cons.inj h
      exact ⟨s, rfl, rfl⟩

theorem readsAs_escaped (hc : c = '\\' ∨ c = '"') : ReadsAs ['\\', c] [c] :=
  ⟨[.escaped c], rfl, by simpa using hc, fun rest => readDocstring_escaped c rest⟩

/-- An escaped line with its line feed reads as the line. -/
theorem readsAs_escapeDoc (line : List Char) : ReadsAs (escapeDoc line ++ ['\n']) (line ++ ['\n']) := by
  induction line using escapeDoc_induction with
  | nil => exact readsAs_singleton (by decide) (by decide)
  | backslash r ih =>
    rw [escapeDoc_backslash]
    exact (readsAs_escaped (.inl rfl)).append ih
  | triple r ih =>
    have hquote := readsAs_escaped (c := '"') (.inr rfl)
    rw [escapeDoc_triple]
    exact ((hquote.append hquote).append hquote).append ih
  | self c r hc hdouble ih =>
    rw [escapeDoc_self hc hdouble]
    obtain ⟨ws, hchars, hescaped, hread⟩ := ih
    refine ⟨.plain c :: ws, by rw [List.map_cons, hchars]; rfl, by simpa using hescaped, fun rest => ?_⟩
    -- no two quotes come after this one, so it does not end the string
    have hopen : c = '"' → ∀ s, escapeDoc r ++ ['\n'] ++ rest ≠ '"' :: '"' :: s := by
      intro hq s hs
      rw [List.append_assoc, List.singleton_append] at hs
      obtain ⟨r', rfl, hr'⟩ := exists_cons_of_escapeDoc_append hs
      obtain ⟨r'', rfl, -⟩ := exists_cons_of_escapeDoc_append hr'
      exact hdouble hq r'' rfl
    show readDocstring (c :: (escapeDoc r ++ ['\n'] ++ rest)) = _
    rw [readDocstring_plain hc hopen, hread, readBefore_readBefore]
    rfl

/-- Escaping a line does not make it blank, or not blank. -/
theorem allBlank_escapeDoc (line : List Char) : allBlank (escapeDoc line) = allBlank line := by
  have hbackslash : isBlank '\\' = false := by decide
  have hquote : isBlank '"' = false := by decide
  induction line using escapeDoc_induction with
  | nil => rfl
  | backslash r ih => simp [escapeDoc_backslash, allBlank, hbackslash]
  | triple r ih => simp [escapeDoc_triple, allBlank, hbackslash, hquote]
  | self c r hc hdouble ih =>
    rw [escapeDoc_self hc hdouble]
    simp only [allBlank, List.all_cons] at ih ⊢
    rw [ih]

/-! ## Lines -/

def LineReads (line content : String) : Prop := ReadsAs (line ++ "\n").toList (content ++ "\n").toList

theorem lineReads_self {line : String} (h : Unquoted line) : LineReads line line := by
  refine readsAs_self fun c hc => ?_
  rw [String.toList_append, List.mem_append] at hc
  rcases hc with hc | hc
  · exact h c hc
  · obtain rfl : c = '\n' := by simpa using hc
    exact ⟨by decide, by decide⟩

def laidLine (indent line : String) : String := if allBlank line.toList then "" else indent ++ line

def laidParagraph (indent : String) : List String → List String
  | [] => []
  | first :: later => laidLine indent first :: later.map (laidLine "")

theorem lineReads_docLine {indent : String} (hindent : Unquoted indent) (line : String) :
    LineReads (docLine indent line) (laidLine indent line) := by
  unfold docLine laidLine
  simp only [allBlank_escapeDoc]
  split
  · exact lineReads_self (by decide)
  · unfold LineReads
    simp only [String.toList_append, String.toList_ofList, List.append_assoc]
    exact (readsAs_self hindent).append (readsAs_escapeDoc line.toList)

theorem lineReads_paragraphLines {indent : String} (hindent : Unquoted indent) (lines : List String) :
    List.Forall₂ LineReads (paragraphLines indent lines) (laidParagraph indent lines) := by
  cases lines with
  | nil => exact .nil
  | cons first later =>
    refine .cons (lineReads_docLine hindent first) ?_
    rw [List.forall₂_map_left_iff, List.forall₂_map_right_iff]
    exact List.forall₂_same.mpr fun line _ => lineReads_docLine (by decide) line

theorem lineReads_paragraphsLines {indent : String} (hindent : Unquoted indent) (paragraphs : List (List String)) :
    List.Forall₂ LineReads (paragraphsLines indent paragraphs)
      (List.intercalate [""] (paragraphs.map (laidParagraph indent))) := by
  induction paragraphs with
  | nil => exact .nil
  | cons p r ih =>
    have hfirst := lineReads_paragraphLines hindent p
    cases r with
    | nil => simpa [paragraphsLines] using hfirst
    | cons q r =>
      have hblank : LineReads "" "" := lineReads_self (by decide)
      rw [paragraphsLines, List.map_cons, List.map_cons, List.intercalate_cons_cons, List.append_assoc]
      exact List.rel_append hfirst (.cons hblank ih)

/-! ## Texts -/

theorem sourceText_cons (line : String) (lines : List String) :
    sourceText (line :: lines) = line ++ "\n" ++ sourceText lines := by
  rw [sourceText, List.map_cons, String.join_cons, sourceText]

theorem sourceText_append (as bs : List String) : sourceText (as ++ bs) = sourceText as ++ sourceText bs := by
  induction as with
  | nil => simp [sourceText]
  | cons line r ih => rw [List.cons_append, sourceText_cons, ih, sourceText_cons, ← String.append_assoc]

theorem readsAs_sourceText {lines content : List String} (h : List.Forall₂ LineReads lines content) :
    ReadsAs (sourceText lines).toList (sourceText content).toList := by
  induction h with
  | nil => exact readsAs_nil
  | cons hline _ ih =>
    have hboth := ReadsAs.append hline ih
    rwa [← String.toList_append, ← String.toList_append, ← sourceText_cons, ← sourceText_cons] at hboth

/-- Among `lines` stands a docstring, between `before` and `after`. Read from just after its opening delimiter it holds
    `content`, every backslash in it escapes a backslash or a quote, and it ends at the closing delimiter in front of
    `after`. -/
def HoldsDocstring (lines before content after : List String) : Prop :=
  ∃ text ws, sourceText lines = sourceText before ++ docDelimiter ++ text ∧
    readDocstring text.toList = some (ws, '\n' :: (sourceText after).toList) ∧
    (∀ c, .escaped c ∈ ws → c = '\\' ∨ c = '"') ∧
    String.ofList (ws.map Written.char) = "\n" ++ sourceText content ++ bodyIndent

theorem holdsDocstring {inner content : List String} (h : List.Forall₂ LineReads inner content)
    (before after : List String) :
    HoldsDocstring (before ++ docDelimiter :: (inner ++ docDelimiter :: after)) before content after := by
  have hfeed : ReadsAs "\n".toList "\n".toList := readsAs_self (show Unquoted "\n" by decide)
  have hindent : ReadsAs bodyIndent.toList bodyIndent.toList := readsAs_self (show Unquoted bodyIndent by decide)
  obtain ⟨ws, hchars, hescaped, hread⟩ := (hfeed.append (readsAs_sourceText h)).append hindent
  refine ⟨"\n" ++ sourceText inner ++ docDelimiter ++ "\n" ++ sourceText after, ws, ?_, ?_, hescaped, ?_⟩
  · simp only [sourceText_append, sourceText_cons, String.append_assoc]
  · have hclose := hread ('"' :: '"' :: '"' :: '\n' :: (sourceText after).toList)
    have hend : readBefore ws (some ([], '\n' :: (sourceText after).toList)) =
        some (ws, '\n' :: (sourceText after).toList) := by
      simp [readBefore]
    rw [readDocstring_close, hend] at hclose
    rw [← hclose, docDelimiter, inBody]
    simp only [String.toList_append, List.append_assoc]
    rfl
  · rw [hchars, ← String.toList_append, ← String.toList_append, String.ofList_toList]

/-! ## Properties, constructors and methods -/

def propertyHead (p : Property) : List String :=
  ["", methodIndent ++ "# " ++ p.name, methodIndent ++ "# " ++ dashes p.name, methodIndent ++ "@property",
    methodIndent ++ "def " ++ p.name ++ "(self) -> " ++ p.typeText ++ ":"]

def propertyTail (p : Property) : List String :=
  [getterLine p, "", methodIndent ++ "@" ++ p.name ++ ".setter", methodIndent ++ "def " ++ p.name ++ "(self, val):",
    setterLine p]

theorem propertyLines_eq (p : Property) :
    propertyLines p =
      propertyHead p ++ docDelimiter :: (paragraphsLines bodyIndent p.doc ++ docDelimiter :: propertyTail p) := by
  simp [propertyLines, propertyHead, propertyTail]

/-- What is written into the docstring of a callable besides its parameters is free of quotes and backslashes. -/
structure UnquotedNames (doc : DocBlock) : Prop where
  title : Unquoted doc.title
  parameters : ∀ p ∈ doc.parameters, Unquoted p.name
  result : Unquoted doc.result

def docLayout (paragraph : List String → List String) (doc : DocBlock) : List String :=
  [inBody s!"Construct a new {doc.title} object", "", inBody "Parameters", inBody "----------"] ++
    doc.parameters.flatMap (fun p => inBody p.name :: paragraph p.lines) ++
    ["", inBody "Returns", inBody "-------", inBody doc.result]

theorem docBlockLines_eq (doc : DocBlock) :
    docBlockLines doc = docDelimiter :: (docLayout (paragraphLines textIndent) doc ++ [docDelimiter]) := by
  simp [docBlockLines, docLayout]

theorem unquoted_append {s t : String} (hs : Unquoted s) (ht : Unquoted t) : Unquoted (s ++ t) := by
  intro c hc
  rw [String.toList_append, List.mem_append] at hc
  exact hc.elim (hs c) (ht c)

theorem lineReads_inBody {line : String} (h : Unquoted line) : LineReads (inBody line) (inBody line) :=
  lineReads_self (unquoted_append (by decide) h)

theorem lineReads_docLayout {doc : DocBlock} (h : UnquotedNames doc) :
    List.Forall₂ LineReads (docLayout (paragraphLines textIndent) doc) (docLayout (laidParagraph textIndent) doc) := by
  have htitle : Unquoted ("Construct a new " ++ doc.title ++ " object") :=
    unquoted_append (unquoted_append (by decide) h.title) (by decide)
  have hblank : LineReads "" "" := lineReads_self (by decide)
  refine List.rel_append (List.rel_append ?_ ?_) ?_
  · exact .cons (lineReads_inBody htitle) (.cons hblank (.cons (lineReads_inBody (by decide))
      (.cons (lineReads_inBody (by decide)) .nil)))
  · refine List.rel_flatMap (R := fun p q => p = q ∧ Unquoted p.name) ?_ ?_
    · exact List.forall₂_same.mpr fun p hp => ⟨rfl, h.parameters p hp⟩
    · rintro p _ ⟨rfl, hname⟩
      exact .cons (lineReads_inBody hname) (lineReads_paragraphLines (by decide) p.lines)
  · exact .cons hblank (.cons (lineReads_inBody (by decide)) (.cons (lineReads_inBody (by decide))
      (.cons (lineReads_inBody h.result) .nil)))

theorem holdsDocstring_docBlockLines {doc : DocBlock} (h : UnquotedNames doc) (before after : List String) :
    HoldsDocstring (before ++ docBlockLines doc ++ after) before (docLayout (laidParagraph textIndent) doc) after := by
  have hholds := holdsDocstring (lineReads_docLayout h) before after
  rw [docBlockLines_eq]
  simpa using hholds

/-- Every docstring ends where its closing delimiter was written, and holds its documentation as it was: the paragraphs
    of a property, whatever their lines are, and those of a callable's parameters, where only the title, the names of
    the parameters and the name of the result are free of quotes and backslashes. -/
theorem docstrings_read_back :
    (∀ p : Property, HoldsDocstring (propertyLines p) (propertyHead p)
      (List.intercalate [""] (p.doc.map (laidParagraph bodyIndent))) (propertyTail p)) ∧
      (∀ k : Constructor, UnquotedNames k.doc →
        HoldsDocstring (constructorLines k) ("" :: signatureLines "__init__" k.parameters)
          (docLayout (laidParagraph textIndent) k.doc) (bodyLines k)) ∧
        ∀ (registerMethod : String) (m : MethodDecl), UnquotedNames m.doc →
          HoldsDocstring (methodLines registerMethod m) ("" :: signatureLines m.name m.parameters)
            (docLayout (laidParagraph textIndent) m.doc)
            (callLines m.className m.parameters ++
              [inBody "new_trace.parent = self", inBody s!"return self.{registerMethod}(new_trace)"]) := by
  refine ⟨fun p => ?_, fun k hk => ?_, fun registerMethod m hm => ?_⟩
  · rw [propertyLines_eq]
    exact holdsDocstring (lineReads_paragraphsLines (by decide) p.doc) (propertyHead p) (propertyTail p)
  · rw [constructorLines]
    exact holdsDocstring_docBlockLines hk ("" :: signatureLines "__init__" k.parameters) (bodyLines k)
  · have hholds := holdsDocstring_docBlockLines hm ("" :: signatureLines m.name m.parameters)
      (callLines m.className m.parameters ++
        [inBody "new_trace.parent = self", inBody s!"return self.{registerMethod}(new_trace)"])
    simpa [methodLines] using hholds

def quotedDoc : DocBlock := ⟨"Bar", [⟨"x", ["say \"\"\"\"\" \\\"\"\"\\", " ", "\"\"\\"]⟩], "Bar"⟩

theorem docstrings_read_back_quoted :
    UnquotedNames quotedDoc ∧
      HoldsDocstring (constructorLines ⟨[], quotedDoc, "bar", "bar", [], [], []⟩) ("" :: signatureLines "__init__" [])
        (docLayout (laidParagraph textIndent) quotedDoc) (bodyLines ⟨[], quotedDoc, "bar", "bar", [], [], []⟩) ∧
      HoldsDocstring (methodLines "_add_trace" ⟨"add_bar", "Bar", [], quotedDoc⟩) ("" :: signatureLines "add_bar" [])
        (docLayout (laidParagraph textIndent) quotedDoc)
        (callLines "Bar" [] ++ [inBody "new_trace.parent = self", inBody "return self._add_trace(new_trace)"]) := by
  have hnames : UnquotedNames quotedDoc := ⟨by decide, by decide, by decide⟩
  exact ⟨hnames, docstrings_read_back.2.1 ⟨[], quotedDoc, "bar", "bar", [], [], []⟩ hnames,
    docstrings_read_back.2.2 "_add_trace" ⟨"add_bar", "Bar", [], quotedDoc⟩ hnames⟩

end PlotTypes.Python
