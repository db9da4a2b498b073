import VzletUr3e.Library.Csv

/-!
# What is written is read back

Rows of any texts, also of texts with quotes, commas and ends of lines in them. A text that is
quoted can go over several lines; since an open quote takes whole lines as they are, it does not
matter to the reader where they are cut. So a text is followed character by character, and what is
behind it stays arbitrary.
-/

namespace Csv

open Reader

/-- A text that is read on from the middle of a line. -/
def readOn (r : Reader) (text : List Char) : Except Error Reader := (lines text).foldlM readLine r

variable {r r' : Reader} {c : Char} {rest : List Char}

/-! ## Characters -/

theorem readLine_cons (h : r.processChar c = .ok r') (line : List Char) :
    r.readLine (c :: line) = r'.readLine line := by
  rw [readLine, readLine, List.foldlM_cons, h]
  rfl

/-- A character that ends no line. -/
theorem readOn_cons (hlf : c ≠ '\n') (hcr : c ≠ '\r') (hrest : rest ≠ [])
    (h : r.processChar c = .ok r') : readOn r (c :: rest) = readOn r' rest := by
  obtain ⟨line, ls, hls⟩ := List.exists_cons_of_ne_nil (lines_ne_nil hrest)
  rw [readOn, readOn, lines_inner hlf hcr, hls, consLine, List.foldlM_cons, List.foldlM_cons,
    readLine_cons h]

theorem readOn_append {text : List Char} : ∀ {r : Reader},
    (∀ c ∈ text, c ≠ '\n' ∧ c ≠ '\r') → rest ≠ [] → text.foldlM processChar r = .ok r' →
      readOn r (text ++ rest) = readOn r' rest := by
  induction text with
  | nil =>
    rintro r - - ⟨⟩
    rfl
  | cons c text ih =>
    intro r htext hrest h
    obtain ⟨⟨hlf, hcr⟩, htext⟩ := List.forall_mem_cons.mp htext
    rw [List.foldlM_cons] at h
    rcases hstep : r.processChar c with e | s
    · rw [hstep] at h
      cases h
    · rw [hstep] at h
      rw [List.cons_append, readOn_cons hlf hcr (by simp [hrest]) hstep]
      exact ih htext hrest h

/-- In an open quote any character but a quote is taken as it is, be it an end of line. -/
theorem readOn_inQuotedField (hquote : c ≠ '"') (hrest : rest ≠ []) (field : List Char)
    (fields : List (List Char)) (records : List (List (List Char))) :
    readOn ⟨.inQuotedField, field, fields, records⟩ (c :: rest)
      = readOn ⟨.inQuotedField, field ++ [c], fields, records⟩ rest := by
  have hstep : processChar ⟨.inQuotedField, field, fields, records⟩ c
      = .ok ⟨.inQuotedField, field ++ [c], fields, records⟩ := if_neg hquote
  by_cases hlf : c = '\n'
  · subst hlf
    rw [readOn, lines]
    rfl
  by_cases hcr : c = '\r'
  · subst hcr
    by_cases hcrlf : ∃ t, rest = '\n' :: t
    · -- the newline belongs to the same line, and to a line of its own when the text is cut there
      obtain ⟨t, rfl⟩ := hcrlf
      rw [readOn, readOn, lines, lines, List.foldlM_cons, List.foldlM_cons, readLine_cons hstep]
    · rw [readOn, lines_cr fun t ht ↦ hcrlf ⟨t, ht⟩]
      rfl
  · exact readOn_cons hlf hcr hrest hstep

/-! ## Fields -/

/-- A field with its quotes doubled, up to the closing quote. -/
theorem readOn_quoted {text : List Char} : ∀ (field : List Char) (fields : List (List Char))
    (records : List (List (List Char))), rest ≠ [] →
    readOn ⟨.inQuotedField, field, fields, records⟩
        (text.flatMap (fun c ↦ if c = '"' then ['"', '"'] else [c]) ++ '"' :: rest)
      = readOn ⟨.quoteInQuotedField, field ++ text, fields, records⟩ rest := by
  induction text with
  | nil =>
    intro field fields records hrest
    rw [List.append_nil]
    exact readOn_cons (by decide) (by decide) hrest rfl
  | cons c text ih =>
    intro field fields records hrest
    rw [List.flatMap_cons, List.append_assoc, List.append_cons field]
    by_cases hquote : c = '"'
    · rw [if_pos hquote, hquote]
      -- the first quote could be the last one, and the second one says that it is not
      refine Eq.trans ?_ (ih _ _ _ hrest)
      exact (readOn_cons (by decide) (by decide) (by simp) rfl).trans
        (readOn_cons (by decide) (by decide) (by simp) rfl)
    · rw [if_neg hquote]
      exact (readOn_inQuotedField hquote (by simp) _ _ _).trans (ih _ _ _ hrest)

/-- A state in which a field begins. -/
def AtField (state : State) : Prop := state = .startRecord ∨ state = .startField

/-- The states behind a field that is not ended yet. -/
def AfterField (state : State) : Prop :=
  state = .startField ∨ state = .inField ∨ state = .quoteInQuotedField

theorem plain_of_not_any {field : List Char} (h : ¬ field.any isSpecial = true) : Plain field := by
  intro c hc
  by_contra hspecial
  exact h (List.any_eq_true.mpr ⟨c, hc, Bool.not_eq_false _ ▸ hspecial⟩)

theorem Reader.Plain.inner {field : List Char} (h : Plain field) :
    ∀ c ∈ field, c ≠ '\n' ∧ c ≠ '\r' := fun c hc ↦
  ⟨by rintro rfl; exact absurd (h _ hc) (by decide),
    by rintro rfl; exact absurd (h _ hc) (by decide)⟩

/-- **A field that is written** is read, and the reader waits for what ends it. An empty one in
front of a record leaves no trace yet. -/
theorem readOn_writeField (field : List Char) (fields : List (List Char))
    (records : List (List (List Char))) {state : State} (hstate : AtField state)
    (hrest : rest ≠ []) :
    ∃ state', (AfterField state' ∨ state' = state ∧ field = []) ∧
      readOn ⟨state, [], fields, records⟩ (writeField field ++ rest)
        = readOn ⟨state', field, fields, records⟩ rest := by
  rw [writeField]
  split
  · refine ⟨.quoteInQuotedField, .inl (.inr (.inr rfl)), ?_⟩
    have hopen : processChar ⟨state, [], fields, records⟩ '"'
        = .ok ⟨.inQuotedField, [], fields, records⟩ := by
      rcases hstate with rfl | rfl <;> rfl
    rw [List.append_assoc, List.append_assoc, List.singleton_append, List.singleton_append,
      readOn_cons (by decide) (by decide) (by simp) hopen, readOn_quoted _ _ _ hrest,
      List.nil_append]
  · rename_i hany
    have hplain := plain_of_not_any hany
    have hstate' : state = .startRecord ∨ state = .startField ∨ state = .inField := by
      rcases hstate with h | h
      · exact .inl h
      · exact .inr (.inl h)
    rcases foldlM_plain hplain [] fields records state hstate' with ⟨rfl, -⟩ | hread
    · exact ⟨state, .inr ⟨rfl, rfl⟩, rfl⟩
    · exact ⟨.inField, .inl (.inr (.inl rfl)), readOn_append hplain.inner hrest hread⟩

theorem readOn_comma (field : List Char) (fields : List (List Char))
    (records : List (List (List Char))) {state : State}
    (hstate : AfterField state ∨ AtField state ∧ field = []) (hrest : rest ≠ []) :
    readOn ⟨state, field, fields, records⟩ (',' :: rest)
      = readOn ⟨.startField, [], fields ++ [field], records⟩ rest := by
  refine readOn_cons (by decide) (by decide) hrest ?_
  rcases hstate with (rfl | rfl | rfl) | ⟨rfl | rfl, rfl⟩ <;> rfl

theorem readOn_crlf (field : List Char) (fields : List (List Char))
    (records : List (List (List Char))) {state : State} (hstate : AfterField state) :
    readOn ⟨state, field, fields, records⟩ ('\r' :: '\n' :: rest)
      = readOn ⟨.startRecord, [], [], records ++ [fields ++ [field]]⟩ rest := by
  rw [readOn, lines]
  rcases hstate with rfl | rfl | rfl <;> rfl

/-! ## Rows -/

/-- The fields that are left of a row. -/
theorem readOn_fields {row : List (List Char)} : ∀ (field : List Char) (fields : List (List Char))
    (records : List (List (List Char))),
    readOn ⟨.startField, [], fields, records⟩
        ([','].intercalate ((field :: row).map writeField) ++ '\r' :: '\n' :: rest)
      = readOn ⟨.startRecord, [], [], records ++ [fields ++ field :: row]⟩ rest := by
  induction row with
  | nil =>
    intro field fields records
    obtain ⟨state, hstate, hread⟩ := @readOn_writeField ('\r' :: '\n' :: rest) field fields records
      .startField (.inr rfl) (List.cons_ne_nil _ _)
    have hafter : AfterField state := by
      rcases hstate with h | ⟨rfl, -⟩
      · exact h
      · exact .inl rfl
    rw [List.map_singleton, List.intercalate_singleton, hread, readOn_crlf _ _ _ hafter]
  | cons field' row ih =>
    intro field fields records
    obtain ⟨state, hstate, hread⟩ := @readOn_writeField
      (',' :: ([','].intercalate ((field' :: row).map writeField) ++ '\r' :: '\n' :: rest))
        field fields
      records .startField (.inr rfl) (List.cons_ne_nil _ _)
    have hat : AfterField state ∨ AtField state ∧ field = [] := by
      rcases hstate with h | ⟨rfl, hnil⟩
      · exact .inl h
      · exact .inr ⟨.inr rfl, hnil⟩
    rw [List.map_cons, List.map_cons, List.intercalate_cons_cons, List.append_assoc,
      List.append_assoc, List.singleton_append, ← List.map_cons, hread,
      readOn_comma _ _ _ hat (by simp), ih, List.append_assoc, List.singleton_append]

/-- **A row that is written** is one record. -/
theorem readOn_writerow {row : List (List Char)} (hlen : 2 ≤ row.length)
    (records : List (List (List Char))) :
    readOn ⟨.startRecord, [], [], records⟩ (writerow row ++ rest)
      = readOn ⟨.startRecord, [], [], records ++ [row]⟩ rest := by
  match row, hlen with
  | field :: field' :: row, _ =>
    have hne : field :: field' :: row ≠ [[]] := by simp
    obtain ⟨state, hstate, hread⟩ := @readOn_writeField
      (',' :: ([','].intercalate ((field' :: row).map writeField) ++ '\r' :: '\n' :: rest)) field []
      records .startRecord (.inl rfl) (List.cons_ne_nil _ _)
    have hat : AfterField state ∨ AtField state ∧ field = [] := by
      rcases hstate with h | ⟨rfl, hnil⟩
      · exact .inl h
      · exact .inr ⟨.inl rfl, hnil⟩
    rw [writerow, if_neg hne, List.map_cons, List.map_cons, List.intercalate_cons_cons,
      List.append_assoc, List.append_assoc, List.append_assoc, List.singleton_append,
      ← List.map_cons]
    exact hread.trans ((readOn_comma _ _ _ hat (by simp)).trans (readOn_fields _ _ _))

/-- **Rows that are written are read back**, whatever is in their fields. -/
theorem read_writerow {rows : List (List (List Char))} (h : ∀ row ∈ rows, 2 ≤ row.length) :
    read (rows.flatMap writerow) = .ok rows := by
  have hrows : ∀ (rows : List (List (List Char))) (records : List (List (List Char))),
      (∀ row ∈ rows, 2 ≤ row.length) →
      readOn ⟨.startRecord, [], [], records⟩ (rows.flatMap writerow)
        = .ok ⟨.startRecord, [], [], records ++ rows⟩ := by
    intro rows
    induction rows with
    | nil =>
      intro records _
      rw [List.append_nil]
      rfl
    | cons row rows ih =>
      intro records h
      obtain ⟨hrow, hrows⟩ := List.forall_mem_cons.mp h
      rw [List.flatMap_cons, readOn_writerow hrow, ih _ hrows, List.append_assoc,
        List.singleton_append]
  have hread : readLines (rows.flatMap writerow) = .ok ⟨.startRecord, [], [], rows⟩ :=
    hrows rows [] h
  rw [read, hread]
  rfl

end Csv
