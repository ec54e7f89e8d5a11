import ServiceHost.Proofs.Toml.Words

/-! A TOML text line by line. A line has blanks, a statement or none, a comment or none, and an end; the
statements are read back one by one, however the lines are laid out. -/

namespace ServiceHost.Toml

/-! ## Line ends -/

/-- What is left of a line, in front of the other lines; the last line needs no end. -/
inductive LineEnd : List Char → List Char → Prop
  | next {b m n : List Char} (blanks : Blanks b) (comment : m = [] ∨ Comment m) (newline : Newline n)
      (rest : List Char) : LineEnd (b ++ (m ++ n)) rest
  | last {b m : List Char} (blanks : Blanks b) (comment : m = [] ∨ Comment m) : LineEnd (b ++ m) []

/-- A line is over at the end of the text and at these characters. -/
def AtLineEnd (rest : List Char) : Prop :=
  rest = [] ∨ ∃ c more, rest = c :: more ∧ (isBlank c = true ∨ c = '#' ∨ c = '\n' ∨ c = '\r')

theorem LineEnd.atLineEnd {e rest : List Char} (ends : LineEnd e rest) : AtLineEnd (e ++ rest) := by
  have blank {b : List Char} (blanks : Blanks b) {more : List Char} (after : AtLineEnd more) :
      AtLineEnd (b ++ more) := by
    cases b with
    | nil => exact after
    | cons c b => exact .inr ⟨c, b ++ more, rfl, .inl (blanks c List.mem_cons_self)⟩
  cases ends with
  | next blanks comment newline =>
    rw [List.append_assoc]
    refine blank blanks ?_
    rcases comment with rfl | @⟨_, line⟩
    · cases newline <;> exact .inr ⟨_, _, rfl, by decide⟩
    · exact .inr ⟨_, _, rfl, by decide⟩
  | last blanks comment =>
    rw [List.append_assoc]
    refine blank blanks ?_
    rcases comment with rfl | @⟨_, line⟩
    · exact .inl rfl
    · exact .inr ⟨_, _, rfl, by decide⟩

theorem AtLineEnd.stops_word {rest : List Char} (ended : AtLineEnd rest) : Stops (!endsWord ·) rest := by
  rcases ended with rfl | ⟨c, more, rfl, blank | mark⟩
  · exact stops_nil _
  · simp [endsWord, blank]
  · rcases mark with rfl | rfl | rfl <;> simp [endsWord]

theorem AtLineEnd.head_ne_quote {rest : List Char} (ended : AtLineEnd rest) : rest.head? ≠ some '"' := by
  rcases ended with rfl | ⟨c, more, rfl, blank | mark⟩
  · simp
  · rw [List.head?_cons, ne_eq, Option.some.injEq]
    rintro rfl
    cases blank
  · rcases mark with rfl | rfl | rfl <;> simp

theorem skipComment_line {m rest : List Char} (comment : m = [] ∨ Comment m)
    (ended : rest = [] ∨ ∃ c more, rest = c :: more ∧ (c = '\n' ∨ c = '\r')) :
    skipComment (m ++ rest) = rest := by
  have stops : Stops isLineChar rest := by
    rcases ended with rfl | ⟨c, more, rfl, rfl | rfl⟩ <;> simp [isLineChar]
  rcases comment with rfl | @⟨_, line⟩
  · rcases ended with rfl | ⟨c, more, rfl, rfl | rfl⟩ <;> rfl
  · exact dropWhile_stops line stops

theorem endLine?_lineEnd {e rest : List Char} (ends : LineEnd e rest) : endLine? (e ++ rest) = some rest := by
  have solid {m more : List Char} (comment : m = [] ∨ Comment m) (stops : Stops isBlank more) :
      Stops isBlank (m ++ more) := by
    rcases comment with rfl | @⟨_, line⟩
    · exact stops
    · exact stops_cons.2 rfl
  cases ends with
  | @next b m n blanks comment newline =>
    have ended : ∃ c more, n ++ rest = c :: more ∧ (c = '\n' ∨ c = '\r') := by
      cases newline <;> exact ⟨_, _, rfl, by decide⟩
    have stops : Stops isBlank (n ++ rest) := by cases newline <;> exact stops_cons.2 rfl
    rw [List.append_assoc, List.append_assoc, endLine?, skipBlanks_blanks blanks (solid comment stops),
      skipComment_line comment (.inr ended)]
    cases newline <;> rfl
  | @last b m blanks comment =>
    rw [List.append_assoc, endLine?, skipBlanks_blanks blanks (solid comment (stops_nil _)),
      skipComment_line comment (.inl rfl)]

/-! ## Where no statement begins -/

theorem readPath_eq_none {c : Char} (bare : isBareKeyChar c = false)
    (other : isBlank c = false ∧ c ≠ '"' ∧ c ≠ '\'') (rest : List Char) : readPath (c :: rest) = none := by
  have kept : skipBlanks (c :: rest) = c :: rest := skipBlanks_blanks (b := []) nofun (stops_cons.2 other.1)
  have taken : (c :: rest).takeWhile isBareKeyChar = [] := takeWhile_stops (w := []) nofun (stops_cons.2 bare)
  have none : readKey (c :: rest) = none := by
    rw [readKey.eq_3, taken]
    all_goals simp [other]
  rw [readPath, nestingLimit, readPathWithin.eq_2, kept, none]

theorem readStatement_eq_none {c : Char} (bare : isBareKeyChar c = false)
    (other : isBlank c = false ∧ c ≠ '"' ∧ c ≠ '\'') (bracket : c ≠ '[') (fuel : Nat) (rest : List Char) :
    readStatement fuel (c :: rest) = none := by
  rw [readStatement.eq_3, readPath_eq_none bare other]
  all_goals simp [bracket]

/-- A line that is over has no statement. -/
theorem endLine?_eq_none {fuel : Nat} {s rest : List Char} {t : Statement}
    (read : readStatement fuel (skipBlanks s) = some (t, rest)) : endLine? s = none := by
  unfold endLine?
  cases left : skipBlanks s with
  | nil =>
    rw [left] at read
    cases read
  | cons c more =>
    have unlike {d : Char} (bare : isBareKeyChar d = false)
        (other : isBlank d = false ∧ d ≠ '"' ∧ d ≠ '\'') (bracket : d ≠ '[') : c ≠ d := by
      rintro rfl
      rw [left, readStatement_eq_none bare other bracket] at read
      cases read
    have mark : c ≠ '#' := unlike (by decide) (by decide) (by decide)
    have lf : c ≠ '\n' := unlike (by decide) (by decide) (by decide)
    have cr : c ≠ '\r' := unlike (by decide) (by decide) (by decide)
    have kept : skipComment (c :: more) = c :: more := by
      rw [skipComment.eq_2]
      simp [mark]
    simp only [kept]
    rw [newline?.eq_3] <;> simp [lf, cr]

/-! ## Statements -/

/-- The text is this value, whatever ends the line. -/
structure ReadsAsTerm (v : List Char) (t : Term) : Prop where
  solid : ∀ rest, Stops isBlank (v ++ rest)
  reads : ∀ fuel rest, v.length + rest.length < fuel → AtLineEnd rest →
    readTerm (nestingLimit - 1) fuel (v ++ rest) = some (t, rest)

theorem readsAsTerm_word {v : Scalar} {w : List Char} (word : IsWord v w) : ReadsAsTerm w (.scalar v) where
  solid rest := by
    obtain ⟨c, more, rfl, -⟩ := word.bare
    have joined := word.joined c List.mem_cons_self
    simp only [endsWord, Bool.or_eq_false_iff] at joined
    exact stops_cons.2 (by simp [joined])
  reads fuel rest room ended := by
    obtain ⟨fuel, rfl⟩ : ∃ k, fuel = k + 1 := ⟨fuel - 1, by omega⟩
    exact readTerm_word word ended.stops_word _ fuel

theorem readsAsTerm_text {s : String} {w : List Char} (writes : WritesText s w) :
    ReadsAsTerm w (.scalar (.text s)) where
  solid rest := by
    cases writes with
    | mk => exact stops_cons.2 rfl
  reads fuel rest room ended := by
    obtain ⟨fuel, rfl⟩ : ∃ k, fuel = k + 1 := ⟨fuel - 1, by omega⟩
    exact readTerm_text writes ended.head_ne_quote _ fuel

theorem readsAsTerm_texts {ss : List String} {w : List Char} (writes : WritesTexts ss w) :
    ReadsAsTerm w (.array (ss.map fun s => .scalar (.text s))) where
  solid rest := by
    cases writes with
    | mk => exact stops_cons.2 rfl
  reads fuel rest room _ := readTerm_texts writes _ (by omega) rest

/-- The text is this statement, whatever ends the line. -/
structure ReadsAs (x : List Char) (t : Statement) : Prop where
  solid : Stops isBlank x
  reads : ∀ fuel e rest, x.length + e.length + rest.length < fuel → LineEnd e rest →
    readStatement fuel (x ++ (e ++ rest)) = some (t, e ++ rest)

theorem ReadsAs.ne_nil {x : List Char} {t : Statement} (reads : ReadsAs x t) : x ≠ [] := by
  rintro rfl
  have read := reads.reads 1 [] [] Nat.one_pos (.last (b := []) (m := []) nofun (.inl rfl))
  cases read

theorem readsAs_header {k : String} {b w b' : List Char} (before : Blanks b) (key : WritesKey k w)
    (after : Blanks b') : ReadsAs ('[' :: (b ++ (w ++ (b' ++ [']'])))) (.header [k]) where
  solid := stops_cons.2 rfl
  reads fuel e rest _ _ := by
    have path := readPath_writes before key after (.inr rfl) (e ++ rest)
    simp only [List.cons_append, List.append_assoc, List.nil_append]
    rw [readStatement.eq_2, path]
    · rfl
    intro more same
    cases b with
    | nil => exact (key.stops _).2 (by rw [← List.nil_append (w ++ _), same]; rfl)
    | cons c b =>
      have blank := before c List.mem_cons_self
      rw [List.cons_append, List.cons.injEq] at same
      rw [same.1] at blank
      cases blank

theorem readsAs_entry {k : String} {w b b' v : List Char} {t : Term} (key : WritesKey k w) (before : Blanks b)
    (after : Blanks b') (term : ReadsAsTerm v t) :
    ReadsAs (w ++ (b ++ '=' :: (b' ++ v))) (.entry [k] t) where
  solid := by
    obtain ⟨c, more, rfl, -⟩ := key.lead
    have solid := (key.stops []).1
    rw [List.cons_append, stops_cons] at solid ⊢
    exact solid
  reads fuel e rest room ends := by
    have path := readPath_writes (b := []) nofun key before (.inl rfl) (b' ++ (v ++ (e ++ rest)))
    have bracket := (key.stops (b ++ '=' :: (b' ++ (v ++ (e ++ rest))))).2
    simp only [List.cons_append, List.append_assoc, List.nil_append, List.length_append,
      List.length_cons] at path room ⊢
    rw [readStatement.eq_3, path]
    · simp only [skipBlanks_blanks after (term.solid _)]
      rw [term.reads fuel _ (by rw [List.length_append]; omega) ends.atLineEnd]
      rfl
    all_goals
      intro more same
      rw [same] at bracket
      exact bracket rfl

/-! ## Lines -/

/-- The text of some lines, in which each of these has a line of its own. -/
inductive Lines {α : Type} (Says : α → List Char → Prop) : List α → List Char → Prop
  | done : Lines Says [] []
  | blank {as : List α} {e s : List Char} (ends : LineEnd e s) (more : Lines Says as s) :
      Lines Says as (e ++ s)
  | line {a : α} {as : List α} {b x e s : List Char} (blanks : Blanks b) (states : Says a x)
      (ends : LineEnd e s) (more : Lines Says as s) : Lines Says (a :: as) (b ++ (x ++ (e ++ s)))

/-- A line without blanks around it and without a comment. -/
theorem Lines.plain {α : Type} {Says : α → List Char → Prop} {a : α} {as : List α} {x s : List Char}
    (states : Says a x) (more : Lines Says as s) : Lines Says (a :: as) (x ++ '\n' :: s) :=
  .line (b := []) (e := ['\n']) nofun states (.next (b := []) (m := []) nofun (.inl rfl) .lf s) more

theorem exists_lines {α : Type} {Says : α → List Char → Prop} {as : List α}
    (written : ∀ a ∈ as, ∃ x, Says a x) : ∃ s, Lines Says as s := by
  induction as with
  | nil => exact ⟨_, .done⟩
  | cons a as ih =>
    obtain ⟨_, states⟩ := written a List.mem_cons_self
    obtain ⟨_, more⟩ := ih fun a mem => written a (List.mem_cons_of_mem _ mem)
    exact ⟨_, .plain states more⟩

section

variable {α : Type} {Says : α → List Char → Prop} {meaning : α → Statement} {as : List α}

theorem readStatements_lines (reads : ∀ a ∈ as, ∀ x, Says a x → ReadsAs x (meaning a)) {s : List Char}
    (lines : Lines Says as s) (acc : List Statement) {fuel : Nat} (room : s.length < fuel) :
    readStatements acc fuel s = some (acc.reverse ++ as.map meaning) := by
  induction lines generalizing acc fuel with
  | done => rw [readStatements.eq_1, List.map_nil, List.append_nil]
  | @blank as e s ends _ ih =>
    cases e with
    | nil => exact ih reads acc room
    | cons c e =>
      obtain ⟨fuel, rfl⟩ : ∃ k, fuel = k + 1 := ⟨fuel - 1, by omega⟩
      simp only [List.cons_append, List.length_cons, List.length_append] at room
      rw [readStatements.eq_3, endLine?_lineEnd ends]
      · exact ih reads acc (by omega)
      · simp
  | @line a as b x e s blanks states ends _ ih =>
    obtain ⟨fuel, rfl⟩ : ∃ k, fuel = k + 1 := ⟨fuel - 1, by omega⟩
    have statement := reads a List.mem_cons_self x states
    obtain ⟨c, v, rfl⟩ := List.exists_cons_of_ne_nil statement.ne_nil
    simp only [List.length_append, List.length_cons] at room
    have solid : Stops isBlank (c :: v ++ (e ++ s)) := stops_cons.2 (stops_cons.1 statement.solid)
    have skipped := skipBlanks_blanks blanks solid
    have read := statement.reads (fuel + 1) e s (by rw [List.length_cons]; omega) ends
    rw [← skipped] at read
    rw [readStatements.eq_3, endLine?_eq_none read, read]
    · simp only [endLine?_lineEnd ends]
      rw [ih (fun a mem => reads a (List.mem_cons_of_mem _ mem)) (meaning a :: acc) (by omega),
        List.reverse_cons, List.append_assoc]
      rfl
    · simp

/-- No line begins with the mark that may begin a text. -/
theorem skipByteOrderMark_lines (reads : ∀ a ∈ as, ∀ x, Says a x → ReadsAs x (meaning a)) {s : List Char}
    (lines : Lines Says as s) : skipByteOrderMark s = s := by
  rw [skipByteOrderMark.eq_2]
  rintro rest rfl
  generalize front : '\uFEFF' :: rest = s at lines
  cases lines with
  | done => cases front
  | blank ends =>
    rcases ends.atLineEnd with none | ⟨c, more, same, ended⟩
    · rw [none] at front
      cases front
    · rw [same, List.cons.injEq] at front
      rw [← front.1] at ended
      exact absurd ended (by decide)
  | @line a _ b x e s blanks states ends =>
    cases b with
    | cons c b =>
      have blank := blanks c List.mem_cons_self
      rw [List.cons_append, List.cons.injEq] at front
      rw [← front.1] at blank
      cases blank
    | nil =>
      have read := (reads a List.mem_cons_self x states).reads _ e s (Nat.lt_succ_self _) ends
      rw [← List.nil_append (x ++ _), ← front,
        readStatement_eq_none (by decide) (by decide) (by decide)] at read
      cases read

/-- The statements of a text are those of its lines. -/
theorem statements?_lines (reads : ∀ a ∈ as, ∀ x, Says a x → ReadsAs x (meaning a)) {s : String}
    (lines : Lines Says as s.toList) : statements? s = some (as.map meaning) := by
  rw [statements?, skipByteOrderMark_lines reads lines,
    readStatements_lines reads lines [] (by rw [String.length_toList]; omega), List.reverse_nil,
    List.nil_append]

end

end ServiceHost.Toml
