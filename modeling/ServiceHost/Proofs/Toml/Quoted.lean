import Mathlib.Algebra.Group.Nat.Defs
import Mathlib.Data.List.TakeWhile
import ServiceHost.Proofs.Text.Digit
import ServiceHost.Toml.Statement

/-! Texts between double quotes and keys, by grammar, and the readers on what the grammar derives. Each is read
back whatever follows it, as long as what follows does not belong to it. -/

namespace ServiceHost.Toml

open Text (digit? digitsValue)

/-! ## Scanning -/

/-- No scan for these characters goes on here. -/
def Stops (p : Char → Bool) (rest : List Char) : Prop := ∀ c ∈ rest.head?, p c = false

@[simp]
theorem stops_nil (p : Char → Bool) : Stops p [] := nofun

@[simp]
theorem stops_cons {p : Char → Bool} {c : Char} {rest : List Char} :
    Stops p (c :: rest) ↔ p c = false := by
  simp [Stops]

theorem takeWhile_stops {p : Char → Bool} {w rest : List Char} (all : ∀ c ∈ w, p c = true)
    (stops : Stops p rest) : (w ++ rest).takeWhile p = w := by
  rw [List.takeWhile_append_of_pos all]
  cases rest with
  | nil => rw [List.takeWhile_nil, List.append_nil]
  | cons c rest => rw [List.takeWhile_cons, stops_cons.1 stops, if_neg Bool.false_ne_true, List.append_nil]

theorem dropWhile_stops {p : Char → Bool} {w rest : List Char} (all : ∀ c ∈ w, p c = true)
    (stops : Stops p rest) : (w ++ rest).dropWhile p = rest := by
  rw [List.dropWhile_append_of_pos all]
  cases rest with
  | nil => rfl
  | cons c rest => rw [List.dropWhile_cons, stops_cons.1 stops, if_neg Bool.false_ne_true]

/-! ## Texts between double quotes -/

/-- The characters with an escape of one letter, after the letter. -/
def shortEscapes : List (Char × Char) :=
  [('b', '\x08'), ('t', '\t'), ('n', '\n'), ('f', '\x0c'), ('r', '\r'), ('"', '"'), ('\\', '\\')]

/-- How a character is written between double quotes: as it is, by a short escape, or by its code point. -/
inductive WritesChar : Char → List Char → Prop
  | plain {c : Char} (line : isLineChar c = true) (quote : c ≠ '"') (backslash : c ≠ '\\') : WritesChar c [c]
  | short {e c : Char} (listed : (e, c) ∈ shortEscapes) : WritesChar c ['\\', e]
  | code {c : Char} {u : Char} {digits : List Char} {ds : List Nat}
      (long : u = 'u' ∧ digits.length = 4 ∨ u = 'U' ∧ digits.length = 8)
      (read : digits.mapM (digit? 16) = some ds) (value : digitsValue 16 ds = c.toNat) :
      WritesChar c ('\\' :: u :: digits)

inductive WritesChars : List Char → List Char → Prop
  | nil : WritesChars [] []
  | cons {c : Char} {cs w v : List Char} (first : WritesChar c w) (rest : WritesChars cs v) :
      WritesChars (c :: cs) (w ++ v)

/-- How a text is written between double quotes on one line. -/
inductive WritesText (s : String) : List Char → Prop
  | mk {w : List Char} (chars : WritesChars s.toList w) : WritesText s ('"' :: w ++ ['"'])

theorem simpleEscape?_of_listed {e c : Char} (listed : (e, c) ∈ shortEscapes) : simpleEscape? e = some c := by
  simp only [shortEscapes, List.mem_cons, Prod.mk.injEq, List.not_mem_nil, or_false] at listed
  rcases listed with ⟨rfl, rfl⟩ | ⟨rfl, rfl⟩ | ⟨rfl, rfl⟩ | ⟨rfl, rfl⟩ | ⟨rfl, rfl⟩ | ⟨rfl, rfl⟩ | ⟨rfl, rfl⟩ <;>
    rfl

theorem codePoint?_of_value {c : Char} {digits : List Char} {ds : List Nat}
    (read : digits.mapM (digit? 16) = some ds) (value : digitsValue 16 ds = c.toNat) :
    codePoint? digits = some c := by
  have valid : c.toNat.isValidChar := c.valid
  simp only [codePoint?, read, Option.bind_eq_bind, Option.bind_some, value, valid, if_true,
    Char.ofNat_toNat]

theorem readBasic_char {c : Char} {w : List Char} (writes : WritesChar c w) (acc rest : List Char) :
    readBasic acc (w ++ rest) = readBasic (c :: acc) rest := by
  cases writes with
  | plain line quote backslash =>
    rw [List.singleton_append, readBasic.eq_6]
    · simp [line, backslash]
    all_goals simp [quote, backslash]
  | @short e _ listed =>
    have escape := simpleEscape?_of_listed listed
    have noCode : e ≠ 'u' ∧ e ≠ 'U' := by
      constructor <;> rintro rfl <;> cases escape
    rw [List.cons_append, List.singleton_append, readBasic.eq_5]
    · simp only [escape]
    all_goals simp [noCode]
  | @code _ u digits ds long read value =>
    have point := codePoint?_of_value read value
    rcases long with ⟨rfl, four⟩ | ⟨rfl, eight⟩
    · obtain ⟨a, b, c, d, rfl⟩ : ∃ a b c d, digits = [a, b, c, d] := by
        match digits, four with
        | [a, b, c, d], _ => exact ⟨a, b, c, d, rfl⟩
      simp only [List.cons_append, List.nil_append, readBasic, point]
    · obtain ⟨a, b, c, d, e, f, g, h, rfl⟩ : ∃ a b c d e f g h, digits = [a, b, c, d, e, f, g, h] := by
        match digits, eight with
        | [a, b, c, d, e, f, g, h], _ => exact ⟨a, b, c, d, e, f, g, h, rfl⟩
      simp only [List.cons_append, List.nil_append, readBasic, point]

theorem readBasic_chars {cs w : List Char} (writes : WritesChars cs w) (acc rest : List Char) :
    readBasic acc (w ++ '"' :: rest) = some (String.ofList (acc.reverse ++ cs), rest) := by
  induction writes generalizing acc with
  | nil => rw [List.nil_append, readBasic, List.append_nil]
  | cons first _ ih =>
    rw [List.append_assoc, readBasic_char first, ih, List.reverse_cons, List.append_assoc,
      List.singleton_append]

/-- A quote inside a text is escaped. -/
theorem WritesChars.head_ne_quote {cs w : List Char} (writes : WritesChars cs w) : w.head? ≠ some '"' := by
  cases writes with
  | nil => simp
  | cons first => cases first <;> simp [*]

theorem readText_writes {s : String} {w : List Char} (writes : WritesText s w) {rest : List Char}
    (apart : rest.head? ≠ some '"') : readText (w ++ rest) = some (s, rest) := by
  obtain @⟨w, chars⟩ := writes
  have read := readBasic_chars chars [] rest
  rw [List.cons_append, List.cons_append, List.append_assoc, List.singleton_append, readText.eq_3, read]
  · simp
  · intro more same
    cases w with
    | nil =>
      rw [List.nil_append, List.cons.injEq] at same
      simp [same.2] at apart
    | cons c w =>
      rw [List.cons_append, List.cons.injEq] at same
      exact chars.head_ne_quote (by rw [same.1, List.head?_cons])

/-- A number below a power of sixteen has that many digits. -/
theorem exists_digits (k : Nat) {n : Nat} (small : n < 16 ^ k) :
    ∃ (digits : List Char) (ds : List Nat), digits.length = k ∧ digits.mapM (digit? 16) = some ds ∧
      digitsValue 16 ds = n := by
  induction k generalizing n with
  | zero => exact ⟨[], [], rfl, rfl, by simp [digitsValue]; omega⟩
  | succ k ih =>
    obtain ⟨digits, ds, length, read, value⟩ := ih (n := n / 16) (by rw [Nat.pow_succ] at small; omega)
    have last : digit? 16 (Nat.digitChar (n % 16)) = some (n % 16) :=
      Text.digit?_digitChar (Nat.mod_lt _ (by decide)) (by decide)
    refine ⟨digits ++ [Nat.digitChar (n % 16)], ds ++ [n % 16], by simp [length], ?_, ?_⟩
    · simp [List.mapM_append, read, last]
    · rw [digitsValue] at value ⊢
      rw [List.foldl_append, value, List.foldl_cons, List.foldl_nil]
      omega

/-- Every text can be written, if need be in code points. -/
theorem exists_writesText (s : String) : ∃ w, WritesText s w := by
  have char (c : Char) : ∃ w, WritesChar c w := by
    have small : c.toNat < 16 ^ 8 := by
      have valid : c.toNat.isValidChar := c.valid
      simp only [Nat.isValidChar] at valid
      omega
    obtain ⟨digits, ds, length, read, value⟩ := exists_digits 8 small
    exact ⟨_, .code (.inr ⟨rfl, length⟩) read value⟩
  have chars (cs : List Char) : ∃ w, WritesChars cs w := by
    induction cs with
    | nil => exact ⟨_, .nil⟩
    | cons c cs ih =>
      obtain ⟨_, first⟩ := char c
      obtain ⟨_, rest⟩ := ih
      exact ⟨_, .cons first rest⟩
  obtain ⟨_, written⟩ := chars s.toList
  exact ⟨_, .mk written⟩

/-! ## Keys -/

/-- How a key is written: bare, or as a text between quotes of either kind. -/
inductive WritesKey (k : String) : List Char → Prop
  | bare (nonempty : k.toList ≠ []) (plain : ∀ c ∈ k.toList, isBareKeyChar c = true) : WritesKey k k.toList
  | quoted {w : List Char} (text : WritesText k w) : WritesKey k w
  | literal (plain : ∀ c ∈ k.toList, isLineChar c = true ∧ c ≠ '\'') :
      WritesKey k ('\'' :: k.toList ++ ['\''])

theorem readLiteral_line {cs : List Char} (plain : ∀ c ∈ cs, isLineChar c = true ∧ c ≠ '\'')
    (acc rest : List Char) :
    readLiteral acc (cs ++ '\'' :: rest) = some (String.ofList (acc.reverse ++ cs), rest) := by
  induction cs generalizing acc with
  | nil => rw [List.nil_append, readLiteral, List.append_nil]
  | cons c cs ih =>
    obtain ⟨line, tick⟩ := plain c List.mem_cons_self
    rw [List.cons_append, readLiteral.eq_3, if_pos line, ih fun d mem => plain d (List.mem_cons_of_mem _ mem),
      List.reverse_cons, List.append_assoc, List.singleton_append]
    simp [tick]

theorem readKey_writes {k : String} {w : List Char} (writes : WritesKey k w) {rest : List Char}
    (stops : Stops isBareKeyChar rest) : readKey (w ++ rest) = some (k, rest) := by
  cases writes with
  | quoted text =>
    obtain @⟨w, chars⟩ := text
    have read := readBasic_chars chars [] rest
    rw [List.cons_append, List.cons_append, List.append_assoc, List.singleton_append, readKey, read]
    simp
  | literal plain =>
    rw [List.cons_append, List.cons_append, List.append_assoc, List.singleton_append, readKey,
      readLiteral_line plain]
    simp
  | bare nonempty plain =>
    obtain ⟨c, cs, front⟩ := List.exists_cons_of_ne_nil nonempty
    have bare : isBareKeyChar c = true := plain c (by rw [front]; exact List.mem_cons_self)
    have taken : (k.toList ++ rest).takeWhile isBareKeyChar = k.toList := takeWhile_stops plain stops
    have left : (k.toList ++ rest).dropWhile isBareKeyChar = rest := dropWhile_stops plain stops
    have back : String.ofList (c :: cs) = k := by rw [← front, String.ofList_toList]
    rw [readKey.eq_3, taken, left]
    · simp only [front, back]
    all_goals
      intro more same
      rw [front, List.cons_append, List.cons.injEq] at same
      rw [same.1] at bare
      exact absurd bare (by decide)

theorem WritesKey.lead {k : String} {w : List Char} (writes : WritesKey k w) :
    ∃ c v, w = c :: v ∧ (c = '"' ∨ c = '\'' ∨ isBareKeyChar c = true) := by
  cases writes with
  | quoted text => cases text with | mk => exact ⟨_, _, rfl, .inl rfl⟩
  | literal => exact ⟨_, _, rfl, .inr (.inl rfl)⟩
  | bare nonempty plain =>
    obtain ⟨c, cs, front⟩ := List.exists_cons_of_ne_nil nonempty
    exact ⟨c, cs, front, .inr (.inr (plain c (by rw [front]; exact List.mem_cons_self)))⟩

/-- No key begins with a blank or a bracket. -/
theorem WritesKey.stops {k : String} {w : List Char} (writes : WritesKey k w) (rest : List Char) :
    Stops isBlank (w ++ rest) ∧ (w ++ rest).head? ≠ some '[' := by
  obtain ⟨c, v, rfl, rfl | rfl | bare⟩ := writes.lead
  · exact ⟨stops_cons.2 rfl, by simp⟩
  · exact ⟨stops_cons.2 rfl, by simp⟩
  · have other (d : Char) (no : isBareKeyChar d = false) : c ≠ d := by
      rintro rfl
      rw [no] at bare
      cases bare
    refine ⟨stops_cons.2 ?_, by simpa using other '[' (by decide)⟩
    simp [isBlank, other ' ' (by decide), other '\t' (by decide)]

/-! ## Blanks and paths -/

def Blanks (b : List Char) : Prop := ∀ c ∈ b, isBlank c = true

theorem skipBlanks_blanks {b rest : List Char} (blanks : Blanks b) (stops : Stops isBlank rest) :
    skipBlanks (b ++ rest) = rest :=
  dropWhile_stops blanks stops

/-- A key with blanks around it is a path when it is followed by an equals sign or a closing bracket. -/
theorem readPath_writes {k : String} {b w b' : List Char} (before : Blanks b) (writes : WritesKey k w)
    (after : Blanks b') {c : Char} (mark : c = '=' ∨ c = ']') (rest : List Char) :
    readPath (b ++ (w ++ (b' ++ c :: rest))) = some ([k], c :: rest) := by
  have solid : Stops isBlank (c :: rest) := by
    rw [stops_cons]
    rcases mark with rfl | rfl <;> rfl
  have noKey : Stops isBareKeyChar (b' ++ c :: rest) := by
    cases b' with
    | nil =>
      rw [List.nil_append, stops_cons]
      rcases mark with rfl | rfl <;> rfl
    | cons d b' =>
      have blank := after d List.mem_cons_self
      simp only [isBlank, Bool.or_eq_true, beq_iff_eq] at blank
      rw [List.cons_append, stops_cons]
      rcases blank with rfl | rfl <;> rfl
  rw [readPath, nestingLimit, readPathWithin.eq_2, skipBlanks_blanks before (writes.stops _).1,
    readKey_writes writes noKey]
  simp only [skipBlanks_blanks after solid]
  rcases mark with rfl | rfl <;> rfl

end ServiceHost.Toml
