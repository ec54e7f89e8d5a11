import ServiceHost.Json.Reader
import ServiceHost.Proofs.Json.Canonical
import ServiceHost.Proofs.Json.Tokens

/-! A written document read back. The reader inverts the tokens of a node; a value without floats is
written as the tokens of its node, and the value of that node is the value again. -/

namespace ServiceHost.Json

/-! ## Nodes and their tokens -/

namespace Node

mutual

def tokens : Node → List Token
  | .null => [.null]
  | .bool true => [.true]
  | .bool false => [.false]
  | .numeral n => [.numeral n]
  | .text s => [.text s]
  | .arr [] => [.openBracket, .closeBracket]
  | .arr (v :: rest) => .openBracket :: (v.tokens ++ itemTokens rest)
  | .obj [] => [.openBrace, .closeBrace]
  | .obj ((k, v) :: rest) => .openBrace :: .text k :: .colon :: (v.tokens ++ memberTokens rest)

/-- The items after the first, with the closing bracket. -/
def itemTokens : List Node → List Token
  | [] => [.closeBracket]
  | v :: rest => .comma :: (v.tokens ++ itemTokens rest)

def memberTokens : List (Option String × Node) → List Token
  | [] => [.closeBrace]
  | (k, v) :: rest => .comma :: .text k :: .colon :: (v.tokens ++ memberTokens rest)

end

theorem tokens_eq_cons (v : Node) : ∃ t ts, v.tokens = t :: ts ∧ t ≠ .closeBracket := by
  unfold tokens
  split <;> exact ⟨_, _, rfl, Token.noConfusion⟩

end Node

theorem readNode_openBracket {t : Token} (opens : t ≠ .closeBracket) (fuel : Nat) (ts : List Token) :
    readNode (fuel + 1) (.openBracket :: t :: ts) =
      (readItems fuel (t :: ts)).map fun r => (.arr r.1, r.2) := by
  cases t <;> first | exact absurd rfl opens | rfl

-- Each reader hands one unit of fuel less to the next, so the induction is on the fuel.
mutual

theorem readNode_tokens (v : Node) (fuel : Nat) (room : v.tokens.length ≤ fuel) (ts : List Token) :
    readNode fuel (v.tokens ++ ts) = some (v, ts) := by
  obtain ⟨fuel, rfl⟩ : ∃ k, fuel = k + 1 := by
    obtain ⟨t, more, shown, -⟩ := v.tokens_eq_cons
    exact ⟨fuel - 1, by simp [shown] at room; omega⟩
  match v with
  | .null => rfl
  | .bool true => rfl
  | .bool false => rfl
  | .numeral n => rfl
  | .text s => rfl
  | .arr [] => rfl
  | .arr (v :: rest) =>
    obtain ⟨t, more, shown, opens⟩ := v.tokens_eq_cons
    have items := readItems_tokens v rest fuel (by simpa [Node.tokens] using room) ts
    simp only [Node.tokens, shown, List.cons_append] at items ⊢
    rw [readNode_openBracket opens, items]
    rfl
  | .obj [] => rfl
  | .obj ((k, v) :: rest) =>
    have members := readMembers_tokens k v rest fuel (by simpa [Node.tokens] using room) ts
    simp only [Node.tokens, List.cons_append] at members ⊢
    rw [readNode, members]
    · rfl
    · simp
termination_by fuel

theorem readItems_tokens (v : Node) (rest : List Node) (fuel : Nat)
    (room : (v.tokens ++ Node.itemTokens rest).length ≤ fuel) (ts : List Token) :
    readItems fuel (v.tokens ++ Node.itemTokens rest ++ ts) = some (v :: rest, ts) := by
  match rest with
  | [] =>
    simp only [Node.itemTokens, List.length_append, List.length_singleton] at room
    obtain ⟨fuel, rfl⟩ : ∃ k, fuel = k + 1 := ⟨fuel - 1, by omega⟩
    rw [readItems, List.append_assoc, readNode_tokens v fuel (by omega)]
    rfl
  | w :: rest =>
    simp only [Node.itemTokens, List.length_append, List.length_cons] at room
    obtain ⟨fuel, rfl⟩ : ∃ k, fuel = k + 1 := ⟨fuel - 1, by omega⟩
    have more := readItems_tokens w rest fuel (by simp; omega) ts
    rw [readItems, List.append_assoc, readNode_tokens v fuel (by omega)]
    simpa [Node.itemTokens] using more
termination_by fuel

theorem readMembers_tokens (k : Option String) (v : Node) (rest : List (Option String × Node))
    (fuel : Nat)
    (room : (Token.text k :: .colon :: (v.tokens ++ Node.memberTokens rest)).length ≤ fuel)
    (ts : List Token) :
    readMembers fuel (Token.text k :: .colon :: (v.tokens ++ Node.memberTokens rest) ++ ts) =
      some ((k, v) :: rest, ts) := by
  match rest with
  | [] =>
    simp only [Node.memberTokens, List.length_append, List.length_cons] at room
    obtain ⟨fuel, rfl⟩ : ∃ k, fuel = k + 1 := ⟨fuel - 1, by omega⟩
    simp only [List.cons_append, List.append_assoc, readMembers]
    rw [readNode_tokens v fuel (by omega)]
    rfl
  | (l, w) :: rest =>
    simp only [Node.memberTokens, List.length_append, List.length_cons] at room
    obtain ⟨fuel, rfl⟩ : ∃ k, fuel = k + 1 := ⟨fuel - 1, by omega⟩
    have more := readMembers_tokens l w rest fuel (by simp; omega) ts
    simp only [List.cons_append, List.append_assoc, readMembers]
    rw [readNode_tokens v fuel (by omega)]
    simpa [Node.memberTokens] using more
termination_by fuel

end

/-! ## Values without floats -/

namespace Value

mutual

/-- No number is a float and every integer fits 64 bits, signed when it is negative. -/
def Integral : Value → Prop
  | .num (.int n) => -9223372036854775808 ≤ n ∧ n ≤ maxWord
  | .num (.float _) => False
  | .arr items => ItemsIntegral items
  | .obj members => MembersIntegral members
  | _ => True

def ItemsIntegral : List Value → Prop
  | [] => True
  | v :: rest => v.Integral ∧ ItemsIntegral rest

def MembersIntegral : List (String × Value) → Prop
  | [] => True
  | (_, v) :: rest => v.Integral ∧ MembersIntegral rest

end

mutual

/-- The node that a value is written as; a float, which has none of its own, counts as `null`. -/
def node : Value → Node
  | .null => .null
  | .bool b => .bool b
  | .num (.int n) => .numeral (.ofInt n)
  | .num (.float _) => .null
  | .str s => .text (some s)
  | .arr items => .arr (itemNodes items)
  | .obj members => .obj (memberNodes members)

def itemNodes : List Value → List Node
  | [] => []
  | v :: rest => v.node :: itemNodes rest

def memberNodes : List (String × Value) → List (Option String × Node)
  | [] => []
  | (k, v) :: rest => (some k, v.node) :: memberNodes rest

end

mutual

theorem depth_node : (v : Value) → v.node.depth = v.depth
  | .null | .bool _ | .num (.int _) | .num (.float _) | .str _ => rfl
  | .arr items => by simp only [node, Node.depth, depth, depth_itemNodes items]
  | .obj members => by simp only [node, Node.depth, depth, depth_memberNodes members]

theorem depth_itemNodes : (vs : List Value) → Node.depthItems (itemNodes vs) = depthItems vs
  | [] => rfl
  | v :: rest => by
    simp only [itemNodes, Node.depthItems, depthItems, depth_node v, depth_itemNodes rest]

theorem depth_memberNodes :
    (ms : List (String × Value)) → Node.depthMembers (memberNodes ms) = depthMembers ms
  | [] => rfl
  | (_, v) :: rest => by
    simp only [memberNodes, Node.depthMembers, depthMembers, depth_node v, depth_memberNodes rest]

end

theorem node_ne_null {v : Value} (plain : v.Integral) (present : v ≠ .null) : v.node ≠ .null := by
  unfold node
  split
  case h_1 => exact absurd rfl present
  case h_4 => exact absurd plain id
  all_goals exact Node.noConfusion

end Value

/-! ## Writing -/

theorem endsNumeral_writeItems (vs : List Value) (rest : List Char) :
    EndsNumeral (writeItems vs ++ rest) := by
  cases vs <;> simp [writeItems, EndsNumeral] <;> decide

theorem endsNumeral_writeMembers (ms : List (String × Value)) (rest : List Char) :
    EndsNumeral (writeMembers ms ++ rest) := by
  cases ms <;> simp [writeMembers, EndsNumeral] <;> decide

mutual

theorem lexes_writeValue (v : Value) (plain : v.Integral) {rest : List Char} {ts : List Token}
    (ends : EndsNumeral rest) (more : Lexes rest ts) :
    Lexes (writeValue v ++ rest) (v.node.tokens ++ ts) := by
  match v with
  | .null => exact more.front rfl rfl (by simp; omega)
  | .bool true => exact more.front rfl rfl (by simp; omega)
  | .bool false => exact more.front rfl rfl (by simp; omega)
  | .num (.int n) => exact more.integer ends
  | .str s => exact more.text
  | .arr [] =>
    have close : Lexes (']' :: rest) (.closeBracket :: ts) := more.mark rfl rfl
    exact close.mark rfl rfl
  | .arr (v :: vs) =>
    simp only [writeValue, Value.node, Value.itemNodes, Node.tokens, List.cons_append,
      List.append_assoc]
    have items := lexes_writeItems vs plain.2 more
    exact (lexes_writeValue v plain.1 (endsNumeral_writeItems vs rest) items).mark rfl rfl
  | .obj [] =>
    have close : Lexes ('\x7d' :: rest) (.closeBrace :: ts) := more.mark rfl rfl
    exact close.mark rfl rfl
  | .obj ((k, v) :: ms) =>
    simp only [writeValue, Value.node, Value.memberNodes, Node.tokens, List.cons_append,
      List.append_assoc]
    have members := lexes_writeMembers ms plain.2 more
    have value := lexes_writeValue v plain.1 (endsNumeral_writeMembers ms rest) members
    exact value.key.mark rfl rfl

theorem lexes_writeItems (vs : List Value) (plain : Value.ItemsIntegral vs) {rest : List Char}
    {ts : List Token} (more : Lexes rest ts) :
    Lexes (writeItems vs ++ rest) (Node.itemTokens (Value.itemNodes vs) ++ ts) := by
  match vs with
  | [] => exact more.mark rfl rfl
  | v :: vs =>
    simp only [writeItems, Value.itemNodes, Node.itemTokens, List.cons_append, List.append_assoc]
    have items := lexes_writeItems vs plain.2 more
    exact (lexes_writeValue v plain.1 (endsNumeral_writeItems vs rest) items).mark rfl rfl

theorem lexes_writeMembers (ms : List (String × Value)) (plain : Value.MembersIntegral ms)
    {rest : List Char} {ts : List Token} (more : Lexes rest ts) :
    Lexes (writeMembers ms ++ rest) (Node.memberTokens (Value.memberNodes ms) ++ ts) := by
  match ms with
  | [] => exact more.mark rfl rfl
  | (k, v) :: ms =>
    simp only [writeMembers, Value.memberNodes, Node.memberTokens, List.cons_append,
      List.append_assoc]
    have members := lexes_writeMembers ms plain.2 more
    have value := lexes_writeValue v plain.1 (endsNumeral_writeMembers ms rest) members
    exact value.key.mark rfl rfl

end

/-! ## Reading -/

theorem le_foldl_digits (n : Nat) (ds : List Nat) : n ≤ ds.foldl (fun n d => n * 10 + d) n := by
  induction ds generalizing n with
  | nil => exact Nat.le_refl n
  | cons d ds ih => exact Nat.le_trans (by omega) (ih (n * 10 + d))

theorem appendWhole_of_fits {n : Nat} {ds : List Nat}
    (fits : ds.foldl (fun n d => n * 10 + d) n ≤ maxWord) :
    appendWhole n ds = (ds.foldl (fun n d => n * 10 + d) n, 0) := by
  induction ds generalizing n with
  | nil => rfl
  | cons d ds ih =>
    have first : n * 10 + d ≤ maxWord := Nat.le_trans (le_foldl_digits _ ds) fits
    rw [appendWhole, if_pos first, ih fits]
    rfl

theorem number?_ofInt {n : Int} (low : -9223372036854775808 ≤ n) (high : n ≤ maxWord) :
    (Numeral.ofInt n).number? = some (.int n) := by
  have whole : appendWhole 0 (Text.decimals n.natAbs) = (n.natAbs, 0) := by
    have value := Text.digitsValue_decimals n.natAbs
    rw [Text.digitsValue] at value
    have fits : n.natAbs ≤ maxWord := by
      simp only [maxWord] at high ⊢
      omega
    rw [appendWhole_of_fits (by rwa [value]), value]
  simp only [Numeral.number?, Numeral.ofInt, whole]
  by_cases negative : n < 0
  · have range : ¬ (n.natAbs = 0 ∨ n.natAbs > 9223372036854775808) := by omega
    have back : -(n.natAbs : Int) = n := by omega
    simp only [negative, List.isEmpty_nil, Option.isNone_none, Bool.and_self, decide_true, if_true,
      Bool.not_true, Bool.false_eq_true, if_false, Bool.or_eq_true, decide_eq_true_eq, range, back]
  · have back : (n.natAbs : Int) = n := by omega
    simp only [negative, List.isEmpty_nil, Option.isNone_none, Bool.and_self, decide_true,
      decide_false, if_true, Bool.not_false, back]

mutual

theorem leafValue?_node (v : Value) (plain : v.Integral) : v.node.leafValue? = some v := by
  match v with
  | .null | .bool _ | .str _ => rfl
  | .num (.int n) => simp [Value.node, Node.leafValue?, number?_ofInt plain.1 plain.2]
  | .arr items => simp [Value.node, Node.leafValue?, itemValues?_itemNodes items plain]
  | .obj members => simp [Value.node, Node.leafValue?, memberValues?_memberNodes members plain]

theorem itemValues?_itemNodes (vs : List Value) (plain : Value.ItemsIntegral vs) :
    Node.itemValues? (Value.itemNodes vs) = some vs := by
  match vs with
  | [] => rfl
  | v :: rest =>
    simp [Value.itemNodes, Node.itemValues?, leafValue?_node v plain.1,
      itemValues?_itemNodes rest plain.2]

theorem memberValues?_memberNodes (ms : List (String × Value)) (plain : Value.MembersIntegral ms) :
    Node.memberValues? (Value.memberNodes ms) = some ms := by
  match ms with
  | [] => rfl
  | (k, v) :: rest =>
    simp [Value.memberNodes, Node.memberValues?, leafValue?_node v plain.1,
      memberValues?_memberNodes rest plain.2]

end

theorem ofString?_compact {v : Value} (plain : v.Integral) : Node.ofString? v.compact = some v.node := by
  have lexes : Lexes v.compact.toList v.node.tokens := by
    have ends : EndsNumeral [] := fun _ none => nomatch none
    have whole := lexes_writeValue v plain ends lexes_nil
    simpa [Value.compact] using whole
  have read := readNode_tokens v.node (v.node.tokens.length + 1) (by omega) []
  rw [List.append_nil] at read
  simp [Node.ofString?, tokens_of_lexes lexes, read]

theorem value?_node {v : Value} (plain : v.Integral) (sorted : v.Sorted) {outer : Nat}
    (shallow : outer + v.depth ≤ Node.maxDepth) : v.node.value? outer = some v := by
  rw [Node.value?, Value.depth_node, if_pos shallow, leafValue?_node v plain, Option.map_some,
    canonical_of_sorted v sorted]

/-- What is read of a written value is its canonical form. -/
theorem ofString?_canonical {v : Value} (plain : v.Integral) (shallow : v.depth ≤ Node.maxDepth) :
    Value.ofString? v.compact = some v.canonical := by
  rw [Value.ofString?, ofString?_compact plain, Option.bind_some, Node.value?, Value.depth_node,
    if_pos (by omega), leafValue?_node v plain, Option.map_some]

end ServiceHost.Json
