import ServiceHost.Proofs.Json.Document
import ServiceHost.Proofs.Json.Lexical

/-! The grammar of JSON. A text is read as a node exactly if it is made of the tokens of that node, so that
nothing that is no document is read, and no document is left unread. -/

namespace ServiceHost.Json

/-- The text is a document, whose content is this node. -/
def Node.WrittenAs (n : Node) (s : String) : Prop := WritesTokens n.tokens s.toList

/-! ## No two numerals together -/

theorem Apart.cons {t : Token} {ts : List Token} (apart : Apart ts) (other : ∀ n, t ≠ .numeral n) : Apart (t :: ts) :=
  List.isChain_cons.2 ⟨fun _ _ n _ same => absurd same (other n), apart⟩

theorem Apart.numeral {n : Numeral} {ts : List Token} (apart : Apart ts) (front : ∀ m, ts.head? ≠ some (.numeral m)) :
    Apart (.numeral n :: ts) :=
  List.isChain_cons.2 ⟨fun _ here _ m _ same => front m (same ▸ here), apart⟩

theorem itemTokens_head? (vs : List Node) (ts : List Token) (n : Numeral) :
    (Node.itemTokens vs ++ ts).head? ≠ some (.numeral n) := by
  cases vs <;> exact nofun

theorem memberTokens_head? (ms : List (Option String × Node)) (ts : List Token) (n : Numeral) :
    (Node.memberTokens ms ++ ts).head? ≠ some (.numeral n) := by
  rcases ms with _ | ⟨⟨k, v⟩, rest⟩ <;> exact nofun

theorem Apart.key {k : Option String} {ts : List Token} (apart : Apart ts) : Apart (.text k :: .colon :: ts) :=
  have colon : Apart (.colon :: ts) := apart.cons nofun
  colon.cons nofun

mutual

theorem apart_tokens (v : Node) {ts : List Token} (apart : Apart ts) (front : ∀ n, ts.head? ≠ some (.numeral n)) :
    Apart (v.tokens ++ ts) := by
  match v with
  | .null => exact apart.cons nofun
  | .bool true => exact apart.cons nofun
  | .bool false => exact apart.cons nofun
  | .numeral n => exact apart.numeral front
  | .text s => exact apart.cons nofun
  | .arr [] =>
    have close : Apart (.closeBracket :: ts) := apart.cons nofun
    exact close.cons nofun
  | .arr (v :: rest) =>
    have items := apart_itemTokens rest apart
    have value := apart_tokens v items (itemTokens_head? rest ts)
    have whole : Apart (.openBracket :: (v.tokens ++ (Node.itemTokens rest ++ ts))) := value.cons nofun
    simpa [Node.tokens] using whole
  | .obj [] =>
    have close : Apart (.closeBrace :: ts) := apart.cons nofun
    exact close.cons nofun
  | .obj ((k, v) :: rest) =>
    have members := apart_memberTokens rest apart
    have value := apart_tokens v members (memberTokens_head? rest ts)
    have whole : Apart (.openBrace :: .text k :: .colon :: (v.tokens ++ (Node.memberTokens rest ++ ts))) :=
      value.key.cons nofun
    simpa [Node.tokens] using whole

theorem apart_itemTokens (vs : List Node) {ts : List Token} (apart : Apart ts) : Apart (Node.itemTokens vs ++ ts) := by
  match vs with
  | [] => exact apart.cons nofun
  | v :: rest =>
    have items := apart_itemTokens rest apart
    have value := apart_tokens v items (itemTokens_head? rest ts)
    have whole : Apart (.comma :: (v.tokens ++ (Node.itemTokens rest ++ ts))) := value.cons nofun
    simpa [Node.itemTokens] using whole

theorem apart_memberTokens (ms : List (Option String × Node)) {ts : List Token} (apart : Apart ts) :
    Apart (Node.memberTokens ms ++ ts) := by
  match ms with
  | [] => exact apart.cons nofun
  | (k, v) :: rest =>
    have members := apart_memberTokens rest apart
    have value := apart_tokens v members (memberTokens_head? rest ts)
    have whole : Apart (.comma :: .text k :: .colon :: (v.tokens ++ (Node.memberTokens rest ++ ts))) :=
      value.key.cons nofun
    simpa [Node.memberTokens] using whole

end

/-! ## The reader -/

mutual

/-- What is read is a node at the front of the tokens. -/
theorem tokens_of_readNode {fuel : Nat} {ts rest : List Token} {v : Node} (read : readNode fuel ts = some (v, rest)) :
    ts = v.tokens ++ rest := by
  match fuel with
  | 0 => cases read
  | fuel + 1 =>
    rw [readNode.eq_def] at read
    simp only at read
    split at read
    case h_7 ts _ =>
      obtain ⟨⟨items, more⟩, items', same⟩ := Option.map_eq_some_iff.1 read
      cases same
      obtain ⟨v, vs, rfl, rfl⟩ := tokens_of_readItems items'
      simp [Node.tokens]
    case h_9 ts _ =>
      obtain ⟨⟨members, more⟩, members', same⟩ := Option.map_eq_some_iff.1 read
      cases same
      obtain ⟨k, v, ms, rfl, rfl⟩ := tokens_of_readMembers members'
      simp [Node.tokens]
    all_goals cases read <;> rfl
termination_by fuel

theorem tokens_of_readItems {fuel : Nat} {ts rest : List Token} {items : List Node}
    (read : readItems fuel ts = some (items, rest)) :
    ∃ v vs, items = v :: vs ∧ ts = v.tokens ++ (Node.itemTokens vs ++ rest) := by
  match fuel with
  | 0 => cases read
  | fuel + 1 =>
    rw [readItems] at read
    split at read
    · next v ts' first =>
      cases read
      exact ⟨v, [], rfl, tokens_of_readNode first⟩
    · next v ts' first =>
      obtain ⟨⟨items, more⟩, others, same⟩ := Option.map_eq_some_iff.1 read
      cases same
      obtain ⟨w, vs, rfl, rfl⟩ := tokens_of_readItems others
      exact ⟨v, w :: vs, rfl, by rw [tokens_of_readNode first]; simp [Node.itemTokens]⟩
    · cases read
termination_by fuel

theorem tokens_of_readMembers {fuel : Nat} {ts rest : List Token} {members : List (Option String × Node)}
    (read : readMembers fuel ts = some (members, rest)) :
    ∃ k v ms, members = (k, v) :: ms ∧ ts = .text k :: .colon :: (v.tokens ++ (Node.memberTokens ms ++ rest)) := by
  match fuel with
  | 0 => cases read
  | fuel + 1 =>
    rw [readMembers.eq_def] at read
    split at read
    · cases read
    · next k ts' same =>
      cases same
      split at read
      · next v rest' first =>
        cases read
        exact ⟨k, v, [], rfl, by rw [tokens_of_readNode first]; rfl⟩
      · next v rest' first =>
        obtain ⟨⟨members, more⟩, others, same⟩ := Option.map_eq_some_iff.1 read
        cases same
        obtain ⟨l, w, ms, rfl, rfl⟩ := tokens_of_readMembers others
        exact ⟨k, v, (l, w) :: ms, rfl, by rw [tokens_of_readNode first]; simp [Node.memberTokens]⟩
      · cases read
    · cases read
termination_by fuel

end

/-- A text is read exactly if it is a document, and then as its content. -/
theorem ofString?_eq_some_iff {s : String} {n : Node} : Node.ofString? s = some n ↔ n.WrittenAs s := by
  have apart : Apart n.tokens := by simpa using apart_tokens n List.isChain_nil nofun
  rw [Node.WrittenAs, ← tokens_eq_some_iff apart]
  constructor
  · intro read
    obtain ⟨ts, lexed, read⟩ := Option.bind_eq_some_iff.1 read
    split at read
    · next v whole =>
      cases read
      rw [lexed, tokens_of_readNode whole, List.append_nil]
    · cases read
  · intro lexed
    have read := readNode_tokens n (n.tokens.length + 1) (Nat.le_succ _) []
    rw [List.append_nil] at read
    simp [Node.ofString?, lexed, read]

end ServiceHost.Json
