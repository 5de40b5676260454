import DiagnosticRelay.Json.Value
import DiagnosticRelay.Proofs.Json.Token

/-!
# Written values

`Json.tokens` spells a value out in tokens, and a text writes the value if it writes these tokens.
The main statement is that `parse?` reads every such text as the value. A complete value hands
itself to the container around it, so a run of the reader over the tokens of a value counts as one
step of what contains it.
-/

namespace DiagnosticRelay.Json

mutual

/-- The tokens of a value. -/
def tokens : Json → List Token
  | null => [.null]
  | bool value => [.bool value]
  | number numeral => [.number numeral]
  | string text? => [.string text?]
  | array [] => [.openArray, .closeArray]
  | array (item :: items) => .openArray :: (item.tokens ++ itemTokens items)
  | object [] => [.openObject, .closeObject]
  | object ((name?, value) :: members) =>
    .openObject :: .string name? :: .colon :: (value.tokens ++ memberTokens members)

/-- The tokens of the remaining items of an array, up to its end. -/
def itemTokens : List Json → List Token
  | [] => [.closeArray]
  | item :: items => .comma :: (item.tokens ++ itemTokens items)

/-- The tokens of the remaining members of an object, up to its end. -/
def memberTokens : List (Option String × Json) → List Token
  | [] => [.closeObject]
  | (name?, value) :: members =>
    .comma :: .string name? :: .colon :: (value.tokens ++ memberTokens members)

end

/-- The text writes the value, with any blanks between its tokens. -/
def WrittenAs (json : Json) (text : List Char) : Prop :=
  Token.AllWrittenAs json.tokens text

theorem exists_writtenAs (json : Json) : ∃ text, json.WrittenAs text :=
  Token.exists_allWrittenAs json.tokens

/-! ## Reading the tokens of a value -/

namespace Reader

/-- The first item of an array is read like any other: no value begins with the end of an array. -/
theorem run_firstItem (json : Json) (stack : List Frame) (rest : List Token) :
    (firstItem stack).run (json.tokens ++ rest) =
      (value (.array [] :: stack)).run (json.tokens ++ rest) := by
  cases json with
  | null | bool | number | string => rfl
  | array items => cases items <;> rfl
  | object members => cases members <;> rfl

mutual

/-- The tokens of a value make the value and hand it to the innermost container. -/
theorem run_value (json : Json) (stack : List Frame) (rest : List Token) :
    (value stack).run (json.tokens ++ rest) = (give json stack).run rest := by
  match json with
  | .null | .bool _ | .number _ | .string _ => rfl
  | .array [] => rfl
  | .array (item :: items) =>
    calc (value stack).run ((array (item :: items)).tokens ++ rest)
        = (firstItem stack).run (item.tokens ++ (itemTokens items ++ rest)) := by
          rw [tokens, List.cons_append, List.append_assoc]; rfl
      _ = (afterItem [item] stack).run (itemTokens items ++ rest) := by
          rw [run_firstItem, run_value item]; rfl
      _ = (give (array (item :: items)) stack).run rest := run_afterItem items [item] stack rest
  | .object [] => rfl
  | .object ((name?, member) :: members) =>
    calc (value stack).run ((object ((name?, member) :: members)).tokens ++ rest)
        = (value (.object [] name? :: stack)).run
            (member.tokens ++ (memberTokens members ++ rest)) := by
          rw [tokens, List.cons_append, List.cons_append, List.cons_append, List.append_assoc]; rfl
      _ = (afterMember [(name?, member)] stack).run (memberTokens members ++ rest) := by
          rw [run_value member]; rfl
      _ = (give (object ((name?, member) :: members)) stack).run rest :=
          run_afterMember members [(name?, member)] stack rest

/-- The remaining items of an array end it, after those that are done. -/
theorem run_afterItem (items done : List Json) (stack : List Frame) (rest : List Token) :
    (afterItem done stack).run (itemTokens items ++ rest) =
      (give (.array (done.reverse ++ items)) stack).run rest := by
  match items with
  | [] =>
    rw [List.append_nil]
    rfl
  | item :: items =>
    calc (afterItem done stack).run (itemTokens (item :: items) ++ rest)
        = (value (.array done :: stack)).run (item.tokens ++ (itemTokens items ++ rest)) := by
          rw [itemTokens, List.cons_append, List.append_assoc]; rfl
      _ = (afterItem (item :: done) stack).run (itemTokens items ++ rest) := by
          rw [run_value item]; rfl
      _ = (give (.array (done.reverse ++ item :: items)) stack).run rest := by
          rw [run_afterItem items, List.reverse_cons, List.append_assoc, List.singleton_append]

/-- The remaining members of an object end it, after those that are done. -/
theorem run_afterMember (members done : List (Option String × Json)) (stack : List Frame)
    (rest : List Token) :
    (afterMember done stack).run (memberTokens members ++ rest) =
      (give (.object (done.reverse ++ members)) stack).run rest := by
  match members with
  | [] =>
    rw [List.append_nil]
    rfl
  | (name?, member) :: members =>
    calc (afterMember done stack).run (memberTokens ((name?, member) :: members) ++ rest)
        = (value (.object done name? :: stack)).run
            (member.tokens ++ (memberTokens members ++ rest)) := by
          rw [memberTokens, List.cons_append, List.cons_append, List.cons_append,
            List.append_assoc]; rfl
      _ = (afterMember ((name?, member) :: done) stack).run (memberTokens members ++ rest) := by
          rw [run_value member]; rfl
      _ = (give (.object (done.reverse ++ (name?, member) :: members)) stack).run rest := by
          rw [run_afterMember members, List.reverse_cons, List.append_assoc,
            List.singleton_append]

end

end Reader

theorem ofTokens?_tokens (json : Json) : ofTokens? json.tokens = some json := by
  have run := Reader.run_value json [] []
  rw [List.append_nil] at run
  rw [ofTokens?, run]
  rfl

/-! ## No value has two numbers next to each other -/

theorem spaced_cons {token : Token} {rest : List Token} (other : token.isNumber = false)
    (spaced : Token.Spaced rest) : Token.Spaced (token :: rest) :=
  List.isChain_cons.2 ⟨fun _ _ => .inl other, spaced⟩

theorem isNumber_of_head?_itemTokens {items : List Json} {rest : List Token} {token : Token}
    (h : (itemTokens items ++ rest).head? = some token) : token.isNumber = false := by
  cases items <;> cases h <;> rfl

theorem isNumber_of_head?_memberTokens {members : List (Option String × Json)} {rest : List Token}
    {token : Token} (h : (memberTokens members ++ rest).head? = some token) :
    token.isNumber = false := by
  cases members <;> cases h <;> rfl

mutual

/-- What follows a value does not begin with a number, so a value may end with one. -/
theorem spaced_tokens (json : Json) {rest : List Token} (spaced : Token.Spaced rest)
    (first : ∀ token, rest.head? = some token → token.isNumber = false) :
    Token.Spaced (json.tokens ++ rest) := by
  match json with
  | .null | .bool _ | .string _ => exact spaced_cons rfl spaced
  | .number _ => exact List.isChain_cons.2 ⟨fun token head => .inr (first token head), spaced⟩
  | .array [] => exact spaced_cons rfl (spaced_cons rfl spaced)
  | .array (item :: items) =>
    rw [tokens, List.cons_append, List.append_assoc]
    exact spaced_cons rfl (spaced_tokens item (spaced_itemTokens items spaced)
      fun _ => isNumber_of_head?_itemTokens)
  | .object [] => exact spaced_cons rfl (spaced_cons rfl spaced)
  | .object ((name?, member) :: members) =>
    rw [tokens, List.cons_append, List.cons_append, List.cons_append, List.append_assoc]
    exact spaced_cons rfl (spaced_cons rfl (spaced_cons rfl (spaced_tokens member
      (spaced_memberTokens members spaced) fun _ => isNumber_of_head?_memberTokens)))

theorem spaced_itemTokens (items : List Json) {rest : List Token} (spaced : Token.Spaced rest) :
    Token.Spaced (itemTokens items ++ rest) := by
  match items with
  | [] => exact spaced_cons rfl spaced
  | item :: items =>
    rw [itemTokens, List.cons_append, List.append_assoc]
    exact spaced_cons rfl (spaced_tokens item (spaced_itemTokens items spaced)
      fun _ => isNumber_of_head?_itemTokens)

theorem spaced_memberTokens (members : List (Option String × Json)) {rest : List Token}
    (spaced : Token.Spaced rest) : Token.Spaced (memberTokens members ++ rest) := by
  match members with
  | [] => exact spaced_cons rfl spaced
  | (name?, member) :: members =>
    rw [memberTokens, List.cons_append, List.cons_append, List.cons_append, List.append_assoc]
    exact spaced_cons rfl (spaced_cons rfl (spaced_cons rfl (spaced_tokens member
      (spaced_memberTokens members spaced) fun _ => isNumber_of_head?_memberTokens)))

end

/-! ## Texts -/

/-- Every text of a value is read as that value, however it is spelled and spaced. -/
theorem parse?_of_writtenAs {json : Json} {text : String} (written : json.WrittenAs text.toList) :
    parse? text = some json := by
  have spaced := spaced_tokens json (List.IsChain.nil) fun _ h => nomatch h
  rw [List.append_nil] at spaced
  rw [parse?, Token.scan_written written spaced, Option.bind_some, ofTokens?_tokens]

/-- Nothing that a value can hold is beyond the reader. -/
theorem exists_parse?_eq (json : Json) : ∃ text, parse? text = some json := by
  obtain ⟨chars, written⟩ := json.exists_writtenAs
  refine ⟨String.ofList chars, parse?_of_writtenAs ?_⟩
  rw [String.toList_ofList]
  exact written

end DiagnosticRelay.Json
