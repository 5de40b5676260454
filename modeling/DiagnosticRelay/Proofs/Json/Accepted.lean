import DiagnosticRelay.Proofs.Json.Scanned
import DiagnosticRelay.Proofs.Json.Value

/-!
# Accepted texts

A text is read as a value exactly if it writes the value. One direction is that every written text
is read; here is the other one. A run of the reader that ends with a value has taken the tokens of a
value from the front, has handed it to the innermost container, and has gone on from there, so the
tokens of the whole run are those of the value at its end.
-/

namespace DiagnosticRelay.Json

namespace Reader

variable {result : Json}

@[simp] theorem run_done_cons (json : Json) (token : Token) (rest : List Token) :
    (done json).run (token :: rest) = none := rfl

/-- The first item of an array may be its end; otherwise it is read like any other. -/
theorem run_firstItem_cons {stack : List Frame} {token : Token} {rest : List Token}
    (other : token ≠ .closeArray) :
    (firstItem stack).run (token :: rest) = (value (.array [] :: stack)).run (token :: rest) := by
  rw [run, step]
  · rfl
  · exact other

mutual

/-- Where a value may stand, a run that ends well begins with one. -/
theorem exists_value {stack : List Frame} {tokens : List Token}
    (h : (value stack).run tokens = some (done result)) :
    ∃ json rest, tokens = json.tokens ++ rest ∧
      (give json stack).run rest = some (done result) := by
  match tokens with
  | [] => cases h
  | .null :: rest => exact ⟨.null, rest, rfl, h⟩
  | .bool b :: rest => exact ⟨.bool b, rest, rfl, h⟩
  | .number numeral :: rest => exact ⟨.number numeral, rest, rfl, h⟩
  | .string text? :: rest => exact ⟨.string text?, rest, rfl, h⟩
  | .openArray :: [] => cases h
  | .openArray :: token :: tail =>
    by_cases close : token = .closeArray
    · subst close
      exact ⟨.array [], tail, rfl, h⟩
    · have first : (value (.array [] :: stack)).run (token :: tail) = some (done result) :=
        (run_firstItem_cons close).symm.trans h
      obtain ⟨item, after, split, given⟩ := exists_value first
      have shorter : after.length ≤ (token :: tail).length :=
        split ▸ (List.suffix_append _ _).length_le
      obtain ⟨items, rest, split', given'⟩ := exists_items [item] given
      refine ⟨.array (item :: items), rest, ?_, given'⟩
      rw [split, split', Json.tokens, List.cons_append, List.append_assoc]
  | .openObject :: [] => cases h
  | .openObject :: .closeObject :: rest => exact ⟨.object [], rest, rfl, h⟩
  | .openObject :: .string name? :: .colon :: tail =>
    have first : (value (.object [] name? :: stack)).run tail = some (done result) := h
    obtain ⟨member, after, split, given⟩ := exists_value first
    have shorter : after.length ≤ tail.length := split ▸ (List.suffix_append _ _).length_le
    obtain ⟨members, rest, split', given'⟩ := exists_members [(name?, member)] given
    refine ⟨.object ((name?, member) :: members), rest, ?_, given'⟩
    rw [split, split', Json.tokens, List.cons_append, List.cons_append, List.cons_append,
      List.append_assoc]
termination_by tokens.length
decreasing_by all_goals simp only [List.length_cons] at *; omega

/-- After an item, a run that ends well goes on with the remaining items. -/
theorem exists_items (collected : List Json) {stack : List Frame} {tokens : List Token}
    (h : (afterItem collected stack).run tokens = some (done result)) :
    ∃ items rest, tokens = itemTokens items ++ rest ∧
      (give (.array (collected.reverse ++ items)) stack).run rest = some (done result) := by
  match tokens with
  | [] => cases h
  | .closeArray :: rest =>
    refine ⟨[], rest, rfl, ?_⟩
    rw [List.append_nil]
    exact h
  | .comma :: tail =>
    have next : (value (.array collected :: stack)).run tail = some (done result) := h
    obtain ⟨item, after, split, given⟩ := exists_value next
    have shorter : after.length ≤ tail.length := split ▸ (List.suffix_append _ _).length_le
    obtain ⟨items, rest, split', given'⟩ := exists_items (item :: collected) given
    refine ⟨item :: items, rest, ?_, ?_⟩
    · rw [split, split', itemTokens, List.cons_append, List.append_assoc]
    · rw [List.reverse_cons, List.append_assoc, List.singleton_append] at given'
      exact given'
termination_by tokens.length
decreasing_by all_goals simp only [List.length_cons] at *; omega

/-- After a member, a run that ends well goes on with the remaining members. -/
theorem exists_members (collected : List (Option String × Json)) {stack : List Frame}
    {tokens : List Token} (h : (afterMember collected stack).run tokens = some (done result)) :
    ∃ members rest, tokens = memberTokens members ++ rest ∧
      (give (.object (collected.reverse ++ members)) stack).run rest = some (done result) := by
  match tokens with
  | [] => cases h
  | .closeObject :: rest =>
    refine ⟨[], rest, rfl, ?_⟩
    rw [List.append_nil]
    exact h
  | .comma :: .string name? :: .colon :: tail =>
    have next : (value (.object collected name? :: stack)).run tail = some (done result) := h
    obtain ⟨member, after, split, given⟩ := exists_value next
    have shorter : after.length ≤ tail.length := split ▸ (List.suffix_append _ _).length_le
    obtain ⟨members, rest, split', given'⟩ := exists_members ((name?, member) :: collected) given
    refine ⟨(name?, member) :: members, rest, ?_, ?_⟩
    · rw [split, split', memberTokens, List.cons_append, List.cons_append, List.cons_append,
        List.append_assoc]
    · rw [List.reverse_cons, List.append_assoc, List.singleton_append] at given'
      exact given'
termination_by tokens.length
decreasing_by all_goals simp only [List.length_cons] at *; omega

end

end Reader

/-- Tokens make a value exactly if they are its tokens. -/
theorem ofTokens?_eq_some_iff {tokens : List Token} {json : Json} :
    ofTokens? tokens = some json ↔ tokens = json.tokens := by
  constructor
  · intro h
    unfold ofTokens? at h
    split at h
    · rename_i result run
      cases h
      obtain ⟨first, rest, split, given⟩ := Reader.exists_value run
      -- Nothing may follow the value of the whole run.
      cases rest with
      | nil =>
        cases given
        rw [split, List.append_nil]
      | cons token rest => cases given
    · cases h
  · rintro rfl
    exact ofTokens?_tokens json

/-- A text is read as a value exactly if it writes the value. -/
theorem parse?_eq_some_iff {text : String} {json : Json} :
    parse? text = some json ↔ json.WrittenAs text.toList := by
  constructor
  · intro h
    obtain ⟨tokens, scanned, made⟩ := Option.bind_eq_some_iff.mp h
    rw [ofTokens?_eq_some_iff.mp made] at scanned
    exact Token.written_of_scan scanned
  · exact parse?_of_writtenAs

end DiagnosticRelay.Json
