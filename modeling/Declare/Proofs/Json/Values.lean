import Declare.Json.Syntax
import Declare.Proofs.Json.Tokens

/-!
# Reading written values

The text of a value is the text of its tokens. Values whose numbers and strings are exact are read
back from it (`read?_write`): their tokens are found in the text, since a comma or a bracket stands
behind each number (`IsExact.tokenize_tokens`), and the tokens of any value spell that value
(`readValue_tokens`).
-/

namespace Declare.Json

section Grammar

variable {j : Json} {js : List Json} {name : Option String}
  {fields : List (Option String × Json)} {tokens inner rest : List Token}

theorem readItems_last (value : Leaves (readValue tokens) j (.closeBracket :: rest)) :
    Leaves (readItems tokens) [j] rest := by
  obtain ⟨⟨list, lt⟩, read, rfl⟩ := value
  rw [readItems, read]
  exact ⟨_, rfl, rfl⟩

theorem readItems_cons (value : Leaves (readValue tokens) j (.comma :: inner))
    (more : Leaves (readItems inner) js rest) : Leaves (readItems tokens) (j :: js) rest := by
  obtain ⟨⟨list, lt⟩, read, rfl⟩ := value
  obtain ⟨r, others, rfl⟩ := more
  rw [readItems, read]
  simp only [ProperRest.next?, others]
  exact ⟨_, rfl, rfl⟩

theorem readFields_last (value : Leaves (readValue tokens) j (.closeBrace :: rest)) :
    Leaves (readFields (.string name :: .colon :: tokens)) [(name, j)] rest := by
  obtain ⟨⟨list, lt⟩, read, rfl⟩ := value
  rw [readFields, read]
  exact ⟨_, rfl, rfl⟩

theorem readFields_cons (value : Leaves (readValue tokens) j (.comma :: inner))
    (more : Leaves (readFields inner) fields rest) :
    Leaves (readFields (.string name :: .colon :: tokens)) ((name, j) :: fields) rest := by
  obtain ⟨⟨list, lt⟩, read, rfl⟩ := value
  obtain ⟨r, others, rfl⟩ := more
  rw [readFields, read]
  simp only [ProperRest.next?, others]
  exact ⟨_, rfl, rfl⟩

theorem readValue_array (opens : ∀ rest, inner ≠ .closeBracket :: rest)
    (items : Leaves (readItems inner) js rest) :
    Leaves (readValue (.openBracket :: inner)) (.array js) rest := by
  obtain ⟨r, read, rfl⟩ := items
  rw [readValue.eq_6 _ opens, read]
  exact ⟨_, rfl, rfl⟩

theorem readValue_object (opens : ∀ rest, inner ≠ .closeBrace :: rest)
    (read : Leaves (readFields inner) fields rest) :
    Leaves (readValue (.openBrace :: inner)) (.object fields) rest := by
  obtain ⟨r, read, rfl⟩ := read
  rw [readValue.eq_8 _ opens, read]
  exact ⟨_, rfl, rfl⟩

end Grammar

/-- No value begins with a closing bracket. -/
theorem itemTokens_append_ne (j : Json) (js : List Json) (more rest : List Token) :
    itemTokens (j :: js) ++ more ≠ .closeBracket :: rest := by
  cases js <;> cases j <;> simp [itemTokens, tokens]

theorem fieldTokens_append_ne (f : Option String × Json) (fields : List (Option String × Json))
    (more rest : List Token) : fieldTokens (f :: fields) ++ more ≠ .closeBrace :: rest := by
  cases fields <;> simp [fieldTokens]

mutual

/-- The tokens of a value are read as that value. -/
theorem readValue_tokens : ∀ (j : Json) (rest : List Token),
    Leaves (readValue (j.tokens ++ rest)) j rest
  | .null, _ | .boolean _, _ | .number _, _ | .string _, _ => by
      rw [tokens, List.singleton_append, readValue]
      exact ⟨_, rfl, rfl⟩
  | .array [], rest => by
      rw [tokens, itemTokens, List.cons_append, List.singleton_append, readValue]
      exact ⟨_, rfl, rfl⟩
  | .object [], rest => by
      rw [tokens, fieldTokens, List.cons_append, List.singleton_append, readValue]
      exact ⟨_, rfl, rfl⟩
  | .array (j :: js), rest => by
      rw [tokens, List.cons_append]
      exact readValue_array (itemTokens_append_ne j js rest)
        (readItems_itemTokens (j :: js) (List.cons_ne_nil j js) rest)
  | .object (f :: fields), rest => by
      rw [tokens, List.cons_append]
      exact readValue_object (fieldTokens_append_ne f fields rest)
        (readFields_fieldTokens (f :: fields) (List.cons_ne_nil f fields) rest)

theorem readItems_itemTokens : ∀ js : List Json, js ≠ [] → ∀ rest : List Token,
    Leaves (readItems (itemTokens js ++ rest)) js rest
  | [j], _, rest => by
      rw [itemTokens, List.append_assoc]
      exact readItems_last (readValue_tokens j (.closeBracket :: rest))
  | j :: k :: js, _, rest => by
      rw [itemTokens, List.append_assoc]
      · exact readItems_cons (readValue_tokens j _)
          (readItems_itemTokens (k :: js) (List.cons_ne_nil k js) rest)
      · nofun

theorem readFields_fieldTokens : ∀ fields : List (Option String × Json), fields ≠ [] →
    ∀ rest : List Token, Leaves (readFields (fieldTokens fields ++ rest)) fields rest
  | [(name, j)], _, rest => by
      rw [fieldTokens, List.append_assoc]
      exact readFields_last (readValue_tokens j (.closeBrace :: rest))
  | (name, j) :: f :: fields, _, rest => by
      rw [fieldTokens, List.append_assoc]
      · exact readFields_cons (readValue_tokens j _)
          (readFields_fieldTokens (f :: fields) (List.cons_ne_nil f fields) rest)
      · nofun

end

theorem ofTokens?_eq {tokens : List Token} {j : Json} (h : Leaves (readValue tokens) j []) :
    ofTokens? tokens = some j := by
  obtain ⟨r, read, nothing⟩ := h
  simp [ofTokens?, read, nothing]

theorem ofTokens?_tokens (j : Json) : ofTokens? j.tokens = some j := by
  have read := readValue_tokens j []
  rw [List.append_nil] at read
  exact ofTokens?_eq read

/-- Whether all numbers and strings in a value are exact, the names of fields included. -/
inductive IsExact : Json → Prop
  | null : IsExact null
  | boolean (b : Bool) : IsExact (boolean b)
  | number {n : Number} (h : n.IsExact) : IsExact (number n)
  | text (s : String) : IsExact (text s)
  | array {items : List Json} (h : ∀ j ∈ items, IsExact j) : IsExact (array items)
  | object {fields : List (Option String × Json)} (names : ∀ f ∈ fields, f.1.isSome)
      (h : ∀ f ∈ fields, IsExact f.2) : IsExact (object fields)

open Token (tokenize tokenize_text)

variable {rest : List Char} {ts : List Token}

/-- Whether the tokens of a value are found in its text, if a number can end there. -/
def IsTokenized (j : Json) : Prop :=
  ∀ {rest : List Char} {ts : List Token}, EndsNumber rest → tokenize rest = some ts →
    tokenize (j.tokens.flatMap Token.text ++ rest) = some (j.tokens ++ ts)

theorem tokenize_token {t : Token} (exact : t.IsExact) (apart : t.MayPrecede rest)
    (more : tokenize rest = some ts) :
    tokenize ([t].flatMap Token.text ++ rest) = some ([t] ++ ts) := by
  rw [List.flatMap_singleton]
  exact tokenize_text exact apart more

/-- A comma or a bracket ends each value of an array. -/
theorem tokenize_itemTokens : ∀ {items : List Json}, (∀ j ∈ items, IsTokenized j) →
    tokenize rest = some ts →
    tokenize ((itemTokens items).flatMap Token.text ++ rest) = some (itemTokens items ++ ts)
  | [], _, more => tokenize_text (t := .closeBracket) trivial trivial more
  | [j], h, more => by
      have close := tokenize_text (t := .closeBracket) trivial trivial more
      rw [itemTokens, List.flatMap_append, List.append_assoc, List.append_assoc]
      exact h j List.mem_cons_self rfl close
  | j :: k :: js, h, more => by
      have others := tokenize_itemTokens (fun i mem => h i (List.mem_cons_of_mem j mem)) more
      have comma := tokenize_text (t := .comma) trivial trivial others
      rw [itemTokens, List.flatMap_append, List.append_assoc, List.append_assoc]
      · exact h j List.mem_cons_self rfl comma
      · nofun

theorem tokenize_field {name : Option String} {j : Json} (named : name.isSome) (h : IsTokenized j)
    (ends : EndsNumber rest) (more : tokenize rest = some ts) :
    tokenize ((.string name :: .colon :: j.tokens).flatMap Token.text ++ rest) =
      some (.string name :: .colon :: j.tokens ++ ts) := by
  have colon := tokenize_text (t := .colon) trivial trivial (h ends more)
  rw [List.flatMap_cons, List.append_assoc]
  exact tokenize_text (t := .string name) named trivial colon

theorem tokenize_fieldTokens : ∀ {fields : List (Option String × Json)},
    (∀ f ∈ fields, f.1.isSome) → (∀ f ∈ fields, IsTokenized f.2) → tokenize rest = some ts →
    tokenize ((fieldTokens fields).flatMap Token.text ++ rest) = some (fieldTokens fields ++ ts)
  | [], _, _, more => tokenize_text (t := .closeBrace) trivial trivial more
  | [(name, j)], named, h, more => by
      have close := tokenize_text (t := .closeBrace) trivial trivial more
      rw [fieldTokens, List.flatMap_append, List.append_assoc, List.append_assoc]
      exact tokenize_field (named _ List.mem_cons_self) (h _ List.mem_cons_self) rfl close
  | (name, j) :: f :: fields, named, h, more => by
      have others := tokenize_fieldTokens (fun g mem => named g (List.mem_cons_of_mem _ mem))
        (fun g mem => h g (List.mem_cons_of_mem _ mem)) more
      have comma := tokenize_text (t := .comma) trivial trivial others
      rw [fieldTokens, List.flatMap_append, List.append_assoc, List.append_assoc]
      · exact tokenize_field (named _ List.mem_cons_self) (h _ List.mem_cons_self) rfl comma
      · nofun

/-- The tokens of an exact value are found in its text. -/
theorem IsExact.isTokenized {j : Json} (exact : IsExact j) : IsTokenized j := by
  intro rest ts ends more
  induction exact generalizing rest ts with
  | null => exact tokenize_token (t := .null) trivial trivial more
  | boolean b => exact tokenize_token (t := .boolean b) trivial trivial more
  | number h => exact tokenize_token (t := .number _) h ends more
  | text s => exact tokenize_token (t := .string (some s)) rfl trivial more
  | array _ ih =>
      have items := tokenize_itemTokens (fun j mem => ih j mem) more
      exact tokenize_text (t := .openBracket) trivial trivial items
  | object named _ ih =>
      have fields := tokenize_fieldTokens named (fun f mem => ih f mem) more
      exact tokenize_text (t := .openBrace) trivial trivial fields

/-- A written value is read back if it is exact. -/
theorem read?_write {j : Json} (exact : IsExact j) : read? j.write = some j := by
  have read : tokenize (j.tokens.flatMap Token.text ++ []) = some (j.tokens ++ []) :=
    exact.isTokenized rfl (by rw [tokenize])
  rw [List.append_nil, List.append_nil] at read
  rw [read?, write, String.toList_ofList, read, Option.bind_some, ofTokens?_tokens]

end Declare.Json
