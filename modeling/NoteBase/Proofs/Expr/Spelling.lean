import NoteBase.Proofs.Expr.Lexing

/-!
# How tokens are spelled

A text whose tokens are valid is made up of the spellings of these tokens, one behind the other,
with blanks between them. What a character of the text stands for can be told from the token whose
spelling it belongs to.
-/

namespace NoteBase.Expr

open NoteBase.Expr.Grammar (Valid)

/-! ## Spellings -/

/-- A token is read from a text that starts with these characters, and takes no others. -/
def IsSpelling (token : Token) (spelling : List Char) : Prop :=
  ∃ position first rest, Text.isBlank first = false ∧ (lexeme position first rest).1 = token ∧
    first :: rest.take (lexeme position first rest).2 = spelling

/-- The spellings of tokens, one behind the other, with blanks between them. -/
inductive Spells : List Token → List Char → Prop
  | nil : Spells [] []
  | blank {all : List Token} {chars : List Char} {char : Char}
      (isBlank : Text.isBlank char = true) (rest : Spells all chars) :
      Spells all (char :: chars)
  | token {token : Token} {all : List Token} {spelling chars : List Char}
      (spelled : IsSpelling token spelling) (rest : Spells all chars) :
      Spells (token :: all) (spelling ++ chars)

theorem Spells.eq_nil {all : List Token} {chars : List Char} (spells : Spells all chars)
    (empty : chars = []) : all = [] := by
  cases spells with
  | nil => rfl
  | blank _ _ => cases empty
  | token spelled _ =>
      obtain ⟨_, first, rest, _, _, rfl⟩ := spelled
      cases empty

/-- A text is spelled by its tokens, if they are valid. -/
theorem spells_tokensFrom {chars : List Char} {position skip : Nat} (fits : skip ≤ chars.length)
    (valid : Valid (tokensFrom position skip chars)) :
    Spells (tokensFrom position skip chars) (chars.drop skip) := by
  induction chars generalizing position skip with
  | nil =>
      obtain rfl : skip = 0 := Nat.le_zero.mp fits
      exact .nil
  | cons char rest inductionHypothesis =>
      cases skip with
      | succ skip =>
          exact inductionHypothesis (Nat.le_of_succ_le_succ fits) valid
      | zero =>
          cases blank : Text.isBlank char with
          | true =>
              rw [tokensFrom_cons_of_isBlank blank] at valid ⊢
              exact .blank blank (inductionHypothesis (Nat.zero_le _) valid)
          | false =>
              rw [tokensFrom_cons blank] at valid ⊢
              obtain ⟨tokenValid, restValid⟩ := valid.of_cons
              have taken := (lexeme_append (separates_nil _) tokenValid position).2
              have spelled : IsSpelling (lexeme position char rest).1
                  (char :: rest.take (lexeme position char rest).2) :=
                ⟨position, char, rest, blank, rfl, rfl⟩
              have whole := Spells.token spelled (inductionHypothesis taken restValid)
              rwa [List.cons_append, List.take_append_drop] at whole

theorem Spells.of_valid {text : String} (valid : Valid (tokens text)) :
    Spells (tokens text) text.toList :=
  spells_tokensFrom (Nat.zero_le _) valid

/-! ## Parts of a text -/

/-- A text is split where its tokens are. -/
theorem Spells.of_append {before after : List Token} {chars : List Char}
    (spells : Spells (before ++ after) chars) :
    ∃ front back, chars = front ++ back ∧ Spells before front ∧ Spells after back := by
  generalize isAll : before ++ after = all at spells
  induction spells generalizing before with
  | nil =>
      obtain ⟨rfl, rfl⟩ := List.append_eq_nil_iff.mp isAll
      exact ⟨[], [], rfl, .nil, .nil⟩
  | @blank all chars char isBlank spells inductionHypothesis =>
      obtain ⟨front, back, rfl, frontSpells, backSpells⟩ := inductionHypothesis isAll
      exact ⟨char :: front, back, rfl, .blank isBlank frontSpells, backSpells⟩
  | @token token all spelling chars spelled spells inductionHypothesis =>
      cases before with
      | nil =>
          subst isAll
          exact ⟨[], spelling ++ chars, rfl, .nil, .token spelled spells⟩
      | cons head before =>
          obtain ⟨rfl, isRest⟩ := List.cons.inj isAll
          obtain ⟨front, back, rfl, frontSpells, backSpells⟩ := inductionHypothesis isRest
          exact ⟨spelling ++ front, back, (List.append_assoc _ _ _).symm,
            .token spelled frontSpells, backSpells⟩

theorem Spells.append_blanks {all : List Token} {chars blanks : List Char}
    (spells : Spells all chars) (blank : ∀ char ∈ blanks, Text.isBlank char = true) :
    Spells all (chars ++ blanks) := by
  induction spells with
  | nil =>
      induction blanks with
      | nil =>
          exact .nil
      | cons char blanks inductionHypothesis =>
          obtain ⟨isBlank, others⟩ := List.forall_mem_cons.mp blank
          exact .blank isBlank (inductionHypothesis others)
  | blank isBlank _ inductionHypothesis =>
      exact .blank isBlank inductionHypothesis
  | token spelled _ inductionHypothesis =>
      rw [List.append_assoc]
      exact .token spelled inductionHypothesis

/-- The spelling of the first token stands behind blanks. -/
theorem Spells.of_cons {token : Token} {after : List Token} {chars : List Char}
    (spells : Spells (token :: after) chars) :
    ∃ blanks spelling back, chars = blanks ++ (spelling ++ back) ∧
      (∀ char ∈ blanks, Text.isBlank char = true) ∧ IsSpelling token spelling ∧
      Spells after back := by
  generalize isAll : token :: after = all at spells
  induction spells with
  | nil =>
      cases isAll
  | @blank all chars char isBlank spells inductionHypothesis =>
      obtain ⟨blanks, spelling, back, rfl, blank, spelled, backSpells⟩ := inductionHypothesis isAll
      exact ⟨char :: blanks, spelling, back, rfl,
        List.forall_mem_cons.mpr ⟨isBlank, blank⟩, spelled,
        backSpells⟩
  | @token head all spelling chars spelled spells =>
      obtain ⟨rfl, rfl⟩ := List.cons.inj isAll
      exact ⟨[], spelling, chars, rfl, List.forall_mem_nil _, spelled, spells⟩

/-! ## Texts in quotes -/

/-- A text in quotes is spelled with its own characters and those of escapes, and ends with its
quote. -/
theorem stringBody?_spelling {quote : Char} {chars body : List Char} {taken : Nat}
    (found : stringBody? quote chars = some (body, taken)) :
    ∃ inner, chars.take taken = inner ++ [quote] ∧
      ∀ char ∈ inner, char ∈ body ∨ char ∈ ['\\', 'n', 't'] := by
  fun_induction stringBody? quote chars generalizing body taken with
  | case1 => cases found
  | case2 => cases found
  | case3 escaped rest inductionHypothesis =>
      obtain ⟨⟨others, count⟩, othersFound, same⟩ := Option.map_eq_some_iff.mp found
      obtain ⟨rfl, rfl⟩ := Prod.mk.inj same
      obtain ⟨inner, innerEq, own⟩ := inductionHypothesis othersFound
      have escapedOwn : escaped ∈ unescape escaped :: others ∨ escaped ∈ ['\\', 'n', 't'] := by
        by_cases letter : escaped ∈ ['\\', 'n', 't']
        · exact .inr letter
        · simp only [List.mem_cons, List.not_mem_nil, or_false, not_or] at letter
          have kept : unescape escaped = escaped := by
            simp [unescape, letter.2]
          exact .inl (kept.symm ▸ List.mem_cons_self)
      refine ⟨'\\' :: escaped :: inner, ?_, ?_⟩
      · rw [List.take_succ_cons, List.take_succ_cons, innerEq]
        rfl
      · intro char member
        rcases List.mem_cons.mp member with rfl | member
        · exact .inr List.mem_cons_self
        · rcases List.mem_cons.mp member with rfl | inInner
          · exact escapedOwn
          · exact (own char inInner).imp_left (List.mem_cons_of_mem _)
  | case4 rest noBackslash =>
      obtain ⟨rfl, rfl⟩ := Prod.mk.inj (Option.some.inj found)
      exact ⟨[], rfl, List.forall_mem_nil _⟩
  | case5 char rest noBackslash different inductionHypothesis =>
      obtain ⟨⟨others, count⟩, othersFound, same⟩ := Option.map_eq_some_iff.mp found
      obtain ⟨rfl, rfl⟩ := Prod.mk.inj same
      obtain ⟨inner, innerEq, own⟩ := inductionHypothesis othersFound
      refine ⟨char :: inner, ?_, ?_⟩
      · rw [List.take_succ_cons, innerEq]
        rfl
      · intro next member
        rcases List.mem_cons.mp member with rfl | inInner
        · exact .inl List.mem_cons_self
        · exact (own next inInner).imp_left (List.mem_cons_of_mem _)

end NoteBase.Expr
