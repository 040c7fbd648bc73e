import NoteBase.Proofs.Expr.ParserComplete

/-!
# The texts that are expressions

A text is parsed to a tree exactly if its tokens derive the tree and the three limits hold; a text
that derives a tree beyond the limits is too complex, and is refused for no other reason.
-/

namespace NoteBase.Expr

open NoteBase.Expr.Parser (topLevel)

/-! ## Texts of the grammar -/

/-- The tokens of a text up to its end, if there is no lexical error before. -/
def Lexes (text : String) (all : List Token) : Prop :=
  tokens text = all ∧ Grammar.Valid all

/-- A derivation of this depth gives a tree that is not too complex. -/
structure WithinLimits (expr : Expr) (depth : Nat) : Prop where
  depth_le : depth ≤ maxDepth
  nodeCount_le : expr.nodeCount ≤ maxNodes
  height_le : expr.height ≤ maxHeight

/-! ## From tokens to a tree and back -/

theorem ofTokens_eq_ok {all : List Token} {expr : Expr} (done : ofTokens all = .ok expr) :
    ∃ depth, Grammar.Expression all expr depth ∧ WithinLimits expr depth := by
  obtain ⟨start, arrived, exprDone⟩ := bind_eq_ok done
  obtain ⟨⟨tree, after⟩, treeDone, finish⟩ := bind_eq_ok exprDone
  obtain rfl := arrive_eq_ok arrived
  obtain ⟨phraseTokens, depth, split, phrase, fits, counted, bounded⟩ :=
    exprAt_reads maxDepth _ tree after treeDone
  have counts : tree.nodeCount ≤ maxNodes := by
    have := bounded (Nat.zero_le maxNodes)
    omega
  simp only at finish
  split at finish
  · next finished =>
    have none : after.tokens = [] := List.isEmpty_iff.mp finished
    split at finish
    · next low =>
      cases finish
      have same : all = phraseTokens := by simpa [none] using split
      exact ⟨depth, same ▸ phrase, fits, counts, low⟩
    · cases finish
  · cases finish

theorem exprAt_of_expression {all : List Token} {expr : Expr} {depth : Nat}
    (phrase : Grammar.Expression all expr depth) (budget : Nat) :
    Parser.exprAt budget ⟨all, 0⟩ = limited budget depth expr.nodeCount expr [] 0 := by
  have run := phrase.runs budget [] 0 (Nat.zero_le maxNodes) (follows_nil topLevel)
  rw [List.append_nil, limited_chainOn (follows_nil _)] at run
  exact run

theorem arrive_of_expression {all : List Token} {expr : Expr} {depth nodes : Nat}
    (phrase : Grammar.Expression all expr depth) :
    Parser.arrive all nodes = .ok ⟨all, nodes⟩ := by
  have clear := clear_append [] phrase.starts
  rw [List.append_nil] at clear
  exact arrive_eq clear

theorem ofTokens_of_withinLimits {all : List Token} {expr : Expr} {depth : Nat}
    (phrase : Grammar.Expression all expr depth) (within : WithinLimits expr depth) :
    ofTokens all = .ok expr := by
  have run := exprAt_of_expression phrase maxDepth
  rw [limited_eq_ok within.depth_le (by simpa using within.nodeCount_le)] at run
  simp [ofTokens, arrive_of_expression phrase, ok_bind, run, within.height_le]

theorem ofTokens_of_not_withinLimits {all : List Token} {expr : Expr} {depth : Nat}
    (phrase : Grammar.Expression all expr depth) (exceeded : ¬ WithinLimits expr depth) :
    ofTokens all = .error .tooComplex := by
  have run := exprAt_of_expression phrase maxDepth
  rw [ofTokens, arrive_of_expression phrase, ok_bind, run]
  refine limited_bind ?_ fun _ => rfl
  intro fits room
  have high : ¬ expr.height ≤ maxHeight := fun low => exceeded ⟨fits, by omega, low⟩
  simp [high]

/-! ## Texts -/

theorem derives_of_parse {text : String} {expr : Expr} (parsed : parse text = .ok expr) :
    ∃ all depth, Lexes text all ∧ Grammar.Expression all expr depth ∧ WithinLimits expr depth := by
  obtain ⟨depth, phrase, within⟩ := ofTokens_eq_ok parsed
  exact ⟨tokens text, depth, ⟨rfl, phrase.valid⟩, phrase, within⟩

section Derived

variable {text : String} {all : List Token} {expr : Expr} {depth : Nat}

theorem Lexes.parse_of_withinLimits (lexes : Lexes text all)
    (phrase : Grammar.Expression all expr depth) (within : WithinLimits expr depth) :
    parse text = .ok expr := by
  rw [parse, lexes.1, ofTokens_of_withinLimits phrase within]

theorem Lexes.parse_of_not_withinLimits (lexes : Lexes text all)
    (phrase : Grammar.Expression all expr depth) (exceeded : ¬ WithinLimits expr depth) :
    parse text = .error .tooComplex := by
  rw [parse, lexes.1, ofTokens_of_not_withinLimits phrase exceeded]

end Derived

/-- A text is parsed to a tree exactly if its tokens derive the tree within the limits, and is too
complex if they derive a tree beyond them. -/
theorem parse_grammar (text : String) :
    (∀ expr, parse text = .ok expr ↔
      ∃ all depth, Lexes text all ∧ Grammar.Expression all expr depth ∧ WithinLimits expr depth) ∧
    (∀ all expr depth, Lexes text all → Grammar.Expression all expr depth →
      ¬ WithinLimits expr depth → parse text = .error .tooComplex) := by
  refine ⟨fun expr => ⟨?_, ?_⟩, ?_⟩
  · intro done
    obtain ⟨depth, phrase, within⟩ := ofTokens_eq_ok done
    exact ⟨tokens text, depth, ⟨rfl, phrase.valid⟩, phrase, within⟩
  · rintro ⟨all, depth, ⟨rfl, _⟩, phrase, within⟩
    exact ofTokens_of_withinLimits phrase within
  · rintro all expr depth ⟨rfl, _⟩ phrase exceeded
    exact ofTokens_of_not_withinLimits phrase exceeded

/-! ## The deepest nesting -/

def negationText (count : Nat) : String :=
  String.ofList (List.replicate count '!' ++ ['a'])

def negationTree : Nat → Expr
  | 0 => .property ["a"]
  | count + 1 => .unary .not (negationTree count)

theorem negation_derives (count : Nat) :
    Grammar.Unary (List.replicate count .not ++ [.ident "a"]) (negationTree count) count := by
  induction count with
  | zero =>
      exact .selection (.primary (.name "a"))
  | succ count inductionHypothesis =>
      exact .operator .not inductionHypothesis

theorem negation_expression (count : Nat) :
    Grammar.Expression (List.replicate count .not ++ [.ident "a"]) (negationTree count) count :=
  .lift (.lift (.lift (.lift (.lift (.lift (.unary (negation_derives count)))))))

/-- As many negations as may be nested are parsed, and one more is not. -/
theorem parse_grammar_negations :
    parse (negationText 64) = .ok (negationTree 64) ∧
      parse (negationText 65) = .error .tooComplex := by
  have most : tokens (negationText 64) = List.replicate 64 .not ++ [.ident "a"] := by
    decide +kernel
  have tooMany : tokens (negationText 65) = List.replicate 65 .not ++ [.ident "a"] := by
    decide +kernel
  constructor
  · refine ((parse_grammar _).1 _).mpr ⟨_, 64, ⟨most, ?_⟩, negation_expression 64, ?_⟩
    · exact (negation_expression 64).valid
    · exact ⟨by decide, by decide +kernel, by decide +kernel⟩
  · refine (parse_grammar _).2 _ _ 65 ⟨tooMany, ?_⟩ (negation_expression 65) ?_
    · exact (negation_expression 65).valid
    · intro within
      exact absurd within.depth_le (by decide)

end NoteBase.Expr
