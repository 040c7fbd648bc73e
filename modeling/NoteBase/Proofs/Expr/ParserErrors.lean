import NoteBase.Expr.Parser

/-!
# The lexical errors of a parser

A parser makes up no tokens: those that it leaves over are some of those that it was given, and a
lexical error that it reports is the one of an invalid token among them.
-/

namespace NoteBase.Expr

universe u

/-! ## Outcomes -/

/-- Whatever comes of it stays within these tokens: what is left over, or what a lexical error is
about. -/
def StaysWithin {Result : Type u} (left : Result → List Token) (all : List Token) :
    Except SyntaxError Result → Prop
  | .ok result => left result ⊆ all
  | .error (.lexical error) => .invalid error ∈ all
  | .error _ => True

/-- A parser leaves over tokens that it was given, and reports no other lexical error than
theirs. -/
def Keeps {Result : Type} (parser : Parser Result) : Prop :=
  ∀ all state, state.tokens ⊆ all → StaysWithin (·.2.tokens) all (parser state)

section Outcomes

variable {First Second : Type} {left : First → List Token} {others : Second → List Token}
  {all : List Token} {step : Except SyntaxError First} {next : First → Except SyntaxError Second}

theorem StaysWithin.bind (first : StaysWithin left all step)
    (second : ∀ result, left result ⊆ all → StaysWithin others all (next result)) :
    StaysWithin others all (step >>= next) := by
  cases step with
  | ok result => exact second result first
  | error error =>
      cases error with
      | lexical error => exact first
      | unexpected expected found => trivial
      | unknownFunction name => trivial
      | tooComplex => trivial

end Outcomes

/-! ## Steps -/

section Steps

variable {all : List Token} {state : ParserState}

theorem arrive_staysWithin {tokens : List Token} (nodes : Nat) (subset : tokens ⊆ all) :
    StaysWithin ParserState.tokens all (Parser.arrive tokens nodes) := by
  unfold Parser.arrive
  split
  · exact subset List.mem_cons_self
  · exact subset

theorem advance_staysWithin (subset : state.tokens ⊆ all) :
    StaysWithin ParserState.tokens all (Parser.advance state) :=
  arrive_staysWithin _ fun _ member => subset (List.mem_of_mem_tail member)

theorem expect_staysWithin (token : Token) (subset : state.tokens ⊆ all) :
    StaysWithin ParserState.tokens all (Parser.expect token state) := by
  unfold Parser.expect
  split
  · exact advance_staysWithin subset
  · trivial

theorem node_keeps (expr : Expr) : Keeps (Parser.node expr) := by
  intro all state subset
  unfold Parser.node
  split
  · exact subset
  · trivial

theorem tooDeep_keeps : Keeps Parser.tooDeep :=
  fun _ _ _ => trivial

/-- A token that is taken as a literal. -/
theorem literal_staysWithin (value : Value) (subset : state.tokens ⊆ all) :
    StaysWithin (·.2.tokens) all
      (do .ok (Expr.literal value, ← Parser.advance state)) :=
  (advance_staysWithin subset).bind fun _ rest => rest

end Steps

/-! ## Arguments and primaries -/

section Nested

variable {nested : Parser Expr}

theorem argsFrom_keeps (keeps : Keeps nested) (fuel : Nat) :
    Keeps (Parser.argsFrom nested fuel) := by
  induction fuel with
  | zero => exact fun _ _ _ => trivial
  | succ fuel inductionHypothesis =>
      intro all state subset
      refine (keeps all state subset).bind fun (arg, after) rest => ?_
      dsimp only
      split
      · refine (advance_staysWithin rest).bind fun behind more => ?_
        exact (inductionHypothesis all behind more).bind fun _ last => last
      · exact (advance_staysWithin rest).bind fun _ last => last
      · trivial

theorem args_keeps (keeps : Keeps nested) : Keeps (Parser.args nested) := by
  intro all state subset
  refine (expect_staysWithin .leftParen subset).bind fun opened rest => ?_
  split
  · exact (advance_staysWithin rest).bind fun _ last => last
  · exact argsFrom_keeps keeps _ all opened rest

theorem primary_keeps (keeps : Keeps nested) : Keeps (Parser.primary nested) := by
  intro all state subset
  unfold Parser.primary
  split
  case h_1 | h_2 | h_3 | h_4 => exact literal_staysWithin _ subset
  case h_5 =>
    refine (advance_staysWithin subset).bind fun opened rest => ?_
    refine (keeps all opened rest).bind fun (expr, inner) more => ?_
    exact (expect_staysWithin .rightParen more).bind fun _ last => last
  case h_6 name _ _ =>
    refine (advance_staysWithin subset).bind fun named rest => ?_
    dsimp only
    split
    · split
      · refine (args_keeps keeps all named rest).bind fun (args, after) more => ?_
        exact node_keeps _ all after more
      · trivial
    · exact rest
  case h_7 => trivial

/-! ## Postfix and unary operators -/

theorem select_keeps (target : Expr) (name : String) : Keeps (Parser.select target name) := by
  intro all state subset
  unfold Parser.select
  split
  · exact subset
  · exact node_keeps _ all state subset

theorem postfixFrom_keeps (keeps : Keeps nested) (fuel : Nat) (target : Expr) :
    Keeps (Parser.postfixFrom nested fuel target) := by
  induction fuel generalizing target with
  | zero => exact fun _ _ subset => subset
  | succ fuel inductionHypothesis =>
      intro all state subset
      unfold Parser.postfixFrom
      split
      · refine (advance_staysWithin subset).bind fun dotted rest => ?_
        dsimp only
        split
        · refine (advance_staysWithin rest).bind fun named more => ?_
          split
          · refine (args_keeps keeps all named more).bind fun (args, after) closed => ?_
            refine (node_keeps _ all after closed).bind fun (selected, behind) last => ?_
            exact inductionHypothesis selected all behind last
          · refine (select_keeps _ _ all named more).bind fun (selected, behind) last => ?_
            exact inductionHypothesis selected all behind last
        · trivial
      · exact subset

theorem postfixed_keeps (keeps : Keeps nested) : Keeps (Parser.postfixed nested) := by
  intro all state subset
  refine (primary_keeps keeps all state subset).bind fun (target, after) rest => ?_
  exact postfixFrom_keeps keeps _ target all after rest

theorem unary_keeps {operand : Parser Expr} (keeps : Keeps nested) (operandKeeps : Keeps operand) :
    Keeps (Parser.unary nested operand) := by
  intro all state subset
  unfold Parser.unary
  split
  · refine (advance_staysWithin subset).bind fun marked rest => ?_
    refine (operandKeeps all marked rest).bind fun (expr, after) more => ?_
    exact node_keeps _ all after more
  · exact postfixed_keeps keeps all state subset

end Nested

/-! ## Binary operators -/

section Operand

variable {operand : Parser Expr}

theorem chainFrom_keeps (keeps : Keeps operand) (level fuel : Nat) (first : Expr) :
    Keeps (Parser.chainFrom level operand fuel first) := by
  induction fuel generalizing first with
  | zero => exact fun _ _ subset => subset
  | succ fuel inductionHypothesis =>
      intro all state subset
      unfold Parser.chainFrom
      split
      · refine (advance_staysWithin subset).bind fun marked rest => ?_
        refine (keeps all marked rest).bind fun (second, after) more => ?_
        refine (node_keeps _ all after more).bind fun (joined, behind) last => ?_
        exact inductionHypothesis joined all behind last
      · exact subset

theorem chains_keeps (keeps : Keeps operand) (level : Nat) :
    Keeps (Parser.chains operand level) := by
  induction level with
  | zero => exact keeps
  | succ level inductionHypothesis =>
      intro all state subset
      refine (inductionHypothesis all state subset).bind fun (first, after) rest => ?_
      exact chainFrom_keeps inductionHypothesis _ _ first all after rest

end Operand

/-! ## Expressions -/

theorem unaryAt_keeps (depth : Nat) : Keeps (Parser.unaryAt depth) := by
  induction depth with
  | zero => exact unary_keeps tooDeep_keeps tooDeep_keeps
  | succ depth inductionHypothesis =>
      exact unary_keeps (chains_keeps inductionHypothesis _) inductionHypothesis

/-- A lexical error is reported for an invalid token of the text only. -/
theorem invalid_mem_of_ofTokens {all : List Token} {error : LexicalError}
    (failed : ofTokens all = .error (.lexical error)) : .invalid error ∈ all := by
  have stays : StaysWithin (fun _ : Expr => []) all (ofTokens all) := by
    refine (arrive_staysWithin 0 (List.Subset.refl all)).bind fun start rest => ?_
    refine (chains_keeps (unaryAt_keeps maxDepth) Parser.topLevel all start rest).bind
      fun (expr, after) _ => ?_
    dsimp only
    split
    · split
      · exact List.nil_subset all
      · trivial
    · trivial
  rwa [failed] at stays

end NoteBase.Expr
