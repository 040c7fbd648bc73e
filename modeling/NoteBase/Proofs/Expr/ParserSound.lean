import NoteBase.Proofs.Expr.Grammar

/-!
# What a parser takes is a phrase

Whenever a parser gives a tree, the tokens that it took from the front derive that tree, are nested
no deeper than allowed, and the nodes of the tree have been counted. The proof goes through the
parsers from the inside out: a parser for phrases of one depth is built from those of the depth
below, and a chain of operators from the chains of the level below.
-/

namespace NoteBase.Expr

open NoteBase.Expr.Parser (topLevel)

/-! ## Steps of a parser -/

theorem bind_eq_ok {First Second : Type} {step : Except SyntaxError First}
    {next : First → Except SyntaxError Second} {result : Second}
    (done : (step >>= next) = .ok result) :
    ∃ middle, step = .ok middle ∧ next middle = .ok result := by
  cases step with
  | error _ =>
      cases done
  | ok middle =>
      exact ⟨middle, rfl, done⟩

theorem arrive_eq_ok {tokens : List Token} {nodes : Nat} {after : ParserState}
    (done : Parser.arrive tokens nodes = .ok after) : after = ⟨tokens, nodes⟩ := by
  unfold Parser.arrive at done
  split at done
  · cases done
  · exact (Except.ok.inj done).symm

theorem advance_eq_ok {state after : ParserState}
    (done : Parser.advance state = .ok after) :
    after = ⟨state.tokens.tail, state.nodes⟩ :=
  arrive_eq_ok done

theorem expect_eq_ok {token : Token} {state after : ParserState}
    (done : Parser.expect token state = .ok after) :
    state.tokens = token :: after.tokens ∧ after.nodes = state.nodes := by
  unfold Parser.expect at done
  split at done
  · next head =>
    obtain rfl := advance_eq_ok done
    obtain ⟨rest, tokensEq⟩ := List.head?_eq_some_iff.mp head
    simp [tokensEq]
  · cases done

theorem node_eq_ok {expr result : Expr} {state after : ParserState}
    (done : Parser.node expr state = .ok (result, after)) :
    result = expr ∧ after = ⟨state.tokens, state.nodes + 1⟩ ∧ state.nodes + 1 ≤ maxNodes := by
  unfold Parser.node at done
  split at done
  · next fits =>
    cases done
    exact ⟨rfl, rfl, fits⟩
  · cases done

/-! ## Reading phrases -/

/-- What a parser has taken when it comes from one state to another: a phrase that is nested at most
`budget` deep, whose nodes are counted. -/
def Takes {Result : Type} (Phrase : List Token → Result → Nat → Prop) (size : Result → Nat)
    (budget : Nat) (state : ParserState) (result : Result) (after : ParserState) : Prop :=
  ∃ tokens depth, state.tokens = tokens ++ after.tokens ∧ Phrase tokens result depth ∧
    depth ≤ budget ∧ after.nodes = state.nodes + size result ∧
    (state.nodes ≤ maxNodes → after.nodes ≤ maxNodes)

def Reads {Result : Type} (Phrase : List Token → Result → Nat → Prop) (size : Result → Nat)
    (budget : Nat) (parser : Parser Result) : Prop :=
  ∀ state result after, parser state = .ok (result, after) →
    Takes Phrase size budget state result after

/-- A phrase that stands inside of another one, which is nested one deeper. -/
def Inner {Result : Type} (Phrase : List Token → Result → Nat → Prop)
    (tokens : List Token) (result : Result) (depth : Nat) : Prop :=
  ∃ inner, Phrase tokens result inner ∧ depth = inner + 1

theorem Reads.inner {Result : Type} {Phrase : List Token → Result → Nat → Prop}
    {size : Result → Nat} {budget : Nat} {parser : Parser Result}
    (reads : Reads Phrase size budget parser) :
    Reads (Inner Phrase) size (budget + 1) parser := by
  intro state result after done
  obtain ⟨tokens, depth, split, phrase, fits, counted, bounded⟩ := reads state result after done
  exact ⟨tokens, depth + 1, split, ⟨depth, phrase, rfl⟩, Nat.succ_le_succ fits, counted, bounded⟩

theorem reads_tooDeep {Phrase : List Token → Expr → Nat → Prop} {size : Expr → Nat}
    {budget : Nat} : Reads Phrase size budget Parser.tooDeep := by
  intro state result after done
  cases done

/-! ## Arguments and primaries -/

section Nested

variable {budget : Nat} {nested : Parser Expr}

theorem argsFrom_takes
    (nestedReads : Reads (Inner Grammar.Expression) Expr.nodeCount budget nested) :
    ∀ (fuel : Nat) {state after : ParserState} {args : List Expr},
      Parser.argsFrom nested fuel state = .ok (args, after) →
        Takes (fun tokens args depth => ∃ items, tokens = items ++ [.rightParen] ∧
          Grammar.Items items args depth) nodeCountOfAll budget state args after
  | 0, _, _, _, done => by
      cases done
  | fuel + 1, state, after, args, done => by
      obtain ⟨⟨arg, middle⟩, argDone, restDone⟩ := bind_eq_ok done
      obtain ⟨tokens, _, split, ⟨depth, phrase, rfl⟩, fits, counted, bounded⟩ :=
        nestedReads state arg middle argDone
      simp only at restDone
      split at restDone
      · next rest tokensEq =>
        obtain ⟨next, advanced, restDone⟩ := bind_eq_ok restDone
        obtain ⟨⟨others, last⟩, othersDone, finish⟩ := bind_eq_ok restDone
        cases finish
        obtain rfl := advance_eq_ok advanced
        obtain ⟨_, restDepth, restSplit, ⟨items, rfl, itemsPhrase⟩, restFits, restCounted,
          restBounded⟩ := argsFrom_takes nestedReads fuel othersDone
        simp only [tokensEq, List.tail_cons] at restSplit restCounted restBounded
        refine ⟨tokens ++ .comma :: (items ++ [.rightParen]), max (depth + 1) restDepth, ?_,
          ⟨tokens ++ .comma :: items, by simp, .more phrase itemsPhrase⟩, ?_, ?_, ?_⟩
        · rw [split, tokensEq, restSplit]
          simp
        · omega
        · simp only [nodeCountOfAll]
          omega
        · intro start
          exact restBounded (bounded start)
      · next rest tokensEq =>
        obtain ⟨next, advanced, finish⟩ := bind_eq_ok restDone
        cases finish
        obtain rfl := advance_eq_ok advanced
        refine ⟨tokens ++ [.rightParen], depth + 1, ?_, ⟨tokens, rfl, .last phrase⟩, fits, ?_,
          bounded⟩
        · rw [split, tokensEq]
          simp
        · simp only [nodeCountOfAll]
          omega
      · cases restDone

theorem args_reads
    (nestedReads : Reads (Inner Grammar.Expression) Expr.nodeCount budget nested) :
    Reads Grammar.Arguments nodeCountOfAll budget (Parser.args nested) := by
  intro state args after done
  obtain ⟨opened, expected, restDone⟩ := bind_eq_ok done
  obtain ⟨tokensEq, nodesEq⟩ := expect_eq_ok expected
  split at restDone
  · next rest openedEq =>
    obtain ⟨next, advanced, finish⟩ := bind_eq_ok restDone
    cases finish
    obtain rfl := advance_eq_ok advanced
    refine ⟨[.leftParen, .rightParen], 0, ?_, .empty, Nat.zero_le budget, ?_, ?_⟩
    · rw [tokensEq, openedEq]
      simp
    · simp [nodeCountOfAll, nodesEq]
    · intro start
      simpa [nodesEq] using start
  · obtain ⟨_, depth, split, ⟨items, rfl, phrase⟩, fits, counted, bounded⟩ :=
      argsFrom_takes nestedReads _ restDone
    refine ⟨.leftParen :: items ++ [.rightParen], depth, ?_, .items phrase, fits, ?_, ?_⟩
    · rw [tokensEq, split]
      simp
    · omega
    · intro start
      exact bounded (by omega)

/-- A literal is one token, which the parser passes. -/
private theorem takes_literal {token : Token} {rest : List Token} {literal expr : Expr}
    {state after : ParserState} {size : Expr → Nat}
    (tokensEq : state.tokens = token :: rest)
    (phrase : Grammar.Primary [token] literal 0)
    (sizeEq : size literal = 0)
    (done : (Parser.advance state >>= fun state => Except.ok (literal, state)) =
      .ok (expr, after)) :
    Takes Grammar.Primary size budget state expr after := by
  obtain ⟨next, advanced, finish⟩ := bind_eq_ok done
  cases finish
  obtain rfl := advance_eq_ok advanced
  refine ⟨[token], 0, ?_, phrase, Nat.zero_le budget, ?_, fun start => start⟩
  · simp [tokensEq]
  · simp [sizeEq]

theorem primary_reads
    (nestedReads : Reads (Inner Grammar.Expression) Expr.nodeCount budget nested) :
    Reads Grammar.Primary Expr.nodeCount budget (Parser.primary nested) := by
  intro state expr after done
  unfold Parser.primary at done
  split at done
  · next value rest tokensEq =>
    exact takes_literal tokensEq (.number value) rfl done
  · next value rest tokensEq =>
    exact takes_literal tokensEq (.text value) rfl done
  · next value rest tokensEq =>
    exact takes_literal tokensEq (.bool value) rfl done
  · next rest tokensEq =>
    exact takes_literal tokensEq .null rfl done
  · next rest tokensEq =>
    obtain ⟨opened, advanced, innerDone⟩ := bind_eq_ok done
    obtain rfl := advance_eq_ok advanced
    obtain ⟨⟨inner, middle⟩, nestedDone, closing⟩ := bind_eq_ok innerDone
    obtain ⟨closed, expected, finish⟩ := bind_eq_ok closing
    cases finish
    obtain ⟨tokens, _, split, ⟨depth, phrase, rfl⟩, fits, counted, bounded⟩ :=
      nestedReads _ _ _ nestedDone
    obtain ⟨closeEq, nodesEq⟩ := expect_eq_ok expected
    simp only [tokensEq, List.tail_cons] at split counted bounded
    refine ⟨.leftParen :: tokens ++ [.rightParen], depth + 1, ?_, .group phrase, fits, ?_, ?_⟩
    · rw [tokensEq, split, closeEq]
      simp
    · omega
    · intro start
      have := bounded start
      omega
  · next name rest tokensEq =>
    obtain ⟨next, advanced, callDone⟩ := bind_eq_ok done
    obtain rfl := advance_eq_ok advanced
    simp only [tokensEq, List.tail_cons] at callDone
    split at callDone
    · next others =>
      split at callDone
      · next function named =>
        obtain ⟨⟨args, middle⟩, argsDone, nodeDone⟩ := bind_eq_ok callDone
        obtain ⟨tokens, depth, split, phrase, fits, counted, bounded⟩ :=
          args_reads nestedReads _ args middle argsDone
        obtain ⟨rfl, rfl, room⟩ := node_eq_ok nodeDone
        obtain rfl := Grammar.ofName?_eq_some_iff.mp named
        refine ⟨.ident function.name :: tokens, depth, ?_, .call function phrase, fits, ?_,
          fun _ => room⟩
        · simp only at split
          rw [tokensEq, split]
          rfl
        · simp only [nodeCount] at counted ⊢
          omega
      · cases callDone
    · cases callDone
      refine ⟨[.ident name], 0, ?_, .name name, Nat.zero_le budget, rfl, fun start => start⟩
      simp [tokensEq]
  · cases done

/-! ## Members and method calls -/

theorem select_eq_ok {target result : Expr} {name : String} {state after : ParserState}
    (done : Parser.select target name state = .ok (result, after)) {tokens : List Token}
    {depth : Nat} (phrase : Grammar.Selection tokens target depth) :
    after.tokens = state.tokens ∧
      Grammar.Selection (tokens ++ [.dot, .ident name]) result depth ∧
      after.nodes + target.nodeCount = state.nodes + result.nodeCount ∧
      (state.nodes ≤ maxNodes → after.nodes ≤ maxNodes) := by
  unfold Parser.select at done
  split at done
  · next names =>
    cases done
    exact ⟨rfl, .path name phrase, rfl, fun start => start⟩
  · next noPath =>
    obtain ⟨rfl, rfl, room⟩ := node_eq_ok done
    refine ⟨rfl, .member name phrase noPath, ?_, fun _ => room⟩
    simp only [nodeCount]
    omega

/-- What stands behind a target is taken together with it. -/
theorem postfixFrom_takes
    (nestedReads : Reads (Inner Grammar.Expression) Expr.nodeCount budget nested) :
    ∀ (fuel : Nat) {targetTokens : List Token} {target result : Expr} {targetDepth : Nat}
      {state after : ParserState},
      Parser.postfixFrom nested fuel target state = .ok (result, after) →
        Grammar.Selection targetTokens target targetDepth → targetDepth ≤ budget →
          ∃ tokens depth, state.tokens = tokens ++ after.tokens ∧
            Grammar.Selection (targetTokens ++ tokens) result depth ∧ depth ≤ budget ∧
            after.nodes + target.nodeCount = state.nodes + result.nodeCount ∧
            (state.nodes ≤ maxNodes → after.nodes ≤ maxNodes)
  | 0, _, _, _, targetDepth, _, _, done, phrase, fits => by
      cases done
      exact ⟨[], targetDepth, rfl, by simpa using phrase, fits, rfl, fun start => start⟩
  | fuel + 1, targetTokens, target, result, targetDepth, state, after, done, phrase, fits => by
      unfold Parser.postfixFrom at done
      split at done
      · next rest tokensEq =>
        obtain ⟨pointed, advanced, nameDone⟩ := bind_eq_ok done
        obtain rfl := advance_eq_ok advanced
        simp only [tokensEq, List.tail_cons] at nameDone
        split at nameDone
        · next name others =>
          obtain ⟨named, advancedName, stepDone⟩ := bind_eq_ok nameDone
          obtain rfl := advance_eq_ok advancedName
          simp only [List.tail_cons] at stepDone
          split at stepDone
          · next behind =>
            obtain ⟨⟨args, closed⟩, argsDone, nodeDone⟩ := bind_eq_ok stepDone
            obtain ⟨⟨called, counter⟩, callDone, loopDone⟩ := bind_eq_ok nodeDone
            obtain ⟨argTokens, argDepth, split, argPhrase, argFits, counted, bounded⟩ :=
              args_reads nestedReads _ args closed argsDone
            obtain ⟨rfl, rfl, room⟩ := node_eq_ok callDone
            obtain ⟨tokens, depth, restSplit, whole, restFits, restCounted, restBounded⟩ :=
              postfixFrom_takes nestedReads fuel loopDone (.method name phrase argPhrase)
                (Nat.max_le.mpr ⟨fits, argFits⟩)
            refine ⟨.dot :: .ident name :: argTokens ++ tokens, depth, ?_, ?_, restFits, ?_,
              fun _ => restBounded room⟩
            · simp only at split restSplit
              rw [tokensEq, split, restSplit]
              simp
            · simpa using whole
            · simp only [nodeCount] at counted restCounted ⊢
              omega
          · obtain ⟨⟨extended, middle⟩, extendDone, loopDone⟩ := bind_eq_ok stepDone
            obtain ⟨sameTokens, selected, counted, bounded⟩ := select_eq_ok extendDone phrase
            obtain ⟨tokens, depth, restSplit, whole, restFits, restCounted, restBounded⟩ :=
              postfixFrom_takes nestedReads fuel loopDone selected fits
            refine ⟨.dot :: .ident name :: tokens, depth, ?_, ?_, restFits, ?_,
              fun start => restBounded (bounded start)⟩
            · simp only at sameTokens restSplit
              rw [tokensEq, ← sameTokens, restSplit]
              simp
            · simpa using whole
            · simp only at counted restCounted
              omega
        · cases nameDone
      · cases done
        exact ⟨[], targetDepth, rfl, by simpa using phrase, fits, rfl, fun start => start⟩

theorem postfixed_reads
    (nestedReads : Reads (Inner Grammar.Expression) Expr.nodeCount budget nested) :
    Reads Grammar.Selection Expr.nodeCount budget (Parser.postfixed nested) := by
  intro state expr after done
  obtain ⟨⟨target, middle⟩, primaryDone, restDone⟩ := bind_eq_ok done
  obtain ⟨tokens, depth, split, phrase, fits, counted, bounded⟩ :=
    primary_reads nestedReads state target middle primaryDone
  obtain ⟨more, wholeDepth, restSplit, whole, wholeFits, restCounted, restBounded⟩ :=
    postfixFrom_takes nestedReads _ restDone (.primary phrase) fits
  refine ⟨tokens ++ more, wholeDepth, ?_, whole, wholeFits, by omega,
    fun start => restBounded (bounded start)⟩
  rw [split, restSplit, List.append_assoc]

end Nested

/-! ## Operators -/

theorem unary_reads {budget : Nat} {nested operand : Parser Expr}
    (nestedReads : Reads (Inner Grammar.Expression) Expr.nodeCount budget nested)
    (operandReads : Reads (Inner Grammar.Unary) Expr.nodeCount budget operand) :
    Reads Grammar.Unary Expr.nodeCount budget (Parser.unary nested operand) := by
  intro state expr after done
  unfold Parser.unary at done
  split at done
  · next op found =>
    obtain ⟨token, head, read⟩ := Option.bind_eq_some_iff.mp found
    obtain ⟨rest, tokensEq⟩ := List.head?_eq_some_iff.mp head
    obtain rfl := Grammar.unaryOp?_eq_some_iff.mp read
    obtain ⟨next, advanced, operandDone⟩ := bind_eq_ok done
    obtain rfl := advance_eq_ok advanced
    obtain ⟨⟨inner, middle⟩, innerDone, nodeDone⟩ := bind_eq_ok operandDone
    obtain ⟨tokens, _, split, ⟨depth, phrase, rfl⟩, fits, counted, bounded⟩ :=
      operandReads _ inner middle innerDone
    obtain ⟨rfl, rfl, room⟩ := node_eq_ok nodeDone
    simp only [tokensEq, List.tail_cons] at split counted
    refine ⟨op.token :: tokens, depth + 1, ?_, .operator op phrase, fits, ?_, fun _ => room⟩
    · rw [tokensEq, split]
      rfl
    · simp only [nodeCount]
      omega
  · obtain ⟨tokens, depth, split, phrase, rest⟩ := postfixed_reads nestedReads state expr after done
    exact ⟨tokens, depth, split, .selection phrase, rest⟩

/-- The operators of one level behind a left operand are taken together with it. -/
theorem chainFrom_takes {budget level : Nat} {operand : Parser Expr}
    (operandReads : Reads (Grammar.Chain level) Expr.nodeCount budget operand) :
    ∀ (fuel : Nat) {leftTokens : List Token} {left result : Expr} {leftDepth : Nat}
      {state after : ParserState},
      Parser.chainFrom (level + 1) operand fuel left state = .ok (result, after) →
        Grammar.Chain (level + 1) leftTokens left leftDepth → leftDepth ≤ budget →
          ∃ tokens depth, state.tokens = tokens ++ after.tokens ∧
            Grammar.Chain (level + 1) (leftTokens ++ tokens) result depth ∧ depth ≤ budget ∧
            after.nodes + left.nodeCount = state.nodes + result.nodeCount ∧
            (state.nodes ≤ maxNodes → after.nodes ≤ maxNodes)
  | 0, _, _, _, leftDepth, _, _, done, phrase, fits => by
      cases done
      exact ⟨[], leftDepth, rfl, by simpa using phrase, fits, rfl, fun start => start⟩
  | fuel + 1, leftTokens, left, result, leftDepth, state, after, done, phrase, fits => by
      unfold Parser.chainFrom at done
      split at done
      · next op found =>
        obtain ⟨token, head, read⟩ := Option.bind_eq_some_iff.mp found
        obtain ⟨rest, tokensEq⟩ := List.head?_eq_some_iff.mp head
        obtain ⟨rfl, levelEq⟩ := Grammar.opAtLevel?_eq_some_iff.mp read
        obtain ⟨next, advanced, operandDone⟩ := bind_eq_ok done
        obtain rfl := advance_eq_ok advanced
        obtain ⟨⟨right, middle⟩, rightDone, nodeDone⟩ := bind_eq_ok operandDone
        obtain ⟨⟨joined, counter⟩, joinDone, loopDone⟩ := bind_eq_ok nodeDone
        obtain ⟨rightTokens, rightDepth, split, rightPhrase, rightFits, counted, bounded⟩ :=
          operandReads _ right middle rightDone
        obtain ⟨rfl, rfl, room⟩ := node_eq_ok joinDone
        obtain ⟨tokens, depth, restSplit, whole, restFits, restCounted, restBounded⟩ :=
          chainFrom_takes operandReads fuel loopDone (.operator op levelEq phrase rightPhrase)
            (Nat.max_le.mpr ⟨fits, rightFits⟩)
        simp only [tokensEq, List.tail_cons] at split restSplit counted
        refine ⟨op.token :: rightTokens ++ tokens, depth, ?_, ?_, restFits, ?_,
          fun _ => restBounded room⟩
        · rw [tokensEq, split, restSplit]
          simp
        · simpa using whole
        · simp only [nodeCount] at restCounted
          omega
      · cases done
        exact ⟨[], leftDepth, rfl, by simpa using phrase, fits, rfl, fun start => start⟩

theorem chains_reads {budget : Nat} {operand : Parser Expr}
    (operandReads : Reads Grammar.Unary Expr.nodeCount budget operand) (level : Nat) :
    Reads (Grammar.Chain level) Expr.nodeCount budget (Parser.chains operand level) := by
  induction level with
  | zero =>
      intro state expr after done
      obtain ⟨tokens, depth, split, phrase, rest⟩ := operandReads state expr after done
      exact ⟨tokens, depth, split, .unary phrase, rest⟩
  | succ level inductionHypothesis =>
      intro state expr after done
      obtain ⟨⟨left, middle⟩, leftDone, restDone⟩ := bind_eq_ok done
      obtain ⟨tokens, depth, split, phrase, fits, counted, bounded⟩ :=
        inductionHypothesis state left middle leftDone
      obtain ⟨more, wholeDepth, restSplit, whole, wholeFits, restCounted, restBounded⟩ :=
        chainFrom_takes inductionHypothesis _ restDone (.lift phrase) fits
      refine ⟨tokens ++ more, wholeDepth, ?_, whole, wholeFits, by omega,
        fun start => restBounded (bounded start)⟩
      rw [split, restSplit, List.append_assoc]

/-! ## Expressions -/

theorem unaryAt_reads (depth : Nat) :
    Reads Grammar.Unary Expr.nodeCount depth (Parser.unaryAt depth) := by
  induction depth with
  | zero =>
      exact unary_reads reads_tooDeep reads_tooDeep
  | succ depth inductionHypothesis =>
      exact unary_reads (chains_reads inductionHypothesis topLevel).inner inductionHypothesis.inner

theorem exprAt_reads (depth : Nat) :
    Reads Grammar.Expression Expr.nodeCount depth (Parser.exprAt depth) :=
  chains_reads (unaryAt_reads depth) topLevel

end NoteBase.Expr
