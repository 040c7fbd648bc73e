import NoteBase.Proofs.Expr.ParserSound

/-!
# Parsers within the limits

What comes behind a phrase must not go on with it, and whether a phrase is taken depends on the
limits only. Phrases that grow to the right, a selection and a chain of operators, are read by a
loop: its fuel does not matter, and it may be left in the middle and gone on with from there.
-/

namespace NoteBase.Expr

open NoteBase.Expr.Parser (topLevel)

/-! ## What may come behind a phrase -/

/-- The token that comes next is not an invalid one. -/
def Clear (rest : List Token) : Prop :=
  ∀ error, rest.head? ≠ some (.invalid error)

/-- No parenthesis comes next, which would make a call of a name. -/
def EndsName (rest : List Token) : Prop :=
  Clear rest ∧ rest.head? ≠ some .leftParen

/-- The token that comes next is no part of an operand, and no operator below a level. -/
def Follows (level : Nat) (rest : List Token) : Prop :=
  EndsName rest ∧ rest.head? ≠ some .dot ∧
    ∀ op : BinaryOp, rest.head? = some op.token → level ≤ op.level

theorem Follows.mono {low high : Nat} {rest : List Token} (follows : Follows high rest)
    (below : low ≤ high) : Follows low rest :=
  ⟨follows.1, follows.2.1, fun op head => Nat.le_trans below (follows.2.2 op head)⟩

theorem follows_nil (level : Nat) : Follows level [] := by
  refine ⟨⟨?_, ?_⟩, ?_, ?_⟩ <;> simp [Clear]

theorem follows_rightParen (level : Nat) (rest : List Token) :
    Follows level (.rightParen :: rest) := by
  refine ⟨⟨?_, ?_⟩, ?_, ?_⟩
  · simp [Clear]
  · simp
  · simp
  · intro op head
    cases op <;> cases head

theorem follows_comma (level : Nat) (rest : List Token) :
    Follows level (.comma :: rest) := by
  refine ⟨⟨?_, ?_⟩, ?_, ?_⟩
  · simp [Clear]
  · simp
  · simp
  · intro op head
    cases op <;> cases head

theorem follows_operator (op : BinaryOp) (rest : List Token) :
    Follows op.level (op.token :: rest) := by
  refine ⟨⟨?_, ?_⟩, ?_, ?_⟩
  · cases op <;> simp [Clear, BinaryOp.token]
  · cases op <;> simp [BinaryOp.token]
  · cases op <;> simp [BinaryOp.token]
  · intro other head
    cases op <;> cases other <;> first | exact Nat.le_refl _ | cases head

theorem Follows.succ_zero {rest : List Token} (follows : Follows 0 rest) : Follows 1 rest := by
  refine ⟨follows.1, follows.2.1, ?_⟩
  intro op _
  cases op <;> decide

theorem endsName_dot (rest : List Token) : EndsName (.dot :: rest) := by
  refine ⟨?_, ?_⟩ <;> simp [Clear]

theorem clear_append {tokens : List Token} (rest : List Token)
    (starts : ∃ first others, tokens = first :: others ∧ Grammar.startsOperand first = true) :
    Clear (tokens ++ rest) := by
  obtain ⟨first, others, rfl, isStart⟩ := starts
  intro error head
  cases head
  cases isStart

/-! ## Results within the limits -/

/-- What a parser gives for a phrase: the phrase if its depth and its nodes are within the
limits. -/
def limited {Result : Type} (budget depth size : Nat) (result : Result) (rest : List Token)
    (nodes : Nat) : Except SyntaxError (Result × ParserState) :=
  if depth ≤ budget ∧ nodes + size ≤ maxNodes then .ok (result, ⟨rest, nodes + size⟩)
  else .error .tooComplex

section Limited

variable {Result Other : Type} {budget depth size nodes : Nat} {result : Result}
  {rest : List Token}

theorem limited_eq_ok (fits : depth ≤ budget) (room : nodes + size ≤ maxNodes) :
    limited budget depth size result rest nodes = .ok (result, ⟨rest, nodes + size⟩) :=
  if_pos ⟨fits, room⟩

theorem limited_leaf (room : nodes ≤ maxNodes) :
    limited budget 0 0 result rest nodes = .ok (result, ⟨rest, nodes⟩) :=
  limited_eq_ok (Nat.zero_le budget) room

theorem limited_eq_error (exceeded : ¬ (depth ≤ budget ∧ nodes + size ≤ maxNodes)) :
    limited budget depth size result rest nodes = .error .tooComplex :=
  if_neg exceeded

theorem limited_bind_eq_error {next : Result × ParserState → Except SyntaxError Other}
    (exceeded : ¬ (depth ≤ budget ∧ nodes + size ≤ maxNodes)) :
    (limited budget depth size result rest nodes >>= next) = .error .tooComplex := by
  rw [limited_eq_error exceeded]
  rfl

/-- A part that exceeds the limits decides the whole, and a part within them is passed on. -/
theorem limited_bind {next : Result × ParserState → Except SyntaxError Other}
    {whole : Except SyntaxError Other}
    (passed : depth ≤ budget → nodes + size ≤ maxNodes →
      next (result, ⟨rest, nodes + size⟩) = whole)
    (failed : ¬ (depth ≤ budget ∧ nodes + size ≤ maxNodes) → whole = .error .tooComplex) :
    (limited budget depth size result rest nodes >>= next) = whole := by
  by_cases within : depth ≤ budget ∧ nodes + size ≤ maxNodes
  · rw [limited_eq_ok within.1 within.2]
    exact passed within.1 within.2
  · rw [limited_bind_eq_error within, failed within]

theorem node_eq_limited (expr : Expr) (fits : depth ≤ budget) :
    Parser.node expr ⟨rest, nodes + size⟩ = limited budget depth (size + 1) expr rest nodes := by
  simp only [Parser.node, limited, fits, true_and, Nat.add_assoc]

end Limited

theorem arrive_eq {tokens : List Token} {nodes : Nat} (clear : Clear tokens) :
    Parser.arrive tokens nodes = .ok ⟨tokens, nodes⟩ := by
  unfold Parser.arrive
  split
  · next error others =>
    exact absurd rfl (clear error)
  · rfl

theorem advance_eq {token : Token} {rest : List Token} {nodes : Nat} (clear : Clear rest) :
    Parser.advance ⟨token :: rest, nodes⟩ = .ok ⟨rest, nodes⟩ :=
  arrive_eq clear

theorem expect_eq {token : Token} {rest : List Token} {nodes : Nat} (clear : Clear rest) :
    Parser.expect token ⟨token :: rest, nodes⟩ = .ok ⟨rest, nodes⟩ := by
  simp [Parser.expect, advance_eq clear]

/-! ## Loops -/

/-- The fuel of a loop does not matter if there is enough for all tokens. -/
def Consumes {Result : Type} (parser : Parser Result) : Prop :=
  ∀ state result after, parser state = .ok (result, after) →
    after.tokens.length < state.tokens.length

theorem Reads.consumes {Result : Type} {Phrase : List Token → Result → Nat → Prop}
    {size : Result → Nat} {budget : Nat} {parser : Parser Result}
    (reads : Reads Phrase size budget parser)
    (nonempty : ∀ tokens result depth, Phrase tokens result depth → tokens ≠ []) :
    Consumes parser := by
  intro state result after done
  obtain ⟨tokens, depth, split, phrase, _⟩ := reads state result after done
  have positive := List.length_pos_iff.mpr (nonempty tokens result depth phrase)
  rw [split, List.length_append]
  omega

theorem bind_congr_ok {First Second : Type} {step : Except SyntaxError First}
    {next other : First → Except SyntaxError Second}
    (same : ∀ middle, step = .ok middle → next middle = other middle) :
    (step >>= next) = (step >>= other) := by
  cases step with
  | error _ =>
      rfl
  | ok middle =>
      exact same middle rfl

theorem ok_bind {First Second : Type} (first : First)
    (next : First → Except SyntaxError Second) :
    (Except.ok first >>= next) = next first := rfl

theorem chainFrom_fuel {level : Nat} {operand : Parser Expr} (consumes : Consumes operand) :
    ∀ {fuel more : Nat} {left : Expr} {state : ParserState},
      state.tokens.length ≤ fuel → fuel ≤ more →
        Parser.chainFrom level operand more left state =
          Parser.chainFrom level operand fuel left state
  | 0, 0, _, _, _, _ => rfl
  | 0, more + 1, left, state, enough, _ => by
      have empty : state.tokens = [] := List.eq_nil_of_length_eq_zero (Nat.le_zero.mp enough)
      simp [Parser.chainFrom, empty]
  | fuel + 1, 0, _, _, _, less => by
      omega
  | fuel + 1, more + 1, left, state, enough, less => by
      unfold Parser.chainFrom
      split
      · next op found =>
        refine bind_congr_ok fun next advanced => ?_
        refine bind_congr_ok ?_
        rintro ⟨right, middle⟩ operandDone
        refine bind_congr_ok ?_
        rintro ⟨joined, after⟩ joinDone
        obtain rfl := advance_eq_ok advanced
        obtain ⟨rfl, rfl, _⟩ := node_eq_ok joinDone
        have shorter := consumes _ _ _ operandDone
        simp only [List.length_tail] at shorter
        refine chainFrom_fuel consumes ?_ (Nat.le_of_succ_le_succ less)
        simp only
        omega
      · rfl

theorem select_keeps_tokens {target result : Expr} {name : String} {state after : ParserState}
    (done : Parser.select target name state = .ok (result, after)) :
    after.tokens = state.tokens := by
  unfold Parser.select at done
  split at done
  · cases done
    rfl
  · obtain ⟨rfl, rfl, _⟩ := node_eq_ok done
    rfl

theorem postfixFrom_fuel {nested : Parser Expr} (consumes : Consumes (Parser.args nested)) :
    ∀ {fuel more : Nat} {target : Expr} {state : ParserState},
      state.tokens.length ≤ fuel → fuel ≤ more →
        Parser.postfixFrom nested more target state =
          Parser.postfixFrom nested fuel target state
  | 0, 0, _, _, _, _ => rfl
  | 0, more + 1, target, state, enough, _ => by
      have empty : state.tokens = [] := List.eq_nil_of_length_eq_zero (Nat.le_zero.mp enough)
      simp [Parser.postfixFrom, empty]
  | fuel + 1, 0, _, _, _, less => by
      omega
  | fuel + 1, more + 1, target, state, enough, less => by
      unfold Parser.postfixFrom
      split
      · next rest tokensEq =>
        refine bind_congr_ok fun pointed advanced => ?_
        obtain rfl := advance_eq_ok advanced
        simp only [tokensEq, List.tail_cons]
        split
        · next name others =>
          refine bind_congr_ok fun named advancedName => ?_
          obtain rfl := advance_eq_ok advancedName
          simp only [tokensEq, List.length_cons] at enough
          simp only [List.tail_cons]
          split
          · next behind =>
            refine bind_congr_ok ?_
            rintro ⟨args, middle⟩ argsDone
            refine bind_congr_ok ?_
            rintro ⟨called, after⟩ nodeDone
            obtain ⟨rfl, rfl, _⟩ := node_eq_ok nodeDone
            have shorter := consumes _ _ _ argsDone
            simp only [List.length_cons] at enough shorter
            refine postfixFrom_fuel consumes ?_ (Nat.le_of_succ_le_succ less)
            simp only
            omega
          · refine bind_congr_ok ?_
            rintro ⟨selected, after⟩ selectDone
            have sameTokens := select_keeps_tokens selectDone
            refine postfixFrom_fuel consumes ?_ (Nat.le_of_succ_le_succ less)
            rw [sameTokens]
            simp only
            omega
        · rfl
      · rfl

/-! ## Parsers of inner phrases -/

/-- The parser of an expression inside of a phrase. -/
def nestedAt : Nat → Parser Expr
  | 0 => Parser.tooDeep
  | budget + 1 => Parser.exprAt budget

/-- The parser of the operand of a unary operator. -/
def operandAt : Nat → Parser Expr
  | 0 => Parser.tooDeep
  | budget + 1 => Parser.unaryAt budget

theorem unaryAt_eq (budget : Nat) :
    Parser.unaryAt budget = Parser.unary (nestedAt budget) (operandAt budget) := by
  cases budget <;> rfl

theorem nestedAt_reads (budget : Nat) :
    Reads (Inner Grammar.Expression) Expr.nodeCount budget (nestedAt budget) := by
  cases budget with
  | zero =>
      exact reads_tooDeep
  | succ budget =>
      exact (exprAt_reads budget).inner

theorem args_consumes (budget : Nat) : Consumes (Parser.args (nestedAt budget)) := by
  refine (args_reads (nestedAt_reads budget)).consumes ?_
  intro tokens args depth phrase
  cases phrase <;> simp

theorem chains_consumes (budget level : Nat) :
    Consumes (Parser.chains (Parser.unaryAt budget) level) := by
  refine (chains_reads (unaryAt_reads budget) level).consumes ?_
  intro tokens expr depth phrase
  exact List.length_pos_iff.mp phrase.length_pos

section Inner

variable {depth size nodes : Nat} {expr : Expr} {tokens rest : List Token}

/-- Going one deeper uses up one of the levels that are left. -/
theorem nestedAt_runs (budget : Nat)
    (runs : ∀ budget, Parser.exprAt budget ⟨tokens, nodes⟩ =
      limited budget depth size expr rest nodes) :
    nestedAt budget ⟨tokens, nodes⟩ = limited budget (depth + 1) size expr rest nodes := by
  cases budget with
  | zero =>
      rw [limited_eq_error (by omega)]
      rfl
  | succ budget =>
      rw [nestedAt, runs budget]
      simp only [limited, Nat.succ_le_succ_iff]

theorem operandAt_runs (budget : Nat)
    (runs : ∀ budget, Parser.unaryAt budget ⟨tokens, nodes⟩ =
      limited budget depth size expr rest nodes) :
    operandAt budget ⟨tokens, nodes⟩ = limited budget (depth + 1) size expr rest nodes := by
  cases budget with
  | zero =>
      rw [limited_eq_error (by omega)]
      rfl
  | succ budget =>
      rw [operandAt, runs budget]
      simp only [limited, Nat.succ_le_succ_iff]

end Inner

/-! ## Going on behind a phrase -/

/-- Reads members and method calls behind a target. -/
def selectOn (budget : Nat) (read : Expr × ParserState) : Except SyntaxError (Expr × ParserState) :=
  Parser.postfixFrom (nestedAt budget) read.2.tokens.length read.1 read.2

/-- Reads operators of a level behind a left operand. -/
def chainOn (budget level : Nat) (read : Expr × ParserState) :
    Except SyntaxError (Expr × ParserState) :=
  Parser.chainFrom level (Parser.chains (Parser.unaryAt budget) (level - 1)) read.2.tokens.length
    read.1 read.2

section GoingOn

variable {budget nodes : Nat} {rest : List Token}

theorem selectOn_of_follows {expr : Expr} (stops : rest.head? ≠ some .dot) :
    selectOn budget (expr, ⟨rest, nodes⟩) = .ok (expr, ⟨rest, nodes⟩) := by
  cases rest with
  | nil =>
      rfl
  | cons token others =>
      have noDot : token ≠ .dot := fun same => stops (same ▸ rfl)
      simp only [selectOn, List.length_cons]
      unfold Parser.postfixFrom
      split
      · next behind tokensEq =>
        exact absurd (List.cons.inj tokensEq).1 noDot
      · rfl

theorem selectOn_member {target : Expr} {name : String} (ends : EndsName rest) :
    selectOn budget (target, ⟨.dot :: .ident name :: rest, nodes⟩) =
      (Parser.select target name ⟨rest, nodes⟩ >>= selectOn budget) := by
  have clearName : Clear (.ident name :: rest) := fun _ head => by cases head
  simp only [selectOn, List.length_cons]
  unfold Parser.postfixFrom
  simp only [advance_eq clearName, ok_bind, advance_eq ends.1]
  split
  · next others =>
    exact absurd rfl ends.2
  · refine bind_congr_ok ?_
    rintro ⟨selected, after⟩ selectDone
    have sameTokens := select_keeps_tokens selectDone
    refine postfixFrom_fuel (args_consumes budget) (Nat.le_refl _) ?_
    rw [sameTokens]
    exact Nat.le_succ _

theorem selectOn_method {target : Expr} {name : String} :
    selectOn budget (target, ⟨.dot :: .ident name :: .leftParen :: rest, nodes⟩) =
      (Parser.args (nestedAt budget) ⟨.leftParen :: rest, nodes⟩ >>= fun read =>
        Parser.node (.method target name read.1) read.2 >>= selectOn budget) := by
  have clearName : Clear (.ident name :: .leftParen :: rest) := fun _ head => by cases head
  have clearOpen : Clear (.leftParen :: rest) := fun _ head => by cases head
  simp only [selectOn, List.length_cons]
  unfold Parser.postfixFrom
  simp only [advance_eq clearName, ok_bind, advance_eq clearOpen]
  refine bind_congr_ok ?_
  rintro ⟨args, middle⟩ argsDone
  refine bind_congr_ok ?_
  rintro ⟨called, after⟩ nodeDone
  obtain ⟨rfl, rfl, _⟩ := node_eq_ok nodeDone
  have shorter := args_consumes budget _ _ _ argsDone
  simp only [List.length_cons] at shorter
  refine postfixFrom_fuel (args_consumes budget) (Nat.le_refl _) ?_
  simp only
  omega

theorem chainOn_of_follows {level : Nat} {expr : Expr} (follows : Follows (level + 1) rest) :
    chainOn budget level (expr, ⟨rest, nodes⟩) = .ok (expr, ⟨rest, nodes⟩) := by
  have stops : rest.head?.bind (Parser.opAtLevel? level) = none := by
    cases found : rest.head?.bind (Parser.opAtLevel? level) with
    | none =>
        rfl
    | some op =>
        obtain ⟨token, head, read⟩ := Option.bind_eq_some_iff.mp found
        obtain ⟨rfl, levelEq⟩ := Grammar.opAtLevel?_eq_some_iff.mp read
        have := follows.2.2 op head
        omega
  cases rest with
  | nil =>
      rfl
  | cons token others =>
      simp only [chainOn, List.length_cons]
      unfold Parser.chainFrom
      simp only [stops]

theorem chainOn_operator {left : Expr} (op : BinaryOp) {level : Nat}
    (levelEq : op.level = level + 1) (clear : Clear rest) :
    chainOn budget (level + 1) (left, ⟨op.token :: rest, nodes⟩) =
      (Parser.chains (Parser.unaryAt budget) level ⟨rest, nodes⟩ >>= fun read =>
        Parser.node (.binary op left read.1) read.2 >>= chainOn budget (level + 1)) := by
  have found : Parser.opAtLevel? (level + 1) op.token = some op :=
    Grammar.opAtLevel?_eq_some_iff.mpr ⟨rfl, levelEq⟩
  simp only [chainOn, List.length_cons]
  unfold Parser.chainFrom
  simp only [List.head?_cons, Option.bind_some, found, advance_eq clear, ok_bind]
  refine bind_congr_ok ?_
  rintro ⟨right, middle⟩ rightDone
  refine bind_congr_ok ?_
  rintro ⟨joined, after⟩ joinDone
  obtain ⟨rfl, rfl, _⟩ := node_eq_ok joinDone
  have shorter := chains_consumes budget level _ _ _ rightDone
  exact chainFrom_fuel (chains_consumes budget level) (Nat.le_refl _) (Nat.le_of_lt shorter)

section Stopping

variable {depth size : Nat} {expr : Expr} {tokens : List Token}

theorem limited_selectOn (stops : rest.head? ≠ some .dot) :
    (limited budget depth size expr rest nodes >>= selectOn budget) =
      limited budget depth size expr rest nodes :=
  limited_bind
    (fun fits room => by rw [selectOn_of_follows stops, limited_eq_ok fits room])
    limited_eq_error

theorem limited_chainOn {level : Nat} (follows : Follows (level + 1) rest) :
    (limited budget depth size expr rest nodes >>= chainOn budget level) =
      limited budget depth size expr rest nodes :=
  limited_bind
    (fun fits room => by rw [chainOn_of_follows follows, limited_eq_ok fits room])
    limited_eq_error

/-- An expression is read to its end if no operator comes behind it. -/
theorem nestedAt_of_chain (budget : Nat) (follows : Follows (topLevel + 1) rest)
    (runs : ∀ budget, Parser.chains (Parser.unaryAt budget) topLevel ⟨tokens, nodes⟩ =
      (limited budget depth size expr rest nodes >>= chainOn budget topLevel)) :
    nestedAt budget ⟨tokens, nodes⟩ = limited budget (depth + 1) size expr rest nodes :=
  nestedAt_runs budget fun budget => (runs budget).trans (limited_chainOn follows)

end Stopping

end GoingOn

end NoteBase.Expr
