import NoteBase.Proofs.Expr.ParserSteps

/-!
# A phrase is taken by its parser

On tokens that start with a phrase, a parser takes exactly that phrase if the limits allow it, and
says that it is too complex if they do not; nothing else can go wrong. A phrase that grows to the
right leaves its parser where the loop goes on from the phrase, so that the phrase may be the left
part of a longer one.
-/

namespace NoteBase.Expr

/-! ## Parts of a phrase -/

theorem Grammar.Arguments.starts {tokens : List Token} {args : List Expr} {depth : Nat}
    (arguments : Grammar.Arguments tokens args depth) :
    ∃ rest, tokens = .leftParen :: rest := by
  cases arguments <;> exact ⟨_, rfl⟩

theorem select_of_not_path {target : Expr} {name : String}
    (noPath : ∀ names, target ≠ .property names) :
    Parser.select target name = Parser.node (.member target name) := by
  funext state
  unfold Parser.select
  split
  · next names =>
    exact absurd rfl (noPath names)
  · rfl

theorem unary_of_startsPrimary {nested operand : Parser Expr} {first : Token}
    {others : List Token} {nodes : Nat} (isStart : Grammar.startsPrimary first = true) :
    Parser.unary nested operand ⟨first :: others, nodes⟩ =
      Parser.postfixed nested ⟨first :: others, nodes⟩ := by
  unfold Parser.unary
  cases first <;> first | rfl | cases isStart

theorem args_of_startsOperand {argument : Parser Expr} {first : Token} {others : List Token}
    {nodes : Nat} (isStart : Grammar.startsOperand first = true) :
    Parser.args argument ⟨.leftParen :: first :: others, nodes⟩ =
      Parser.argsFrom argument (others.length + 2) ⟨first :: others, nodes⟩ := by
  have clear : Clear (first :: others) :=
    clear_append others ⟨first, [], rfl, isStart⟩
  unfold Parser.args
  simp only [expect_eq clear, ok_bind]
  split
  · next rest tokensEq =>
    cases tokensEq
    cases isStart
  · rfl

/-! ## Runs -/

-- By induction on the derivation, for every budget and every number of nodes so far: an inner
-- phrase is read with a smaller budget, and a later one with more nodes.
mutual

theorem Grammar.Primary.runs :
    ∀ {tokens : List Token} {expr : Expr} {depth : Nat}, Grammar.Primary tokens expr depth →
      ∀ (budget : Nat) (rest : List Token) (nodes : Nat), nodes ≤ maxNodes → EndsName rest →
        Parser.primary (nestedAt budget) ⟨tokens ++ rest, nodes⟩ =
          limited budget depth expr.nodeCount expr rest nodes
  | _, _, _, .number value, budget, rest, nodes, room, ends => by
      rw [Expr.nodeCount, limited_leaf room]
      simp only [Parser.primary, List.cons_append, List.nil_append, advance_eq ends.1, ok_bind]
  | _, _, _, .text value, budget, rest, nodes, room, ends => by
      rw [Expr.nodeCount, limited_leaf room]
      simp only [Parser.primary, List.cons_append, List.nil_append, advance_eq ends.1, ok_bind]
  | _, _, _, .bool value, budget, rest, nodes, room, ends => by
      rw [Expr.nodeCount, limited_leaf room]
      simp only [Parser.primary, List.cons_append, List.nil_append, advance_eq ends.1, ok_bind]
  | _, _, _, .null, budget, rest, nodes, room, ends => by
      rw [Expr.nodeCount, limited_leaf room]
      simp only [Parser.primary, List.cons_append, List.nil_append, advance_eq ends.1, ok_bind]
  | _, _, _, .name name, budget, rest, nodes, room, ends => by
      simp only [Parser.primary, List.cons_append, List.nil_append, advance_eq ends.1, ok_bind]
      split
      · next others =>
        exact absurd rfl ends.2
      · rw [Expr.nodeCount, limited_leaf room]
  | _, _, _, .call function arguments, budget, rest, nodes, room, ends => by
      have read : Function.ofName? function.name = some function :=
        Grammar.ofName?_eq_some_iff.mpr rfl
      have argsRun := arguments.runs budget rest nodes room ends.1
      obtain ⟨others, rfl⟩ := arguments.starts
      have clear : Clear (.leftParen :: (others ++ rest)) := fun _ head => by cases head
      simp only [List.cons_append] at argsRun
      simp only [Parser.primary, List.cons_append, advance_eq clear, ok_bind, read, argsRun]
      refine limited_bind ?_ ?_
      · intro fits _
        exact node_eq_limited _ fits
      · intro exceeded
        rw [Expr.nodeCount]
        exact limited_eq_error (by omega)
  | _, _, _, .group inner, budget, rest, nodes, room, ends => by
      have innerRun := nestedAt_of_chain budget (follows_rightParen _ rest)
        fun budget => inner.runs budget _ nodes room (follows_rightParen _ rest)
      have clear := clear_append (.rightParen :: rest) inner.starts
      simp only [Parser.primary, List.cons_append, List.append_assoc, List.nil_append,
        advance_eq clear, ok_bind, innerRun]
      refine limited_bind ?_ limited_eq_error
      intro fits within
      rw [limited_eq_ok fits within]
      simp only [expect_eq ends.1, ok_bind]

theorem Grammar.Selection.runs :
    ∀ {tokens : List Token} {expr : Expr} {depth : Nat}, Grammar.Selection tokens expr depth →
      ∀ (budget : Nat) (rest : List Token) (nodes : Nat), nodes ≤ maxNodes → EndsName rest →
        Parser.postfixed (nestedAt budget) ⟨tokens ++ rest, nodes⟩ =
          (limited budget depth expr.nodeCount expr rest nodes >>= selectOn budget)
  | _, _, _, .primary inner, budget, rest, nodes, room, ends => by
      rw [← inner.runs budget rest nodes room ends]
      rfl
  | _, _, _, .path name target, budget, rest, nodes, room, ends => by
      -- Extending a path takes no node, so the limits stay the same.
      rw [List.append_assoc]
      refine (target.runs budget _ nodes room (endsName_dot _)).trans ?_
      simp only [Expr.nodeCount]
      refine limited_bind ?_ ?_
      · intro fits within
        rw [limited_eq_ok fits within]
        exact selectOn_member ends
      · intro exceeded
        exact limited_bind_eq_error exceeded
  | _, _, _, .member name target noPath, budget, rest, nodes, room, ends => by
      rw [List.append_assoc]
      refine (target.runs budget _ nodes room (endsName_dot _)).trans ?_
      refine limited_bind ?_ ?_
      · intro fits _
        refine (selectOn_member ends).trans ?_
        rw [select_of_not_path noPath, node_eq_limited _ fits, Expr.nodeCount]
      · intro exceeded
        rw [Expr.nodeCount]
        exact limited_bind_eq_error (by omega)
  | _, _, _, .method name target arguments, budget, rest, nodes, room, ends => by
      have targetRun := fun others =>
        target.runs budget (.dot :: others) nodes room (endsName_dot others)
      have argsRun := fun nodes room => arguments.runs budget rest nodes room ends.1
      obtain ⟨others, rfl⟩ := arguments.starts
      simp only [List.append_assoc, List.cons_append] at argsRun ⊢
      rw [targetRun, Expr.nodeCount]
      refine limited_bind ?_ ?_
      · intro fits within
        refine selectOn_method.trans ?_
        rw [argsRun _ within]
        refine limited_bind ?_ ?_
        · intro argsFit _
          rw [Nat.add_assoc, node_eq_limited _ (Nat.max_le.mpr ⟨fits, argsFit⟩)]
        · intro exceeded
          exact limited_bind_eq_error (by omega)
      · intro exceeded
        exact limited_bind_eq_error (by omega)

theorem Grammar.Arguments.runs :
    ∀ {tokens : List Token} {args : List Expr} {depth : Nat},
      Grammar.Arguments tokens args depth →
      ∀ (budget : Nat) (rest : List Token) (nodes : Nat), nodes ≤ maxNodes → Clear rest →
        Parser.args (nestedAt budget) ⟨tokens ++ rest, nodes⟩ =
          limited budget depth (Expr.nodeCountOfAll args) args rest nodes
  | _, _, _, .empty, budget, rest, nodes, room, clear => by
      have clearClose : Clear (.rightParen :: rest) := fun _ head => by cases head
      simp only [Parser.args, List.cons_append, List.nil_append, expect_eq clearClose, ok_bind,
        advance_eq clear]
      rw [Expr.nodeCountOfAll, limited_leaf room]
  | _, _, _, .items items, budget, rest, nodes, room, clear => by
      have itemsRun := fun fuel => items.runs budget fuel rest nodes room clear
      obtain ⟨first, others, rfl, isStart⟩ := items.starts
      simp only [List.cons_append, List.append_assoc, List.nil_append] at itemsRun ⊢
      rw [args_of_startsOperand isStart, itemsRun]
      simp only [List.length_cons, List.length_append]
      omega

theorem Grammar.Items.runs :
    ∀ {tokens : List Token} {args : List Expr} {depth : Nat}, Grammar.Items tokens args depth →
      ∀ (budget fuel : Nat) (rest : List Token) (nodes : Nat), nodes ≤ maxNodes →
        Clear rest → tokens.length ≤ fuel →
        Parser.argsFrom (nestedAt budget) fuel ⟨tokens ++ .rightParen :: rest, nodes⟩ =
          limited budget depth (Expr.nodeCountOfAll args) args rest nodes
  | _, _, _, .last inner, budget, fuel, rest, nodes, room, clear, enough => by
      have innerRun := nestedAt_of_chain budget (follows_rightParen _ rest)
        fun budget => inner.runs budget _ nodes room (follows_rightParen _ rest)
      obtain ⟨fuel, rfl⟩ := Nat.exists_eq_add_one.mpr (Nat.lt_of_lt_of_le inner.length_pos enough)
      simp only [Parser.argsFrom, innerRun]
      refine limited_bind ?_ limited_eq_error
      intro fits within
      simp only [advance_eq clear, ok_bind, Expr.nodeCountOfAll, Nat.add_zero]
      exact (limited_eq_ok fits within).symm
  | _, _, _, .more inner others, budget, fuel, rest, nodes, room, clear, enough => by
      have innerRun := fun tail => nestedAt_of_chain budget (follows_comma _ tail)
        fun budget => inner.runs budget _ nodes room (follows_comma _ tail)
      have clearOthers := clear_append (.rightParen :: rest) others.starts
      rw [List.length_append, List.length_cons] at enough
      obtain ⟨fuel, rfl⟩ := Nat.exists_eq_add_one.mpr (Nat.lt_of_lt_of_le (Nat.add_pos_left
        inner.length_pos _) enough)
      have othersRun := fun nodes room =>
        others.runs budget fuel rest nodes room clear (by omega)
      rw [List.append_assoc, List.cons_append]
      simp only [Parser.argsFrom, innerRun, Expr.nodeCountOfAll]
      refine limited_bind ?_ ?_
      · intro fits within
        simp only [advance_eq clearOthers, ok_bind, othersRun _ within]
        refine limited_bind ?_ ?_
        · intro othersFit othersWithin
          rw [limited_eq_ok (Nat.max_le.mpr ⟨fits, othersFit⟩) (by omega), Nat.add_assoc]
        · intro exceeded
          exact limited_eq_error (by omega)
      · intro exceeded
        exact limited_eq_error (by omega)

theorem Grammar.Unary.runs :
    ∀ {tokens : List Token} {expr : Expr} {depth : Nat}, Grammar.Unary tokens expr depth →
      ∀ (budget : Nat) (rest : List Token) (nodes : Nat), nodes ≤ maxNodes → Follows 0 rest →
        Parser.unaryAt budget ⟨tokens ++ rest, nodes⟩ =
          limited budget depth expr.nodeCount expr rest nodes
  | _, _, _, .selection inner, budget, rest, nodes, room, follows => by
      have innerRun := inner.runs budget rest nodes room follows.1
      obtain ⟨first, others, rfl, isStart⟩ := inner.starts
      rw [unaryAt_eq, List.cons_append, unary_of_startsPrimary isStart, ← List.cons_append,
        innerRun, limited_selectOn follows.2.1]
  | _, _, _, .operator op inner, budget, rest, nodes, room, follows => by
      have innerRun := operandAt_runs budget
        fun budget => inner.runs budget rest nodes room follows
      have read : Parser.unaryOp? op.token = some op := Grammar.unaryOp?_eq_some_iff.mpr rfl
      have clear := clear_append rest inner.starts
      rw [unaryAt_eq, List.cons_append, Expr.nodeCount]
      simp only [Parser.unary, List.head?_cons, Option.bind_some, read, advance_eq clear, ok_bind,
        innerRun]
      refine limited_bind ?_ ?_
      · intro fits _
        exact node_eq_limited _ fits
      · intro exceeded
        exact limited_eq_error (by omega)

theorem Grammar.Chain.runs :
    ∀ {level : Nat} {tokens : List Token} {expr : Expr} {depth : Nat},
      Grammar.Chain level tokens expr depth →
      ∀ (budget : Nat) (rest : List Token) (nodes : Nat), nodes ≤ maxNodes → Follows level rest →
        Parser.chains (Parser.unaryAt budget) level ⟨tokens ++ rest, nodes⟩ =
          (limited budget depth expr.nodeCount expr rest nodes >>= chainOn budget level)
  | _, _, _, _, .unary inner, budget, rest, nodes, room, follows => by
      rw [limited_chainOn follows.succ_zero]
      exact inner.runs budget rest nodes room follows
  | _, _, _, _, .lift inner, budget, rest, nodes, room, follows => by
      -- Behind the phrase the loop of the level below has ended.
      have innerRun := inner.runs budget rest nodes room (follows.mono (Nat.le_succ _))
      rw [limited_chainOn follows] at innerRun
      rw [← innerRun]
      rfl
  | _, _, _, _, .operator op levelEq left right, budget, rest, nodes, room, follows => by
      have clear := clear_append rest right.starts
      have below := follows_operator op
      rw [levelEq] at below
      rw [List.append_assoc, List.cons_append, Expr.nodeCount]
      -- The left part leaves the parser in the loop of this level, in front of the operator.
      refine (left.runs budget _ nodes room (below _)).trans ?_
      refine limited_bind ?_ ?_
      · intro fits within
        refine (chainOn_operator op levelEq clear).trans ?_
        rw [right.runs budget rest _ within (follows.mono (Nat.le_succ _)),
          limited_chainOn follows]
        refine limited_bind ?_ ?_
        · intro rightFits _
          rw [Nat.add_assoc, node_eq_limited _ (Nat.max_le.mpr ⟨fits, rightFits⟩)]
        · intro exceeded
          exact limited_bind_eq_error (by omega)
      · intro exceeded
        exact limited_bind_eq_error (by omega)

end

end NoteBase.Expr
