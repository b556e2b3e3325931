/-
  CollateralLending.Proofs.Token.Run

  Runs of a token. Anyone may mint, approve and move units at any time, in the
  name of any account. Calls that fail are calls too: a run is told by its calls,
  each with its result.
-/
import CollateralLending.Token.TokenLedger

namespace CollateralLending

variable {K : Type}

/-- A direct use of a token. -/
inductive TokenStep (K : Type) where
  | mint (receiver : K) (amount : Amount)
  | approve (owner spender : K) (amount : Amount)
  | transfer (source target : K) (amount : Amount)
  | transferFrom (spender owner target : K) (amount : Amount)

/-- A use of a token with its result. -/
structure TokenCall (K : Type) where
  step : TokenStep K
  result : Except LendingError Unit

/-- What a call counts for by a measure: nothing unless it went through. -/
def TokenCall.counts (measure : TokenStep K → Nat) (call : TokenCall K) : Nat :=
  match call.result with
  | .ok () => measure call.step
  | .error _ => 0

namespace TokenLedger

variable [Ord K] [Std.TransOrd K] [Std.LawfulEqOrd K] [DecidableEq K]

/-- Uses a token. -/
def step (token : TokenLedger K) : TokenStep K → TokenLedger K × Except LendingError Unit
  | .mint receiver amount => token.mint receiver amount
  | .approve owner spender amount => (token.approve owner spender amount, .ok ())
  | .transfer source target amount => token.transfer source target amount
  | .transferFrom spender owner target amount => token.transferFrom spender owner target amount

/-- The use of a token as it ends. -/
def call (token : TokenLedger K) (step : TokenStep K) : TokenCall K := ⟨step, (token.step step).2⟩

variable {token : TokenLedger K} {step : TokenStep K}

@[simp] theorem step_call (token : TokenLedger K) (step : TokenStep K) :
    (token.call step).step = step := rfl

/-- A call that succeeded counts for what its step measures. -/
theorem counts_call_of_ok (measure : TokenStep K → Nat) (h : (token.step step).2 = .ok ()) :
    (token.call step).counts measure = measure step := by
  unfold call TokenCall.counts
  rw [h]

/-- A call that failed counts for nothing. -/
theorem counts_call_of_error (measure : TokenStep K → Nat) {error : LendingError}
    (h : (token.step step).2 = .error error) : (token.call step).counts measure = 0 := by
  unfold call TokenCall.counts
  rw [h]

/-- A step that counts for nothing does so however it ends. -/
theorem counts_call_of_zero (measure : TokenStep K → Nat) (h : measure step = 0) :
    (token.call step).counts measure = 0 := by
  unfold call TokenCall.counts
  split
  · exact h
  · rfl

/-- The token after all steps of a run. -/
def after (token : TokenLedger K) (steps : List (TokenStep K)) : TokenLedger K :=
  steps.foldl (fun token step => (token.step step).1) token

/-- The calls of a run, oldest first. -/
def calls (token : TokenLedger K) : List (TokenStep K) → List (TokenCall K)
  | [] => []
  | step :: steps => token.call step :: (token.step step).1.calls steps

theorem after_cons (token : TokenLedger K) (step : TokenStep K) (steps : List (TokenStep K)) :
    token.after (step :: steps) = (token.step step).1.after steps := rfl

theorem after_snoc (token : TokenLedger K) (steps : List (TokenStep K)) (step : TokenStep K) :
    token.after (steps ++ [step]) = ((token.after steps).step step).1 := by
  unfold after
  rw [List.foldl_append]
  rfl

theorem calls_snoc (token : TokenLedger K) (steps : List (TokenStep K)) (step : TokenStep K) :
    token.calls (steps ++ [step]) = token.calls steps ++ [(token.after steps).call step] := by
  induction steps generalizing token with
  | nil => rfl
  | cons first steps ih =>
      rw [List.cons_append, after_cons]
      unfold calls
      rw [ih, List.cons_append]

end TokenLedger

end CollateralLending
