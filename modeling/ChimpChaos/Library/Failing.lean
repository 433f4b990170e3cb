/-
This file relates the failure of a program to the answers of its calls.

Some calls commit: they change what a program works on for good. A program commits last when a
call that commits is its last one, and a failure after it can only mean that it was refused.
Then a run that fails has committed nothing, and no run commits twice. A program reacts to its
answers when what each of them leaves to be done is as a relation says. A program is steady when
it never panics, so that every run to its end is a value or a failure. All three are judged on
the program alone, with one rule for each way to build it.
-/

import ChimpChaos.Library.Program

namespace ChimpChaos.Library.Program

variable {Call : Type} {Answer : Call → Type} {Error Value Result : Type}

/-! ### Programs that do not commit -/

/-- No call of the program commits. -/
def Quiet (commits : Call → Bool) : Program Call Answer Error Value → Prop
  | .done _ => True
  | .fail _ => True
  | .panic => True
  | .call request next => commits request = false ∧ ∀ answer, (next answer).Quiet commits

section Quiet

variable {commits : Call → Bool} {program : Program Call Answer Error Value}

theorem quiet_call {request : Call} {next : Answer request → Program Call Answer Error Value}
    (harmless : commits request = false) (each : ∀ answer, (next answer).Quiet commits) :
    (Program.call request next).Quiet commits := ⟨harmless, each⟩

theorem quiet_ofExcept (result : Except Error Value) :
    (ofExcept result : Program Call Answer Error Value).Quiet commits := by
  cases result <;> trivial

theorem quiet_ofOption (value : Option Value) :
    (ofOption value : Program Call Answer Error Value).Quiet commits := by
  cases value <;> trivial

theorem Quiet.bind {continuation : Value → Program Call Answer Error Result}
    (quiet : program.Quiet commits) (continues : ∀ value, (continuation value).Quiet commits) :
    (program >>= continuation).Quiet commits := by
  induction program with
  | done value => exact continues value
  | fail error => trivial
  | panic => trivial
  | call request next inductionHypothesis =>
    exact ⟨quiet.1, fun answer => inductionHypothesis answer (quiet.2 answer)⟩

theorem Quiet.attempt (quiet : program.Quiet commits) : program.attempt.Quiet commits := by
  induction program with
  | done value => trivial
  | fail error => trivial
  | panic => trivial
  | call request next inductionHypothesis =>
    exact ⟨quiet.1, fun answer => inductionHypothesis answer (quiet.2 answer)⟩

end Quiet

/-! ### Programs that commit last -/

/-- Nothing is left to call, and a failure has a reason. -/
def FailsOnlyFor (reason : Prop) : Program Call Answer Error Value → Prop
  | .done _ => True
  | .fail _ => reason
  | .panic => True
  | .call .. => False

/-- A call that commits is the last one, and a failure after it means that it was refused. -/
def CommitsLast (commits : Call → Bool) (refused : (request : Call) → Answer request → Prop) :
    Program Call Answer Error Value → Prop
  | .done _ => True
  | .fail _ => True
  | .panic => True
  | .call request next =>
    (commits request = true → ∀ answer, (next answer).FailsOnlyFor (refused request answer)) ∧
      (commits request = false → ∀ answer, (next answer).CommitsLast commits refused)

section CommitsLast

variable {commits : Call → Bool} {refused : (request : Call) → Answer request → Prop}
  {program : Program Call Answer Error Value}

/-- The rule for a call that does not commit. -/
theorem commitsLast_call {request : Call} {next : Answer request → Program Call Answer Error Value}
    (harmless : commits request = false)
    (each : ∀ answer, (next answer).CommitsLast commits refused) :
    (Program.call request next).CommitsLast commits refused := by
  refine ⟨fun does => ?_, fun _ => each⟩
  rw [harmless] at does
  cases does

/-- The rule for the call that commits. -/
theorem commitsLast_commit {request : Call}
    {next : Answer request → Program Call Answer Error Value} (does : commits request = true)
    (each : ∀ answer, (next answer).FailsOnlyFor (refused request answer)) :
    (Program.call request next).CommitsLast commits refused := by
  refine ⟨fun _ => each, fun harmless => ?_⟩
  rw [does] at harmless
  cases harmless

/-- What comes before a program that commits last must not commit. -/
theorem Quiet.commitsLast {continuation : Value → Program Call Answer Error Result}
    (quiet : program.Quiet commits)
    (continues : ∀ value, (continuation value).CommitsLast commits refused) :
    (program >>= continuation).CommitsLast commits refused := by
  induction program with
  | done value => exact continues value
  | fail error => trivial
  | panic => trivial
  | call request next inductionHypothesis =>
    exact commitsLast_call quiet.1 fun answer => inductionHypothesis answer (quiet.2 answer)

theorem FailsOnlyFor.andReturn {reason : Prop} (fails : program.FailsOnlyFor reason)
    (result : Value → Result) :
    (program >>= fun value =>
      (.done (result value) : Program Call Answer Error Result)).FailsOnlyFor reason := by
  cases program with
  | done value => trivial
  | fail error => exact fails
  | panic => trivial
  | call request next => cases fails

/-- What comes after a program that commits last may only return. -/
theorem CommitsLast.andReturn (last : program.CommitsLast commits refused)
    (result : Value → Result) :
    (program >>= fun value => (.done (result value) : Program Call Answer Error Result)).CommitsLast
      commits refused := by
  induction program with
  | done value => trivial
  | fail error => trivial
  | panic => trivial
  | call request next inductionHypothesis =>
    exact ⟨fun does answer => (last.1 does answer).andReturn result,
      fun harmless answer => inductionHypothesis answer (last.2 harmless answer)⟩

/-! ### Their runs -/

variable {State : Type} {step : (request : Call) → State → Answer request → State → Prop}
  {rest : Program Call Answer Error Value} {state final : State}
  {trace : List (Exchange Call Answer)}

theorem FailsOnlyFor.ended {reason : Prop} (fails : program.FailsOnlyFor reason) :
    program.Ended := by
  cases program with
  | call => cases fails
  | _ => trivial

theorem FailsOnlyFor.reason {reason : Prop} {error : Error}
    (fails : (.fail error : Program Call Answer Error Value).FailsOnlyFor reason) : reason := fails

/-- No call comes after one that commits. -/
theorem CommitsLast.nothing_after (last : program.CommitsLast commits refused)
    (reaches : Reaches step program state trace rest final)
    {earlier later : List (Exchange Call Answer)} {exchange : Exchange Call Answer}
    (split : trace = earlier ++ exchange :: later) (does : commits exchange.1 = true) :
    later = [] := by
  induction reaches generalizing earlier with
  | stop program state => simp at split
  | @call request next state middle final answer trace rest answered reaches
      inductionHypothesis =>
    cases earlier with
    | nil =>
      obtain ⟨rfl, rfl⟩ := List.cons.inj split
      exact (reaches.of_ended (last.1 does _).ended).1
    | cons first earlier =>
      obtain ⟨rfl, same⟩ := List.cons.inj split
      by_cases closes : commits request = true
      · rw [(reaches.of_ended (last.1 closes _).ended).1] at same
        simp at same
      · exact inductionHypothesis (last.2 (by simpa using closes) _) same

/-- At most one call of a run commits. -/
theorem CommitsLast.at_most_one (last : program.CommitsLast commits refused)
    (reaches : Reaches step program state trace rest final) :
    (trace.filter fun exchange => commits exchange.1).length ≤ 1 := by
  induction reaches with
  | stop program state => simp
  | @call request next state middle final answer trace rest answered reaches
      inductionHypothesis =>
    by_cases closes : commits request = true
    · rw [(reaches.of_ended (last.1 closes _).ended).1, List.filter_cons]
      split_ifs <;> simp
    · rw [List.filter_cons_of_neg (by simpa using closes)]
      exact inductionHypothesis (last.2 (by simpa using closes) _)

/-- In a run that fails every call that commits was refused. -/
theorem CommitsLast.refused_of_fail (last : program.CommitsLast commits refused)
    (reaches : Reaches step program state trace rest final) {error : Error}
    (failed : rest = .fail error) {exchange : Exchange Call Answer} (member : exchange ∈ trace)
    (does : commits exchange.1 = true) : refused exchange.1 exchange.2 := by
  induction reaches with
  | stop program state => cases member
  | @call request next state middle final answer trace rest answered reaches
      inductionHypothesis =>
    by_cases closes : commits request = true
    · have ends := last.1 closes answer
      obtain ⟨rfl, rfl, -⟩ := reaches.of_ended ends.ended
      obtain rfl := List.mem_singleton.mp member
      rw [failed] at ends
      exact ends.reason
    · rcases List.mem_cons.mp member with rfl | member
      · exact absurd does closes
      · exact inductionHypothesis (last.2 (by simpa using closes) _) failed member

/-- A run that fails leaves alone what only commits change, when refused calls change nothing. -/
theorem CommitsLast.unchanged_of_fail {View : Type} (view : State → View)
    (last : program.CommitsLast commits refused)
    (reaches : Reaches step program state trace rest final)
    (reads : ∀ request before answer after, step request before answer after →
      commits request = false → view after = view before)
    (refuses : ∀ request before answer after, step request before answer after →
      refused request answer → view after = view before)
    {error : Error} (failed : rest = .fail error) : view final = view state := by
  induction reaches with
  | stop program state => rfl
  | @call request next state middle final answer trace rest answered reaches
      inductionHypothesis =>
    by_cases closes : commits request = true
    · have given := last.refused_of_fail (.call answered reaches) failed List.mem_cons_self closes
      obtain ⟨-, -, rfl⟩ := reaches.of_ended (last.1 closes _).ended
      exact refuses _ _ _ _ answered given
    · have harmless : commits request = false := by simpa using closes
      rw [inductionHypothesis (last.2 harmless _) failed]
      exact reads _ _ _ _ answered harmless

end CommitsLast

/-! ### Programs that react to their answers -/

/-- What is left after an answer is as a relation says. -/
def Reacts (reaction : (request : Call) → Answer request → Program Call Answer Error Value → Prop) :
    Program Call Answer Error Value → Prop
  | .done _ => True
  | .fail _ => True
  | .panic => True
  | .call request next =>
    ∀ answer, reaction request answer (next answer) ∧ (next answer).Reacts reaction

section Reacts

variable {reaction : (request : Call) → Answer request → Program Call Answer Error Value → Prop}
  {program : Program Call Answer Error Value}

theorem reacts_ofExcept (result : Except Error Value) :
    (ofExcept result : Program Call Answer Error Value).Reacts reaction := by
  cases result <;> trivial

theorem reacts_ofOption (value : Option Value) :
    (ofOption value : Program Call Answer Error Value).Reacts reaction := by
  cases value <;> trivial

theorem Reacts.bind {continuation : Value → Program Call Answer Error Result}
    {later : (request : Call) → Answer request → Program Call Answer Error Result → Prop}
    (reacts : program.Reacts reaction)
    (closed : ∀ request answer rest, reaction request answer rest →
      later request answer (rest >>= continuation))
    (continues : ∀ value, (continuation value).Reacts later) :
    (program >>= continuation).Reacts later := by
  induction program with
  | done value => exact continues value
  | fail error => trivial
  | panic => trivial
  | call request next inductionHypothesis =>
    exact fun answer =>
      ⟨closed _ _ _ (reacts answer).1, inductionHypothesis answer (reacts answer).2⟩

theorem Reacts.weaken
    {later : (request : Call) → Answer request → Program Call Answer Error Value → Prop}
    (reacts : program.Reacts reaction)
    (implies : ∀ request answer rest, reaction request answer rest → later request answer rest) :
    program.Reacts later := by
  induction program with
  | done value => trivial
  | fail error => trivial
  | panic => trivial
  | call request next inductionHypothesis =>
    exact fun answer =>
      ⟨implies _ _ _ (reacts answer).1, inductionHypothesis answer (reacts answer).2⟩

/-- After an exchange of a run comes the run of what the answer has left. -/
theorem Reacts.reached {State : Type}
    {step : (request : Call) → State → Answer request → State → Prop}
    {rest : Program Call Answer Error Value} {state final : State}
    {trace : List (Exchange Call Answer)} (reacts : program.Reacts reaction)
    (reaches : Reaches step program state trace rest final)
    {exchange : Exchange Call Answer} (member : exchange ∈ trace) :
    ∃ left middle later, reaction exchange.1 exchange.2 left ∧
      Reaches step left middle later rest final ∧ later ⊆ trace := by
  induction reaches with
  | stop program state => cases member
  | call answered reaches inductionHypothesis =>
    rcases List.mem_cons.mp member with rfl | member
    · exact ⟨_, _, _, (reacts _).1, reaches, List.subset_cons_self _ _⟩
    · obtain ⟨left, middle, later, reacted, rests, subset⟩ :=
        inductionHypothesis (reacts _).2 member
      exact ⟨left, middle, later, reacted, rests, List.subset_cons_of_subset _ subset⟩

end Reacts

/-! ### Programs that do not panic -/

/-- The program never panics. -/
def Steady : Program Call Answer Error Value → Prop
  | .done _ => True
  | .fail _ => True
  | .panic => False
  | .call _ next => ∀ answer, (next answer).Steady

section Steady

variable {program : Program Call Answer Error Value}

theorem steady_call {request : Call} {next : Answer request → Program Call Answer Error Value}
    (each : ∀ answer, (next answer).Steady) : (Program.call request next).Steady := each

theorem steady_ofExcept (result : Except Error Value) :
    (ofExcept result : Program Call Answer Error Value).Steady := by
  cases result <;> trivial

theorem Steady.bind {continuation : Value → Program Call Answer Error Result}
    (steady : program.Steady) (continues : ∀ value, (continuation value).Steady) :
    (program >>= continuation).Steady := by
  induction program with
  | done value => exact continues value
  | fail error => trivial
  | panic => exact steady.elim
  | call request next inductionHypothesis =>
    exact fun answer => inductionHypothesis answer (steady answer)

theorem Steady.attempt (steady : program.Steady) : program.attempt.Steady := by
  induction program with
  | done value => trivial
  | fail error => trivial
  | panic => exact steady
  | call request next inductionHypothesis =>
    exact fun answer => inductionHypothesis answer (steady answer)

/-- What a run leaves of a steady program is steady. -/
theorem Steady.reached {State : Type}
    {step : (request : Call) → State → Answer request → State → Prop}
    {rest : Program Call Answer Error Value} {state final : State}
    {trace : List (Exchange Call Answer)} (steady : program.Steady)
    (reaches : Reaches step program state trace rest final) : rest.Steady := by
  induction reaches with
  | stop program state => exact steady
  | call answered reaches inductionHypothesis => exact inductionHypothesis (steady _)

/-- A run to its end of a steady program that follows a contract meets the closing condition. -/
theorem Steady.closes {State : Type}
    {step : (request : Call) → State → Answer request → State → Prop}
    {rest : Program Call Answer Error Value} {state final : State}
    {trace history : List (Exchange Call Answer)}
    {allowed : List (Exchange Call Answer) → Call → Prop}
    {finish : List (Exchange Call Answer) → Except Error Value → Prop} (steady : program.Steady)
    (follows : program.Follows allowed finish history)
    (reaches : Reaches step program state trace rest final) (ended : rest.Ended) :
    ∃ result, rest = ofExcept result ∧ finish (trace.reverse ++ history) result := by
  induction reaches generalizing history with
  | stop program state =>
    cases program with
    | done value => exact ⟨.ok value, rfl, follows⟩
    | fail error => exact ⟨.error error, rfl, follows⟩
    | panic => exact steady.elim
    | call request next => cases ended
  | call answered reaches inductionHypothesis =>
    rw [List.reverse_cons, List.append_assoc]
    exact inductionHypothesis (steady _) (follows.2 _) ended

end Steady

end ChimpChaos.Library.Program
