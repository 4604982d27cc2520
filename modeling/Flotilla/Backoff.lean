import Flotilla.Span
import Flotilla.Text.Blank
import Flotilla.Text.Split

/-!
# Reconnect delays

How long to wait before the next attempt depends on how many attempts in a row have
failed. A policy is a staircase: each step serves failures up to a threshold, and
past the last step the ceiling holds. Thresholds ascend strictly and delays never
descend, the ceiling included; this is part of the type.

A policy is written as a list of steps `failures=seconds` with commas between them.
Blanks around the numbers and empty steps do not matter.
-/

namespace Flotilla

/-- One step of a staircase of delays. -/
structure BackoffStep where
  /-- The last number of failures that the step serves. -/
  upTo : Nat
  delay : Span
  deriving DecidableEq

/-- Why there is no such policy. -/
inductive BackoffError where
  | unorderedThresholds
  | decreasingDelay
  /-- A piece of a written policy that is no step. -/
  | invalidStep (piece : String)
  deriving DecidableEq

namespace BackoffError

/-- The wording of an error. -/
def message : BackoffError → String
  | .unorderedThresholds => "backoff steps must have strictly increasing failure thresholds"
  | .decreasingDelay => "backoff delays must be non-decreasing"
  | .invalidStep piece => "invalid backoff step: " ++ piece

end BackoffError

/-- A staircase of delays. -/
structure BackoffPolicy where
  steps : List BackoffStep
  /-- The delay past the last step. -/
  ceiling : Span
  thresholds_ascend : steps.Pairwise (fun a b => a.upTo < b.upTo)
  delays_rise : steps.Pairwise (fun a b => a.delay ≤ b.delay)
  delays_le_ceiling : ∀ step ∈ steps, step.delay ≤ ceiling

namespace BackoffPolicy

instance : DecidableEq BackoffPolicy := fun a b =>
  if h : a.steps = b.steps ∧ a.ceiling = b.ceiling then
    isTrue (by cases a; cases b; simp_all)
  else isFalse fun heq => h (by simp [heq])

/-- The first thing wrong with a list of steps, going from pair to pair, the ceiling last. -/
def faultOf (ceiling : Span) : List BackoffStep → Option BackoffError
  | [] => none
  | [last] => if ceiling < last.delay then some .decreasingDelay else none
  | a :: b :: rest =>
    if b.upTo ≤ a.upTo then some .unorderedThresholds
    else if b.delay < a.delay then some .decreasingDelay
    else faultOf ceiling (b :: rest)

theorem of_faultOf_eq_none {ceiling : Span} {steps : List BackoffStep}
    (h : faultOf ceiling steps = none) :
    steps.Pairwise (fun a b => a.upTo < b.upTo) ∧
      steps.Pairwise (fun a b => a.delay ≤ b.delay) ∧
      ∀ step ∈ steps, step.delay ≤ ceiling := by
  fun_induction faultOf ceiling steps with
  | case1 => simp
  | case2 last hlt => simp at h
  | case3 last hnlt => simpa using hnlt
  | case4 => simp at h
  | case5 => simp at h
  | case6 a b rest hup hdelay ih =>
    obtain ⟨h₁, h₂, h₃⟩ := ih h
    simp only [Span.lt_iff, Span.le_iff, List.mem_cons, forall_eq_or_imp] at *
    refine ⟨List.pairwise_cons.mpr ⟨?_, h₁⟩, List.pairwise_cons.mpr ⟨?_, h₂⟩, ?_, h₃⟩
    · intro step hstep
      rcases List.mem_cons.mp hstep with rfl | hmem
      · omega
      · have := (List.pairwise_cons.mp h₁).1 step hmem
        omega
    · intro step hstep
      rcases List.mem_cons.mp hstep with rfl | hmem
      · omega
      · have := (List.pairwise_cons.mp h₂).1 step hmem
        omega
    · have := h₃.1
      omega

/-- The policy of these steps and this ceiling. -/
def make (steps : List BackoffStep) (ceiling : Span) : Except BackoffError BackoffPolicy :=
  match h : faultOf ceiling steps with
  | some error => .error error
  | none =>
    .ok ⟨steps, ceiling, (of_faultOf_eq_none h).1, (of_faultOf_eq_none h).2.1,
      (of_faultOf_eq_none h).2.2⟩

/-- The policy that always waits equally long. -/
def fixed (delay : Span) : BackoffPolicy := ⟨[], delay, by simp, by simp, by simp⟩

/-- The steps of the usual policy. -/
def defaultSteps : List BackoffStep :=
  [⟨15, .ofSeconds 3⟩, ⟨20, .ofSeconds 10⟩, ⟨30, .ofSeconds 30⟩]

/-- The usual policy: three seconds for a while, then ten, then half a minute, and in the
end a minute. -/
def usual : BackoffPolicy :=
  ⟨defaultSteps, .ofSeconds 60, by decide, by decide, by decide⟩

/-- The written form of the steps of the usual policy. -/
def usualText : String := "15=3,20=10,30=30"

/-- The step that a piece of a written policy names. -/
def step? (piece : List Char) : Option BackoffStep := do
  let (failures, seconds) ← Split.first '=' piece
  let failures ← Digits.readSigned? (Nat.pow 2 32) (Blank.trim failures)
  let seconds ← Digits.readSigned? (Nat.pow 2 64) (Blank.trim seconds)
  return ⟨failures, .ofSeconds seconds⟩

/-- The pieces of a written policy, trimmed, without the empty ones. -/
def pieces (cs : List Char) : List (List Char) :=
  ((Split.every ',' cs).map Blank.trim).filter fun piece => !piece.isEmpty

/-- The steps that pieces name, or the first piece that names none. -/
def readSteps : List (List Char) → Except BackoffError (List BackoffStep)
  | [] => .ok []
  | piece :: rest =>
    match step? piece with
    | none => .error (.invalidStep (String.ofList piece))
    | some step => (readSteps rest).map (step :: ·)

/-- The policy of a written list of steps. -/
def parse (text : String) (ceiling : Span) : Except BackoffError BackoffPolicy := do
  make (← readSteps (pieces text.toList)) ceiling

/-- The least delay of a policy. -/
def floor (policy : BackoffPolicy) : Span :=
  match policy.steps with
  | [] => policy.ceiling
  | step :: _ => step.delay

/-- The delay after a number of failures in a row. -/
def delayFor (policy : BackoffPolicy) (failures : Nat) : Span :=
  match policy.steps.find? fun step => failures ≤ step.upTo with
  | some step => step.delay
  | none => policy.ceiling

end BackoffPolicy

/-- How many attempts have failed since the last success, and the delay this asks for. -/
structure Reconnect where
  failures : Nat
  backoff : Span
  deriving DecidableEq

namespace Reconnect

/-- The largest number of failures that is counted. -/
def maxFailures : Nat := Nat.pow 2 32 - 1

/-- No attempt has failed. -/
def start (policy : BackoffPolicy) : Reconnect := ⟨0, policy.floor⟩

/-- One more attempt has failed. -/
def fail (policy : BackoffPolicy) (r : Reconnect) : Reconnect :=
  let failures := min (r.failures + 1) maxFailures
  ⟨failures, policy.delayFor failures⟩

/-- So many more attempts have failed. -/
def failTimes (policy : BackoffPolicy) (n : Nat) (r : Reconnect) : Reconnect :=
  if n = 0 then r
  else
    let failures := min (r.failures + n) maxFailures
    ⟨failures, policy.delayFor failures⟩

theorem failTimes_zero (policy : BackoffPolicy) (r : Reconnect) : failTimes policy 0 r = r := rfl

theorem failTimes_succ (policy : BackoffPolicy) (n : Nat) (r : Reconnect) :
    failTimes policy (n + 1) r = failTimes policy n (r.fail policy) := by
  unfold failTimes fail
  split
  · omega
  · split
    · next h => simp [h]
    · have : min (min (r.failures + 1) maxFailures + n) maxFailures =
          min (r.failures + (n + 1)) maxFailures := by omega
      simp only [this]

end Reconnect

end Flotilla
