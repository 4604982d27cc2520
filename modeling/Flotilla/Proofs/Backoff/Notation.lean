import Flotilla.Proofs.Backoff.Staircase
import Flotilla.Proofs.Text.Margin
import Flotilla.Proofs.Text.Numeral
import Flotilla.Proofs.Text.Pieces

/-!
# Written policies

`Lists` says which pieces, the ones between the commas of a text, list which steps, without saying
how a piece is taken apart. A policy is read from exactly the texts whose pieces list steps of which
a policy can be made. If some piece is neither a step nor a gap, the first such piece is reported,
and the order of the steps is not looked at.

Steps of whole seconds can be written down, with blanks around every number and gaps between the
steps, and no such freedom changes the policy that is read.
-/

namespace Flotilla

namespace BackoffPolicy

open Blank (Gap)

/-- A numeral with blanks around it. -/
inductive Padded (bound : Nat) : List Char → Nat → Prop where
  | mk {before numeral after n} (front : Gap before) (h : Digits.Signed bound numeral n)
      (back : Gap after) : Padded bound (before ++ (numeral ++ after)) n

/-- A piece that names a step: the threshold and the seconds, with an equals sign between them. -/
inductive Names : List Char → BackoffStep → Prop where
  | mk {left right failures seconds} (upTo : Padded (Nat.pow 2 32) left failures)
      (delay : Padded (Nat.pow 2 64) right seconds) :
      Names (left ++ '=' :: right) ⟨failures, .ofSeconds seconds⟩

/-- Pieces that list steps: each of them names the next step or is a gap. -/
inductive Lists : List (List Char) → List BackoffStep → Prop where
  | nil : Lists [] []
  | gap {piece pieces steps} (h : Gap piece) (rest : Lists pieces steps) :
      Lists (piece :: pieces) steps
  | step {piece pieces step steps} (h : Names piece step) (rest : Lists pieces steps) :
      Lists (piece :: pieces) (step :: steps)

/-- A piece that is no gap and names no step. -/
def Malformed (piece : List Char) : Prop := ¬Gap piece ∧ ∀ step, ¬Names piece step

/-- The first malformed one of some pieces. -/
inductive FirstMalformed : List (List Char) → List Char → Prop where
  | here {piece pieces} (h : Malformed piece) : FirstMalformed (piece :: pieces) piece
  | later {sound piece pieces} (h : ¬Malformed sound) (rest : FirstMalformed pieces piece) :
      FirstMalformed (sound :: pieces) piece

/-- Pieces in which steps are written down, with blanks around every number and any number of gaps
between the steps. -/
inductive Layout : List (List Char) → List BackoffStep → Prop where
  | nil : Layout [] []
  | gap {piece pieces steps} (h : Gap piece) (rest : Layout pieces steps) :
      Layout (piece :: pieces) steps
  | step {a b c d : List Char} {pieces steps} {failures seconds : Nat} (ha : Gap a) (hb : Gap b)
      (hc : Gap c) (hd : Gap d) (rest : Layout pieces steps) :
      Layout ((a ++ (Digits.render failures ++ b) ++
          '=' :: (c ++ (Digits.render seconds ++ d))) :: pieces)
        (⟨failures, .ofSeconds seconds⟩ :: steps)

/-- A step that a text can name: the threshold has 32 bits, and the delay is a whole number of
seconds of 64 bits. -/
def IsPlain (step : BackoffStep) : Prop :=
  step.upTo < Nat.pow 2 32 ∧ ∃ seconds < Nat.pow 2 64, step.delay = .ofSeconds seconds

/-- The pieces of the plain form, without any blanks. -/
def written (steps : List BackoffStep) : List (List Char) :=
  steps.map fun step => Digits.render step.upTo ++ '=' :: Digits.render step.delay.seconds

variable {cs piece left right before after : List Char} {pieces : List (List Char)}
  {steps : List BackoffStep} {step : BackoffStep} {bound n : Nat}

section Piece

theorem isBlank_of_signed (h : Digits.Signed bound cs n) : ∀ c ∈ cs, Blank.isBlank c = false := by
  intro c hc
  rcases h.isDigit_or_eq_plus c hc with hdigit | rfl
  · exact Blank.isBlank_of_isDigit hdigit
  · decide

theorem readSigned?_trim_iff :
    Digits.readSigned? bound (Blank.trim cs) = some n ↔ Padded bound cs n := by
  rw [Digits.readSigned?_eq_some_iff]
  constructor
  · intro h
    obtain ⟨before, after, hbefore, hafter, -, hcs⟩ := Blank.exists_trim cs
    rw [hcs]
    exact .mk hbefore h hafter
  · rintro ⟨front, numeral, back⟩
    rwa [Blank.trim_append front (Blank.tight_of_forall (isBlank_of_signed numeral)) back]

theorem Padded.append_left (h : Padded bound cs n) (front : Gap before) :
    Padded bound (before ++ cs) n := by
  obtain ⟨hfront, numeral, hback⟩ := h
  rw [← List.append_assoc]
  exact .mk (front.append hfront) numeral hback

theorem Padded.append_right (h : Padded bound cs n) (back : Gap after) :
    Padded bound (cs ++ after) n := by
  obtain ⟨hfront, numeral, hback⟩ := h
  rw [List.append_assoc, List.append_assoc]
  exact .mk hfront numeral (hback.append back)

theorem step?_eq_some_iff :
    step? cs = some step ↔ ∃ left right failures seconds, Split.first '=' cs = some (left, right) ∧
      Padded (Nat.pow 2 32) left failures ∧ Padded (Nat.pow 2 64) right seconds ∧
      step = ⟨failures, .ofSeconds seconds⟩ := by
  simp only [step?, Option.bind_eq_bind, Option.bind_eq_some_iff, Prod.exists, Option.pure_def,
    Option.some.injEq, readSigned?_trim_iff]
  constructor
  · rintro ⟨left, right, hsplit, failures, hleft, seconds, hright, rfl⟩
    exact ⟨left, right, failures, seconds, hsplit, hleft, hright, rfl⟩
  · rintro ⟨left, right, failures, seconds, hsplit, hleft, hright, rfl⟩
    exact ⟨left, right, hsplit, failures, hleft, seconds, hright, rfl⟩

/-- A trimmed piece is read as the step that the piece names. -/
theorem step?_trim_iff : step? (Blank.trim piece) = some step ↔ Names piece step := by
  rw [step?_eq_some_iff]
  constructor
  · rintro ⟨left, right, failures, seconds, hsplit, hleft, hright, rfl⟩
    obtain ⟨before, after, hbefore, hafter, -, hpiece⟩ := Blank.exists_trim piece
    obtain ⟨htrim, -⟩ := Split.first_eq_some hsplit
    have hnamed := Names.mk (hleft.append_left hbefore) (hright.append_right hafter)
    rw [hpiece, htrim]
    simpa using hnamed
  · intro h
    cases h with
    | @mk left right failures seconds hleft hright =>
    obtain @⟨before, numeral, after, _, hbefore, hnumeral, hafter⟩ := hleft
    obtain @⟨between, digits, rest, _, hbetween, hdigits, hrest⟩ := hright
    have htight : Blank.Tight (numeral ++ ((after ++ '=' :: between) ++ digits)) :=
      Blank.tight_append hnumeral.ne_nil hdigits.ne_nil (isBlank_of_signed hnumeral)
        (isBlank_of_signed hdigits)
    have hcore : Blank.trim (before ++ (numeral ++ after) ++ '=' :: (between ++ (digits ++ rest))) =
        (numeral ++ after) ++ '=' :: (between ++ digits) := by
      simpa using Blank.trim_append hbefore htight hrest
    have hequals : '=' ∉ numeral ++ after := List.not_mem_append
      (hnumeral.not_mem rfl (by decide)) (hafter.not_mem (by decide))
    have hnil : Gap [] := List.forall_mem_nil _
    refine ⟨numeral ++ after, between ++ digits, failures, seconds, ?_, ?_, ?_, rfl⟩
    · rw [hcore, Split.first_append_cons hequals]
    · exact Padded.mk hnil hnumeral hafter
    · simpa using Padded.mk hbetween hdigits hnil

theorem Names.not_gap (h : Names piece step) : ¬Gap piece := by
  intro gap
  cases h
  exact gap.not_mem (c := '=') (by decide) (by simp)

end Piece

/-- The trimmed pieces that are looked at. -/
def kept (pieces : List (List Char)) : List (List Char) :=
  (pieces.map Blank.trim).filter fun piece => !piece.isEmpty

theorem kept_of_gap (h : Gap piece) : kept (piece :: pieces) = kept pieces := by
  simp [kept, Blank.trim_eq_nil_iff.mpr h]

theorem kept_of_not_gap (h : ¬Gap piece) :
    kept (piece :: pieces) = Blank.trim piece :: kept pieces := by
  have hne : Blank.trim piece ≠ [] := mt Blank.trim_eq_nil_iff.mp h
  simp [kept, hne]

/-- The steps that are read are those that the pieces list. -/
theorem readSteps_eq_ok_iff : readSteps (kept pieces) = .ok steps ↔ Lists pieces steps := by
  induction pieces generalizing steps with
  | nil =>
      constructor
      · intro h
        obtain rfl := Except.ok.inj h
        exact .nil
      · rintro ⟨⟩
        rfl
  | cons piece pieces ih =>
      by_cases gap : Gap piece
      · rw [kept_of_gap gap, ih]
        constructor
        · exact .gap gap
        · rintro (_ | ⟨-, rest⟩ | ⟨named, -⟩)
          · exact rest
          · exact absurd gap named.not_gap
      · rw [kept_of_not_gap gap, readSteps]
        cases hstep : step? (Blank.trim piece) with
        | none =>
            constructor
            · simp
            · rintro (_ | ⟨hgap, -⟩ | ⟨named, -⟩)
              · exact absurd hgap gap
              · simp [step?_trim_iff.mpr named] at hstep
        | some step =>
            have hnamed := step?_trim_iff.mp hstep
            constructor
            · intro h
              cases hrest : readSteps (kept pieces) with
              | error => simp [hrest, Except.map] at h
              | ok rest =>
                  obtain rfl : step :: rest = steps := by simpa [hrest, Except.map] using h
                  exact .step hnamed (ih.mp hrest)
            · rintro (_ | ⟨hgap, -⟩ | ⟨named, rest⟩)
              · exact absurd hgap gap
              · obtain rfl := Option.some.inj (hstep.symm.trans (step?_trim_iff.mpr named))
                simp [ih.mpr rest, Except.map]

/-- The first malformed piece is reported, with its blanks trimmed. -/
theorem readSteps_eq_error_iff {error : BackoffError} :
    readSteps (kept pieces) = .error error ↔ ∃ piece, FirstMalformed pieces piece ∧
      error = .invalidStep (String.ofList (Blank.trim piece)) := by
  have hlater (sound : List Char) (pieces : List (List Char)) (h : ¬Malformed sound) :
      (∃ piece, FirstMalformed (sound :: pieces) piece ∧
        error = .invalidStep (String.ofList (Blank.trim piece))) ↔
      ∃ piece, FirstMalformed pieces piece ∧
        error = .invalidStep (String.ofList (Blank.trim piece)) := by
    constructor
    · rintro ⟨piece, ⟨malformed⟩ | ⟨-, rest⟩, rfl⟩
      · exact absurd malformed h
      · exact ⟨piece, rest, rfl⟩
    · rintro ⟨piece, rest, rfl⟩
      exact ⟨piece, .later h rest, rfl⟩
  induction pieces with
  | nil =>
      constructor
      · simp [kept, readSteps]
      · rintro ⟨_, ⟨⟩, -⟩
  | cons piece pieces ih =>
      by_cases gap : Gap piece
      · rw [kept_of_gap gap, hlater piece pieces fun h => h.1 gap]
        exact ih
      · rw [kept_of_not_gap gap, readSteps]
        cases hstep : step? (Blank.trim piece) with
        | some step =>
            rw [hlater piece pieces fun h => h.2 step (step?_trim_iff.mp hstep)]
            refine Iff.trans ?_ ih
            cases readSteps (kept pieces) <;> simp [Except.map]
        | none =>
            have malformed : Malformed piece := by
              refine ⟨gap, fun step named => ?_⟩
              simp [step?_trim_iff.mpr named] at hstep
            constructor
            · intro h
              obtain rfl := Except.error.inj h
              exact ⟨piece, .here malformed, rfl⟩
            · rintro ⟨_, _ | ⟨sound, -⟩, rfl⟩
              · rfl
              · exact absurd malformed sound

section Parse

variable {text : String} {ceiling : Span} {policy : BackoffPolicy}

theorem pieces_eq_kept (h : Split.Cuts ',' text.toList pieces) :
    BackoffPolicy.pieces text.toList = kept pieces := by
  rw [BackoffPolicy.pieces, Split.every_eq_iff_cuts.mpr h, kept]

theorem parse_eq (h : Split.Cuts ',' text.toList pieces) :
    parse text ceiling = (readSteps (kept pieces)).bind fun steps => make steps ceiling := by
  rw [← pieces_eq_kept h]
  rfl

theorem parse_eq_ok_iff (h : Split.Cuts ',' text.toList pieces) :
    parse text ceiling = .ok policy ↔
      ∃ steps, Lists pieces steps ∧ make steps ceiling = .ok policy := by
  rw [parse_eq h]
  simp only [← readSteps_eq_ok_iff]
  cases readSteps (kept pieces) <;> simp [Except.bind]

theorem parse_eq_error_iff (h : Split.Cuts ',' text.toList pieces) {error : BackoffError} :
    parse text ceiling = .error error ↔
      (∃ piece, FirstMalformed pieces piece ∧
        error = .invalidStep (String.ofList (Blank.trim piece))) ∨
      ∃ steps, Lists pieces steps ∧ make steps ceiling = .error error := by
  rw [parse_eq h, ← readSteps_eq_error_iff]
  simp only [← readSteps_eq_ok_iff]
  cases readSteps (kept pieces) <;> simp [Except.bind]

end Parse

section Writing

theorem Layout.lists (h : Layout pieces steps) (plain : ∀ step ∈ steps, IsPlain step) :
    Lists pieces steps := by
  induction h with
  | nil => exact .nil
  | gap hgap _ ih => exact .gap hgap (ih plain)
  | @step _ _ _ _ _ _ failures seconds ha hb hc hd _ ih =>
      obtain ⟨⟨hfailures, n, hn, heq⟩, hsteps⟩ := List.forall_mem_cons.mp plain
      obtain rfl : seconds = n := by
        have hnanos := congrArg Span.nanos heq
        simp only [Span.ofSeconds] at hnanos
        omega
      exact .step (.mk (.mk ha (.plain (Digits.numeral_render hfailures)) hb)
        (.mk hc (.plain (Digits.numeral_render hn)) hd)) (ih hsteps)

theorem Layout.apart (h : Layout pieces steps) : ∀ piece ∈ pieces, ',' ∉ piece := by
  have hrender (n : Nat) : ',' ∉ Digits.render n := by
    intro hmem
    exact absurd (Digits.isDigit_of_mem_render hmem) (by decide)
  have hblank : Blank.isBlank ',' = false := by decide
  induction h with
  | nil => simp
  | gap hgap _ ih => exact List.forall_mem_cons.mpr ⟨hgap.not_mem hblank, ih⟩
  | step ha hb hc hd _ ih =>
      refine List.forall_mem_cons.mpr ⟨?_, ih⟩
      simp [ha.not_mem hblank, hb.not_mem hblank, hc.not_mem hblank, hd.not_mem hblank, hrender]

theorem Layout.exists_cuts (h : Layout pieces steps) (plain : ∀ step ∈ steps, IsPlain step) :
    ∃ others, Split.Cuts ',' ([','].intercalate pieces) others ∧ Lists others steps := by
  cases hpieces : pieces with
  | nil =>
      -- Nothing at all is written as an empty text, and this is one piece.
      subst hpieces
      cases h
      exact ⟨[[]], ⟨by simp, by simp, rfl⟩, .gap (List.forall_mem_nil _) .nil⟩
  | cons piece rest =>
      rw [← hpieces]
      exact ⟨pieces, ⟨by simp [hpieces], h.apart, rfl⟩, h.lists plain⟩

theorem layout_written (plain : ∀ step ∈ steps, IsPlain step) : Layout (written steps) steps := by
  have hnil : Gap [] := List.forall_mem_nil _
  induction steps with
  | nil => exact .nil
  | cons step steps ih =>
      obtain ⟨⟨-, n, -, heq⟩, hsteps⟩ := List.forall_mem_cons.mp plain
      obtain ⟨failures, delay⟩ := step
      obtain rfl : delay = .ofSeconds n := heq
      have hseconds : (Span.ofSeconds n).seconds = n := by simp [Span.ofSeconds, Span.seconds]
      have placed : Layout
          (([] ++ (Digits.render failures ++ []) ++ '=' :: ([] ++ (Digits.render n ++ []))) ::
            written steps) (⟨failures, .ofSeconds n⟩ :: steps) :=
        .step hnil hnil hnil hnil (ih hsteps)
      simpa [written, hseconds] using placed

end Writing

/-- A policy is read from the texts whose pieces list steps, and from no others, and it is the one
that is made of these steps; if none can be made of them, this is the error. Any other text has a
malformed piece, and the error names the first one. Steps of whole seconds have a written form, and
their policy is read from it, whatever blanks stand around its numbers and gaps between its
steps. -/
theorem parse_written_steps :
    (∀ (text : String) (ceiling : Span), ∃ pieces, Split.Cuts ',' text.toList pieces ∧
      (∀ policy, parse text ceiling = .ok policy ↔
        ∃ steps, Lists pieces steps ∧ make steps ceiling = .ok policy) ∧
      ∀ error, parse text ceiling = .error error ↔
        (∃ piece, FirstMalformed pieces piece ∧
          error = .invalidStep (String.ofList (Blank.trim piece))) ∨
        ∃ steps, Lists pieces steps ∧ make steps ceiling = .error error) ∧
    ∀ policy : BackoffPolicy, (∀ step ∈ policy.steps, IsPlain step) →
      Layout (written policy.steps) policy.steps ∧
      ∀ pieces, Layout pieces policy.steps →
        parse (String.ofList ([','].intercalate pieces)) policy.ceiling = .ok policy := by
  refine ⟨fun text ceiling => ?_, fun policy plain => ⟨layout_written plain, fun pieces h => ?_⟩⟩
  · have cuts := Split.every_eq_iff_cuts.mp (Eq.refl (Split.every ',' text.toList))
    exact ⟨_, cuts, fun _ => parse_eq_ok_iff cuts, fun _ => parse_eq_error_iff cuts⟩
  · obtain ⟨others, cuts, lists⟩ := h.exists_cuts plain
    rw [parse_eq_ok_iff (by rwa [String.toList_ofList])]
    exact ⟨policy.steps, lists, make_eq_ok_iff.mpr ⟨rfl, rfl⟩⟩

/-- The usual steps with blanks, a tab and empty pieces. -/
theorem parse_written_steps_sample :
    (∀ step ∈ usual.steps, IsPlain step) ∧
    Layout [" 15 = 3".toList, [], "20=\t10 ".toList, "30=30".toList, [' ']] usual.steps ∧
    parse " 15 = 3,,20=\t10 ,30=30, " usual.ceiling = .ok usual := by
  have plain : ∀ step ∈ usual.steps, IsPlain step := by
    simp only [usual, defaultSteps, List.forall_mem_cons]
    exact ⟨⟨by decide, 3, by decide, rfl⟩, ⟨by decide, 10, by decide, rfl⟩,
      ⟨by decide, 30, by decide, rfl⟩, nofun⟩
  have first : " 15 = 3".toList =
      [' '] ++ (Digits.render 15 ++ [' ']) ++ '=' :: ([' '] ++ (Digits.render 3 ++ [])) := by decide
  have second : "20=\t10 ".toList =
      [] ++ (Digits.render 20 ++ []) ++ '=' :: (['\t'] ++ (Digits.render 10 ++ [' '])) := by decide
  have third : "30=30".toList =
      [] ++ (Digits.render 30 ++ []) ++ '=' :: ([] ++ (Digits.render 30 ++ [])) := by decide
  have layout : Layout [" 15 = 3".toList, [], "20=\t10 ".toList, "30=30".toList, [' ']]
      [⟨15, .ofSeconds 3⟩, ⟨20, .ofSeconds 10⟩, ⟨30, .ofSeconds 30⟩] := by
    rw [first, second, third]
    refine .step (by decide) (by decide) (by decide) (by decide) (.gap (by decide) ?_)
    refine .step (by decide) (by decide) (by decide) (by decide) ?_
    exact .step (by decide) (by decide) (by decide) (by decide) (.gap (by decide) .nil)
  have joined : String.ofList ([','].intercalate
      [" 15 = 3".toList, [], "20=\t10 ".toList, "30=30".toList, [' ']]) =
      " 15 = 3,,20=\t10 ,30=30, " := by decide
  have read := (parse_written_steps.2 usual plain).2 _ layout
  rw [joined] at read
  exact ⟨plain, layout, read⟩

/-- The written form of the usual steps. -/
example : String.ofList ([','].intercalate (written defaultSteps)) = usualText := by decide

end BackoffPolicy

end Flotilla
