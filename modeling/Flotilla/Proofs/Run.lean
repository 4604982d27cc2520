/-!
# Runs

A system is given by what each of its moves makes of a state, or `none` where the move
cannot be made. `Run` makes moves one after the other, whoever makes them and in whatever
order. The executable runner is proved equivalent to the relation, so that a concrete run
is shown by computing it.

What happens along a run is recorded in a list that only grows at its end. What is said there lasts
until it is undone.
-/

namespace Flotilla

universe u v

section Records

variable {α : Type u} {record before after : List α} {x y : α}

/-- A record that has grown by an entry is split before this entry, or where it was split
before. -/
theorem concat_eq_append_cons_iff : record ++ [y] = before ++ x :: after ↔
    (before = record ∧ x = y ∧ after = []) ∨
      ∃ rest, after = rest ++ [y] ∧ record = before ++ x :: rest := by
  constructor
  · intro h
    obtain rfl | ⟨rest, last, hafter⟩ := List.eq_nil_or_concat after
    · obtain ⟨rfl, hlast⟩ := List.append_inj' h rfl
      exact .inl ⟨rfl, (List.singleton_inj.mp hlast).symm, rfl⟩
    · rw [List.concat_eq_append] at hafter
      subst hafter
      have hsplit : record ++ [y] = (before ++ x :: rest) ++ [last] := by simpa using h
      obtain ⟨rfl, hlast⟩ := List.append_inj' hsplit rfl
      obtain rfl := List.singleton_inj.mp hlast
      exact .inr ⟨rest, rfl, rfl⟩
  · rintro (⟨rfl, rfl, rfl⟩ | ⟨rest, rfl, rfl⟩)
    · rfl
    · simp

end Records

section Lasting

variable {α : Type} {said undone : α → Prop} {entries : List α} {entry : α}

/-- Something has been said, and since then nothing that undoes it. -/
def Lasting (said undone : α → Prop) (entries : List α) : Prop :=
  ∃ before entry after, entries = before ++ entry :: after ∧ said entry ∧
    ∀ later ∈ after, ¬undone later

variable {said' undone' : α → Prop}

theorem Lasting.mono (h : Lasting said undone entries) (hsaid : ∀ {entry}, said entry → said' entry)
    (hundone : ∀ {entry}, undone' entry → undone entry) : Lasting said' undone' entries := by
  obtain ⟨before, entry, after, heq, hentry, hafter⟩ := h
  refine ⟨before, entry, after, heq, hsaid hentry, ?_⟩
  intro later hlater undone
  exact hafter later hlater (hundone undone)

/-- It makes no difference whether one of some things lasts, or that one of them was said. -/
theorem exists_lasting_iff {ι : Type} {saying : ι → α → Prop} :
    (∃ i, Lasting (saying i) undone entries) ↔
      Lasting (fun entry => ∃ i, saying i entry) undone entries := by
  constructor
  · rintro ⟨i, lasting⟩
    exact lasting.mono (fun said => ⟨i, said⟩) id
  · rintro ⟨before, entry, after, heq, ⟨i, said⟩, hafter⟩
    exact ⟨i, before, entry, after, heq, said, hafter⟩

theorem not_lasting_nil : ¬Lasting said undone [] := by
  rintro ⟨before, entry, after, h, -⟩
  simp at h

theorem lasting_concat_iff : Lasting said undone (entries ++ [entry]) ↔
    said entry ∨ Lasting said undone entries ∧ ¬undone entry := by
  simp only [Lasting, concat_eq_append_cons_iff]
  constructor
  · rintro ⟨before, first, after, ⟨rfl, rfl, rfl⟩ | ⟨rest, rfl, rfl⟩, hsaid, hafter⟩
    · exact .inl hsaid
    · rw [List.forall_mem_append, List.forall_mem_singleton] at hafter
      exact .inr ⟨⟨before, first, rest, rfl, hsaid, hafter.1⟩, hafter.2⟩
  · rintro (hsaid | ⟨⟨before, first, rest, rfl, hsaid, hrest⟩, hentry⟩)
    · exact ⟨entries, entry, [], .inl ⟨rfl, rfl, rfl⟩, hsaid, by simp⟩
    · refine ⟨before, first, rest ++ [entry], .inr ⟨rest, rfl, rfl⟩, hsaid, ?_⟩
      rw [List.forall_mem_append, List.forall_mem_singleton]
      exact ⟨hrest, hentry⟩

end Lasting

variable {σ : Type u} {μ : Type v} {step : μ → σ → Option σ}

/-- Moves made one after the other. -/
inductive Run (step : μ → σ → Option σ) : σ → List μ → σ → Prop where
  | nil (s) : Run step s [] s
  | cons {s move next moves finish} (stepped : step move s = some next)
      (rest : Run step next moves finish) : Run step s (move :: moves) finish

/-- Makes the moves one after the other; `none` if one of them cannot be made. -/
def run? (step : μ → σ → Option σ) : List μ → σ → Option σ
  | [], s => some s
  | move :: moves, s => (step move s).bind (run? step moves)

variable {s t u : σ} {moves more : List μ}

theorem run?_iff : run? step moves s = some t ↔ Run step s moves t := by
  induction moves generalizing s with
  | nil =>
      constructor
      · intro h
        obtain rfl := Option.some.inj h
        exact .nil s
      · intro h
        cases h
        rfl
  | cons move moves ih =>
      simp only [run?, Option.bind_eq_some_iff]
      constructor
      · rintro ⟨next, stepped, rest⟩
        exact .cons stepped (ih.mp rest)
      · intro h
        cases h with
        | cons stepped rest => exact ⟨_, stepped, ih.mpr rest⟩

namespace Run

/-- Runs compose. -/
theorem append (first : Run step s moves t) (second : Run step t more u) :
    Run step s (moves ++ more) u := by
  induction first with
  | nil => exact second
  | cons stepped _ ih => exact .cons stepped (ih second)

/-- A run can be looked at halfway. -/
theorem exists_of_append (run : Run step s (moves ++ more) u) :
    ∃ t, Run step s moves t ∧ Run step t more u := by
  induction moves generalizing s with
  | nil => exact ⟨s, .nil s, run⟩
  | cons move moves ih =>
      cases run with
      | cons stepped rest =>
          obtain ⟨t, first, second⟩ := ih rest
          exact ⟨t, .cons stepped first, second⟩

/-- Whatever each of the moves made preserves, the run preserves. -/
theorem invariant {P : σ → Prop} (run : Run step s moves t)
    (preserved : ∀ move ∈ moves, ∀ {s t}, P s → step move s = some t → P t) (h : P s) : P t := by
  induction run with
  | nil => exact h
  | cons stepped _ ih =>
      refine ih ?_ (preserved _ (by simp) h stepped)
      intro move hmove
      exact preserved move (List.mem_cons_of_mem _ hmove)

/-- If moves of a kind use up some measure, there are no more of them than it allows. -/
theorem length_add_le (run : Run step s moves t) (measure : σ → Nat) {own : μ → Prop}
    (decreases : ∀ {move s t}, own move → step move s = some t → measure t < measure s)
    (h : ∀ move ∈ moves, own move) : moves.length + measure t ≤ measure s := by
  induction run with
  | nil => simp
  | cons stepped _ ih =>
      have hstep := decreases (h _ (by simp)) stepped
      have hrest := ih fun move hmove => h move (List.mem_cons_of_mem _ hmove)
      simp only [List.length_cons]
      omega

end Run

end Flotilla
