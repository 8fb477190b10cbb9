import Highlighter.Text.Basic

/-!
# Readers

A reader goes through a text character by character: a step leads from one state to another and
yields what is met on it, or the text cannot be read.  What is written one after the other is
read one after the other, so the parts of a text can be read on their own.
-/

namespace Highlighter.Reading

variable {σ ε : Type}

section

variable (step : σ → Char → Option (σ × List ε))

/-- Read a text: the state behind it, and what is met on it. -/
def run : σ → Text → Option (σ × List ε)
  | state, [] => some (state, [])
  | state, c :: rest =>
      (step state c).bind fun (next, met) =>
        (run next rest).map fun (last, later) => (last, met ++ later)

/-- Reading a text leads from one state to another, and something is met on it. -/
def Leads (state : σ) (written : Text) (last : σ) (met : List ε) : Prop :=
  run step state written = some (last, met)

end

variable {step : σ → Char → Option (σ × List ε)}

theorem run_append (state : σ) (first second : Text) :
    run step state (first ++ second) =
      (run step state first).bind fun (middle, met) =>
        (run step middle second).map fun (last, later) => (last, met ++ later) := by
  induction first generalizing state with
  | nil => simp [run]
  | cons c rest inductionHypothesis =>
      simp only [List.cons_append, run, inductionHypothesis, Option.bind_assoc]
      congr 1
      funext ⟨next, met⟩
      cases run step next rest with
      | none => rfl
      | some reached =>
          obtain ⟨middle, later⟩ := reached
          simp [Option.map_map, Function.comp_def]

namespace Leads

theorem nil (state : σ) : Leads step state [] state [] :=
  rfl

theorem append {state middle last : σ} {first second : Text} {met later : List ε}
    (here : Leads step state first middle met) (there : Leads step middle second last later) :
    Leads step state (first ++ second) last (met ++ later) := by
  unfold Leads at here there ⊢
  rw [run_append, here]
  simp [there]

theorem single {state last : σ} {c : Char} {met : List ε}
    (here : step state c = some (last, met)) : Leads step state [c] last met := by
  simp [Leads, run, here]

/-- A reader that is led on may stop at the end of what leads it. -/
theorem of_append {state middle last : σ} {first second : Text} {met all : List ε}
    (here : Leads step state first middle met)
    (whole : Leads step state (first ++ second) last all) :
    ∃ later, all = met ++ later ∧ Leads step middle second last later := by
  unfold Leads at here whole
  rw [run_append, here] at whole
  obtain ⟨⟨reached, later⟩, there, same⟩ := Option.map_eq_some_iff.mp whole
  cases same
  exact ⟨later, rfl, there⟩

/-- Characters that a state only takes down. -/
theorem taken (stateOf : Text → σ) {text : Text}
    (takes : ∀ front, ∀ c ∈ text,
      step (stateOf front) c = some (stateOf (front ++ [c]), []))
    (front : Text) : Leads step (stateOf front) text (stateOf (front ++ text)) [] := by
  induction text generalizing front with
  | nil => simpa using nil (stateOf front)
  | cons c rest inductionHypothesis =>
      have first := single (takes front c List.mem_cons_self)
      have others := inductionHypothesis
        (fun earlier d member => takes earlier d (List.mem_cons_of_mem _ member)) (front ++ [c])
      simpa using first.append others

/-- Characters that a state passes over. -/
theorem passed {state : σ} {text : Text} (passes : ∀ c ∈ text, step state c = some (state, [])) :
    Leads step state text state [] :=
  taken (fun _ => state) (fun _ => passes) []

/-- A text whose first character leads into a state that passes over the others. -/
theorem entered {state inside : σ} {text : Text} (filled : text ≠ [])
    (enters : ∀ c ∈ text, step state c = some (inside, []))
    (passes : ∀ c ∈ text, step inside c = some (inside, [])) : Leads step state text inside [] := by
  cases text with
  | nil => contradiction
  | cons c rest =>
      have first := single (enters c List.mem_cons_self)
      exact first.append (passed fun d member => passes d (List.mem_cons_of_mem _ member))

/-- Items that are written one after the other, each of them in a way that is met as something. -/
theorem flatMap {α : Type} {state : σ} {written : α → Text} {meant : α → List ε} {items : List α}
    (each : ∀ item ∈ items, Leads step state (written item) state (meant item)) :
    Leads step state (items.flatMap written) state (items.flatMap meant) := by
  induction items with
  | nil => exact nil state
  | cons item later inductionHypothesis =>
      rw [List.forall_mem_cons] at each
      exact each.1.append (inductionHypothesis each.2)

end Leads

end Highlighter.Reading
