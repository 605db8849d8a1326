import JsonSchema.Inquiry
import Mathlib.Data.List.Forall2
import Mathlib.Order.Basic

/-!
Laws of computations that ask. Answers are described in two ways: by a relation between questions and answers alone,
and by steps that also change a state. What every step keeps, a whole computation keeps.
-/
namespace JsonSchema.Inquiry

variable {ε κ ι α β σ : Type}

@[simp] theorem pure_eq (value : α) : (pure value : Inquiry ε κ ι α) = done value := rfl

@[simp] theorem done_bind (value : α) (f : α → Inquiry ε κ ι β) : (done value >>= f) = f value := rfl

@[simp] theorem fail_bind (error : ε) (f : α → Inquiry ε κ ι β) : (fail error >>= f) = fail error := rfl

@[simp] theorem ask_bind (question : κ) (next : ι → Inquiry ε κ ι α) (f : α → Inquiry ε κ ι β) :
    (ask question next >>= f) = ask question fun answer => next answer >>= f := rfl

theorem map_id (x : Inquiry ε κ ι α) : id <$> x = x := by
  induction x with
  | done => rfl
  | fail => rfl
  | ask question next ih => exact congrArg (ask question) (funext ih)

theorem bind_bind {γ : Type} (x : Inquiry ε κ ι α) (f : α → Inquiry ε κ ι β) (g : β → Inquiry ε κ ι γ) :
    x >>= f >>= g = x >>= fun a => f a >>= g := by
  induction x with
  | done => rfl
  | fail => rfl
  | ask question next ih => exact congrArg (ask question) (funext ih)

instance : LawfulMonad (Inquiry ε κ ι) := LawfulMonad.mk' _ map_id (fun _ _ => rfl) bind_bind

/-- Some answers, each of which fits its question, lead to a value. -/
inductive Yields (fits : κ → ι → Prop) : Inquiry ε κ ι α → α → Prop
  | done (value : α) : Yields fits (.done value) value
  | ask {question : κ} {answer : ι} {next : ι → Inquiry ε κ ι α} {value : α} :
    fits question answer → Yields fits (next answer) value → Yields fits (.ask question next) value

variable {fits : κ → ι → Prop}

@[simp] theorem yields_done {value other : α} : Yields fits (done value : Inquiry ε κ ι α) other ↔ other = value := by
  constructor
  · rintro ⟨⟩
    rfl
  · rintro rfl
    exact .done _

@[simp] theorem yields_fail {error : ε} {value : α} : ¬Yields fits (fail error : Inquiry ε κ ι α) value := by
  rintro ⟨⟩

theorem yields_ask {question : κ} {next : ι → Inquiry ε κ ι α} {value : α} :
    Yields fits (.ask question next) value ↔ ∃ answer, fits question answer ∧ Yields fits (next answer) value := by
  constructor
  · rintro ⟨⟩
    exact ⟨_, ‹_›, ‹_›⟩
  · rintro ⟨answer, hfit, hnext⟩
    exact .ask hfit hnext

@[simp] theorem yields_answer {question : κ} {value : ι} :
    Yields fits (answer question : Inquiry ε κ ι ι) value ↔ fits question value := by
  simp [answer, yields_ask]

@[simp] theorem yields_ofExcept {result : Except ε α} {value : α} :
    Yields fits (ofExcept result : Inquiry ε κ ι α) value ↔ result = .ok value := by
  cases result <;> simp [ofExcept, eq_comm]

@[simp] theorem yields_bind {x : Inquiry ε κ ι α} {f : α → Inquiry ε κ ι β} {value : β} :
    Yields fits (x >>= f) value ↔ ∃ a, Yields fits x a ∧ Yields fits (f a) value := by
  induction x with
  | done => simp
  | fail => simp
  | ask question next ih =>
    simp only [ask_bind, yields_ask, ih]
    constructor
    · rintro ⟨answer, hfit, a, hx, hf⟩
      exact ⟨a, ⟨answer, hfit, hx⟩, hf⟩
    · rintro ⟨a, ⟨answer, hfit, hx⟩, hf⟩
      exact ⟨answer, hfit, a, hx, hf⟩

theorem yields_bind_pure {x : Inquiry ε κ ι α} {f : α → β} {value : β} :
    Yields fits (do pure (f (← x))) value ↔ ∃ a, Yields fits x a ∧ value = f a := by
  simp

@[simp] theorem yields_map {x : Inquiry ε κ ι α} {f : α → β} {value : β} :
    Yields fits (f <$> x) value ↔ ∃ a, Yields fits x a ∧ value = f a := by
  rw [map_eq_pure_bind]
  simp

@[simp] theorem yields_mapM {f : α → Inquiry ε κ ι β} {inputs : List α} {values : List β} :
    Yields fits (inputs.mapM f) values ↔ List.Forall₂ (fun a b => Yields fits (f a) b) inputs values := by
  induction inputs generalizing values with
  | nil => simp
  | cons input rest ih =>
    simp only [List.mapM_cons, yields_bind, ih, pure_eq, yields_done, List.forall₂_cons_left_iff, exists_and_left]

@[simp] theorem yields_optionMapM {f : α → Inquiry ε κ ι β} {input : Option α} {value : Option β} :
    Yields fits (input.mapM f) value ↔ Option.Rel (fun a b => Yields fits (f a) b) input value := by
  cases input with
  | none => cases value <;> simp
  | some a => cases value <;> simp

theorem Yields.foldlM {f : β → α → Inquiry ε κ ι β} {inputs : List α} {start last : β} {motive : β → Prop}
    (h : Yields fits (inputs.foldlM f start) last) (hstart : motive start)
    (hstep : ∀ input ∈ inputs, ∀ mid next, motive mid → Yields fits (f mid input) next → motive next) :
    motive last := by
  induction inputs generalizing start with
  | nil =>
    obtain rfl := yields_done.mp h
    exact hstart
  | cons input rest ih =>
    rw [List.foldlM_cons, yields_bind] at h
    obtain ⟨next, hnext, hrest⟩ := h
    exact ih hrest (hstep input (by simp) start next hstart hnext) fun other hmem => hstep other (by simp [hmem])

theorem Yields.mono {other : κ → ι → Prop} {x : Inquiry ε κ ι α} {value : α} (h : Yields fits x value)
    (hfits : ∀ question answer, fits question answer → other question answer) : Yields other x value := by
  induction h with
  | done => exact .done _
  | ask hfit _ ih => exact .ask (hfits _ _ hfit) ih

/-- Answering some questions, one after the other, leads from a computation in one state to what is left of it in
another. -/
inductive Reaches (step : κ → σ → ι → σ → Prop) : Inquiry ε κ ι α → σ → Inquiry ε κ ι α → σ → Prop
  | refl (x : Inquiry ε κ ι α) (state : σ) : Reaches step x state x state
  | ask {question : κ} {answer : ι} {next : ι → Inquiry ε κ ι α} {rest : Inquiry ε κ ι α} {first second last : σ} :
    step question first answer second → Reaches step (next answer) second rest last →
      Reaches step (.ask question next) first rest last

section Invariants

variable {step : κ → σ → ι → σ → Prop} {x rest : Inquiry ε κ ι α} {first last : σ}

/-- What every step keeps, and the order in which every step moves the state, holds of many steps. -/
theorem Reaches.keeps [Preorder σ] {invariant : σ → Prop} (h : Reaches step x first rest last)
    (hstep : ∀ question state answer next, invariant state → step question state answer next →
      invariant next ∧ state ≤ next) (hfirst : invariant first) : invariant last ∧ first ≤ last := by
  induction h with
  | refl => exact ⟨hfirst, le_refl _⟩
  | ask hs _ ih =>
    obtain ⟨hsecond, hle⟩ := hstep _ _ _ _ hfirst hs
    obtain ⟨hlast, hle'⟩ := ih hsecond
    exact ⟨hlast, le_trans hle hle'⟩

theorem Reaches.yields [Preorder σ] {invariant : σ → Prop} (fits : σ → κ → ι → Prop) {value : α}
    (h : Reaches step x first (.done value) last)
    (hstep : ∀ question state answer next, invariant state → step question state answer next →
      (invariant next ∧ state ≤ next) ∧ fits next question answer)
    (hmono : ∀ state next question answer, state ≤ next → fits state question answer → fits next question answer)
    (hfirst : invariant first) : x.Yields (fits last) value := by
  generalize hrest : (.done value : Inquiry ε κ ι α) = rest at h
  induction h with
  | refl =>
    subst hrest
    exact .done value
  | ask hs hr ih =>
    obtain ⟨⟨hsecond, _⟩, hfit⟩ := hstep _ _ _ _ hfirst hs
    obtain ⟨_, hle⟩ := hr.keeps (fun q s a n hi hs => (hstep q s a n hi hs).1) hsecond
    exact .ask (hmono _ _ _ _ hle hfit) (ih hsecond hrest)

/-- All faults that a computation itself can have are of a kind. -/
def FailsOnly (kind : ε → Prop) : Inquiry ε κ ι α → Prop
  | done _ => True
  | fail error => kind error
  | ask _ next => ∀ answer, FailsOnly kind (next answer)

variable {kind : ε → Prop}

theorem Reaches.failsOnly (h : Reaches step x first rest last) (hx : x.FailsOnly kind) : rest.FailsOnly kind := by
  induction h with
  | refl => exact hx
  | ask _ _ ih => exact ih (hx _)

theorem failsOnly_bind {x : Inquiry ε κ ι α} {f : α → Inquiry ε κ ι β} (hx : x.FailsOnly kind)
    (hf : ∀ a, (f a).FailsOnly kind) : (x >>= f).FailsOnly kind := by
  induction x with
  | done value => exact hf value
  | fail => exact hx
  | ask question next ih => exact fun answer => ih answer (hx answer)

theorem failsOnly_answer (question : κ) : (answer question : Inquiry ε κ ι ι).FailsOnly kind := fun _ => trivial

theorem failsOnly_ofExcept {result : Except ε α} (h : ∀ error, result = .error error → kind error) :
    (ofExcept result : Inquiry ε κ ι α).FailsOnly kind := by
  cases result with
  | ok => trivial
  | error error => exact h error rfl

theorem failsOnly_mapM {f : α → Inquiry ε κ ι β} {inputs : List α}
    (h : ∀ input ∈ inputs, (f input).FailsOnly kind) : (inputs.mapM f).FailsOnly kind := by
  induction inputs with
  | nil => trivial
  | cons input rest ih =>
    rw [List.mapM_cons]
    refine failsOnly_bind (h input (by simp)) fun value => ?_
    exact failsOnly_bind (ih fun other hmem => h other (by simp [hmem])) fun _ => trivial

theorem failsOnly_foldlM {f : β → α → Inquiry ε κ ι β} {inputs : List α} {start : β}
    (h : ∀ value, ∀ input ∈ inputs, (f value input).FailsOnly kind) : (inputs.foldlM f start).FailsOnly kind := by
  induction inputs generalizing start with
  | nil => trivial
  | cons input rest ih =>
    rw [List.foldlM_cons]
    refine failsOnly_bind (h start input (by simp)) fun value => ?_
    exact ih fun value other hmem => h value other (by simp [hmem])

/-- All questions that a computation asks are of a kind. -/
def AsksOnly (asked : κ → Prop) : Inquiry ε κ ι α → Prop
  | done _ => True
  | fail _ => True
  | ask question next => asked question ∧ ∀ answer, AsksOnly asked (next answer)

variable {asked : κ → Prop}

theorem Reaches.asksOnly (h : Reaches step x first rest last) (hx : x.AsksOnly asked) : rest.AsksOnly asked := by
  induction h with
  | refl => exact hx
  | ask _ _ ih => exact ih (hx.2 _)

theorem asksOnly_bind {x : Inquiry ε κ ι α} {f : α → Inquiry ε κ ι β} (hx : x.AsksOnly asked)
    (hf : ∀ a, (f a).AsksOnly asked) : (x >>= f).AsksOnly asked := by
  induction x with
  | done value => exact hf value
  | fail => trivial
  | ask question next ih => exact ⟨hx.1, fun answer => ih answer (hx.2 answer)⟩

theorem AsksOnly.mono {other : κ → Prop} {x : Inquiry ε κ ι α} (h : x.AsksOnly asked)
    (himp : ∀ question, asked question → other question) : x.AsksOnly other := by
  induction x with
  | done => trivial
  | fail => trivial
  | ask question next ih => exact ⟨himp _ h.1, fun answer => ih answer (h.2 answer)⟩

theorem asksOnly_answer {question : κ} (h : asked question) : (answer question : Inquiry ε κ ι ι).AsksOnly asked :=
  ⟨h, fun _ => trivial⟩

theorem asksOnly_ofExcept (result : Except ε α) : (ofExcept result : Inquiry ε κ ι α).AsksOnly asked := by
  cases result <;> trivial

theorem asksOnly_mapM {f : α → Inquiry ε κ ι β} {inputs : List α} (h : ∀ input ∈ inputs, (f input).AsksOnly asked) :
    (inputs.mapM f).AsksOnly asked := by
  induction inputs with
  | nil => trivial
  | cons input rest ih =>
    rw [List.mapM_cons]
    refine asksOnly_bind (h input (by simp)) fun value => ?_
    exact asksOnly_bind (ih fun other hmem => h other (by simp [hmem])) fun _ => trivial

theorem asksOnly_foldlM {f : β → α → Inquiry ε κ ι β} {inputs : List α} {start : β}
    (h : ∀ value, ∀ input ∈ inputs, (f value input).AsksOnly asked) : (inputs.foldlM f start).AsksOnly asked := by
  induction inputs generalizing start with
  | nil => trivial
  | cons input rest ih =>
    rw [List.foldlM_cons]
    refine asksOnly_bind (h start input (by simp)) fun value => ?_
    exact ih fun value other hmem => h value other (by simp [hmem])

theorem Reaches.keepsAsked {invariant : σ → Prop} (h : Reaches step x first rest last) (hx : x.AsksOnly asked)
    (hstep : ∀ question state answer next, asked question → invariant state → step question state answer next →
      invariant next) (hfirst : invariant first) : invariant last := by
  induction h with
  | refl => exact hfirst
  | ask hs _ ih => exact ih (hx.2 _) (hstep _ _ _ _ hx.1 hfirst hs)

end Invariants

section Stateful

variable {respond : κ → StateT σ (Except ε) ι} {x : Inquiry ε κ ι α} {first last : σ}

def Responds (respond : κ → StateT σ (Except ε) ι) (question : κ) (state : σ) (answer : ι) (next : σ) : Prop :=
  respond question state = .ok (answer, next)

theorem run_ask_eq (question : κ) (next : ι → Inquiry ε κ ι α) (state : σ) :
    (ask question next).run respond state =
      match respond question state with
      | .ok (answer, after) => (next answer).run respond after
      | .error error => .error error := by
  change (StateT.bind (respond question) fun answer => (next answer).run respond) state = _
  rw [StateT.bind]
  cases respond question state with
  | error => rfl
  | ok => rfl

theorem reaches_of_run_eq_ok {value : α} (h : x.run respond first = .ok (value, last)) :
    Reaches (Responds respond) x first (.done value) last := by
  induction x generalizing first with
  | done other =>
    cases h
    exact .refl _ _
  | fail error => cases h
  | ask question next ih =>
    rw [run_ask_eq] at h
    cases hr : respond question first with
    | error error => simp [hr] at h
    | ok result => exact .ask hr (ih result.1 (by simpa [hr] using h))

theorem reaches_of_run_eq_error {error : ε} (h : x.run respond first = .error error) :
    ∃ rest last, Reaches (Responds respond) x first rest last ∧
      (rest = .fail error ∨ ∃ question next, rest = .ask question next ∧ respond question last = .error error) := by
  induction x generalizing first with
  | done other => cases h
  | fail other =>
    cases h
    exact ⟨_, _, .refl _ _, .inl rfl⟩
  | ask question next ih =>
    rw [run_ask_eq] at h
    cases hr : respond question first with
    | error other =>
      simp only [hr, Except.error.injEq] at h
      exact ⟨_, _, .refl _ _, .inr ⟨question, next, rfl, h ▸ hr⟩⟩
    | ok result =>
      have hrun : (next result.1).run respond result.2 = .error error := by simpa [hr] using h
      obtain ⟨rest, last, hreach, hrest⟩ := ih result.1 hrun
      exact ⟨rest, last, .ask hr hreach, hrest⟩

/-- Notes that are taken of the questions, in the order in which they are asked and up to the first fault. -/
def notes (respond : κ → StateT σ (Except ε) ι) (note : κ → σ → List β) : Inquiry ε κ ι α → σ → List β
  | done _, _ => []
  | fail _, _ => []
  | ask question next, state =>
    note question state ++
      match respond question state with
      | .ok (answer, after) => (next answer).notes respond note after
      | .error _ => []

end Stateful

end JsonSchema.Inquiry
