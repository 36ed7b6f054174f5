import Shroud.StateProgram

namespace Shroud.StateProgram

/-!
# Programs that keep a record

A recorded program is a stateful program that also notes down what happens.
Forgetting the notes gives back the program, and the notes of two programs in a
row stand one after the other.  What may happen when is said of the finished
record: of every entry together with those in front of it.
-/

variable {σ ε α β : Type}

/-- A program with a state and a record of its run. -/
def Recorded (σ ε α : Type) : Type :=
  σ → α × σ × List ε

namespace Recorded

instance : Monad (Recorded σ ε) where
  pure value := fun state => (value, state, [])
  bind program next := fun state =>
    let first := program state
    let second := next first.1 first.2.1
    (second.1, second.2.1, first.2.2 ++ second.2.2)

/-- Run a program and note what is seen of it. -/
def noting (program : StateM σ α) (note : σ → α → σ → List ε) :
    Recorded σ ε α :=
  fun state =>
    let ended := program.run state
    (ended.1, ended.2, note state ended.1 ended.2)

def silent (program : StateM σ α) : Recorded σ ε α :=
  noting program fun _ _ _ => []

def note (entry : ε) : Recorded σ ε Unit :=
  noting (pure ()) fun _ _ _ => [entry]

/-- The program without its record. -/
def erase (program : Recorded σ ε α) : StateM σ α :=
  fun state => ((program state).1, (program state).2.1)

def log (program : Recorded σ ε α) (state : σ) : List ε :=
  (program state).2.2

@[simp] theorem erase_pure (value : α) :
    (pure value : Recorded σ ε α).erase = pure value :=
  rfl

@[simp] theorem erase_bind
    (program : Recorded σ ε α)
    (next : α → Recorded σ ε β) :
    (program >>= next).erase = program.erase >>= fun value => (next value).erase :=
  rfl

@[simp] theorem erase_noting
    (program : StateM σ α)
    (note : σ → α → σ → List ε) :
    (noting program note).erase = program :=
  rfl

@[simp] theorem erase_silent (program : StateM σ α) :
    (silent program : Recorded σ ε α).erase = program :=
  rfl

@[simp] theorem erase_note_bind
    (entry : ε)
    (next : Unit → Recorded σ ε β) :
    (note entry >>= next).erase = (next ()).erase :=
  rfl

@[simp] theorem erase_ite
    {condition : Prop}
    [Decidable condition]
    (program other : Recorded σ ε α) :
    (if condition then program else other).erase =
      if condition then program.erase else other.erase :=
  apply_ite erase condition program other

end Recorded

/-- From `pre`, a run ends with a result, a state and a record in `post`. -/
def Logs
    (pre : σ → Prop)
    (program : Recorded σ ε α)
    (post : α → σ → List ε → Prop) : Prop :=
  ∀ state, pre state → post (program state).1 (program state).2.1 (program state).2.2

namespace Logs

variable
  {pre pre' : σ → Prop}
  {post post' : α → σ → List ε → Prop}
  {program other : Recorded σ ε α}

theorem pure
    {value : α}
    (holds : ∀ state, pre state → post value state []) :
    Logs pre (Pure.pure value : Recorded σ ε α) post :=
  holds

theorem noting
    {program : StateM σ α}
    {note : σ → α → σ → List ε}
    (holds :
      ∀ state, pre state →
        post (program.run state).1 (program.run state).2
          (note state (program.run state).1 (program.run state).2)) :
    Logs pre (Recorded.noting program note) post :=
  holds

theorem get
    {next : σ → Recorded σ ε β}
    {final : β → σ → List ε → Prop}
    (rest : ∀ current, Logs (fun state => state = current ∧ pre state) (next current) final) :
    Logs pre (Recorded.silent MonadState.get >>= next) final := by
  intro state before
  exact rest state state ⟨rfl, before⟩

section

variable {next : α → Recorded σ ε β} {final : β → σ → List ε → Prop}

theorem silent
    {program : StateM σ α}
    {middle : α → σ → Prop}
    (first : Ensures pre program middle)
    (rest : ∀ value, Logs (middle value) (next value) final) :
    Logs pre (Recorded.silent program >>= next) final := by
  intro state before
  exact rest _ _ (first state before)

theorem passing
    {program : StateM σ α}
    (rest : ∀ value, Logs (fun _ => True) (next value) final) :
    Logs (fun _ => True) (Recorded.silent program >>= next) final :=
  fun _ _ => rest _ _ trivial

theorem bind
    (first : Logs pre program post)
    (second :
      ∀ value noted,
        Logs (fun state => post value state noted) (next value)
          (fun result state later => final result state (noted ++ later))) :
    Logs pre (program >>= next) final := by
  intro state before
  exact second _ _ _ (first state before)

end

/-- What the condition says apart from the state is a plain assumption. -/
theorem deducing
    {fact : Prop}
    (holds : ∀ state, pre state → fact)
    (logs : fact → Logs (fun _ => True) program post) :
    Logs pre program post := by
  intro state before
  exact logs (holds state before) state trivial

theorem knowing
    {fact : Prop}
    (logs : fact → Logs pre program post) :
    Logs (fun state => pre state ∧ fact) program post :=
  fun state before => logs before.2 state before.1

theorem assuming
    {fact : Prop}
    (logs : fact → Logs (fun _ => True) program post) :
    Logs (fun _ => fact) program post :=
  deducing (fun _ holds => holds) logs

theorem consequence
    (logs : Logs pre program post)
    (stronger : ∀ state, pre' state → pre state)
    (weaker : ∀ value state noted, post value state noted → post' value state noted) :
    Logs pre' program post' := by
  intro state before
  exact weaker _ _ _ (logs state (stronger state before))

theorem weaken
    (logs : Logs pre program post)
    (weaker : ∀ value state noted, post value state noted → post' value state noted) :
    Logs pre program post' :=
  logs.consequence (fun _ before => before) weaker

theorem ite
    {condition : Prop}
    [Decidable condition]
    (whenTrue : condition → Logs pre program post)
    (whenFalse : ¬condition → Logs pre other post) :
    Logs pre (if condition then program else other) post := by
  by_cases holds : condition
  · rw [if_pos holds]
    exact whenTrue holds
  · rw [if_neg holds]
    exact whenFalse holds

end Logs

/-- A relation between the states around a run and its record. -/
structure Composes (relation : σ → σ → List ε → Prop) : Prop where
  nil : ∀ state, relation state state []
  append :
    ∀ {before middle after first second},
      relation before middle first → relation middle after second →
      relation before after (first ++ second)

/-- Every run of the program is in the relation. -/
def Records (relation : σ → σ → List ε → Prop)
    (program : Recorded σ ε α) : Prop :=
  ∀ state, relation state (program state).2.1 (program state).2.2

namespace Records

variable
  {relation : σ → σ → List ε → Prop}
  {program other : Recorded σ ε α}

theorem pure
    (composes : Composes relation)
    {value : α} :
    Records relation (Pure.pure value : Recorded σ ε α) :=
  composes.nil

theorem bind
    (composes : Composes relation)
    {next : α → Recorded σ ε β}
    (first : Records relation program)
    (second : ∀ value, Records relation (next value)) :
    Records relation (program >>= next) :=
  fun state => composes.append (first state) (second _ _)

theorem ite
    {condition : Prop}
    [Decidable condition]
    (whenTrue : Records relation program)
    (whenFalse : Records relation other) :
    Records relation (if condition then program else other) := by
  by_cases holds : condition
  · rw [if_pos holds]
    exact whenTrue
  · rw [if_neg holds]
    exact whenFalse

end Records

/-- Every entry of a record is allowed after the entries in front of it. -/
def AtEach (allowed : List ε → ε → Prop) (record : List ε) : Prop :=
  ∀ earlier entry later, record = earlier ++ entry :: later → allowed earlier entry

section

variable (allowed : List ε → ε → Prop)

@[simp] theorem atEach_nil :
    AtEach allowed [] := by
  intro earlier entry later split
  exact absurd split.symm (List.append_ne_nil_of_right_ne_nil _ (by simp))

@[simp] theorem atEach_append (first second : List ε) :
    AtEach allowed (first ++ second) ↔
      AtEach allowed first ∧ AtEach (fun earlier => allowed (first ++ earlier)) second := by
  constructor
  · intro each
    constructor
    · rintro earlier entry later rfl
      exact each earlier entry (later ++ second) (by simp)
    · rintro earlier entry later rfl
      exact each (first ++ earlier) entry later (by simp)
  · rintro ⟨inFirst, inSecond⟩ earlier entry later split
    rcases List.append_eq_append_iff.mp split with
      ⟨between, rfl, rest⟩ | ⟨between, isFirst, rest⟩
    · exact inSecond between entry later rest
    · cases between with
      | nil =>
        rw [List.append_nil] at isFirst
        subst isFirst
        have allowedNext : allowed (first ++ []) entry := inSecond [] entry later rest.symm
        rwa [List.append_nil] at allowedNext
      | cons next between =>
        obtain ⟨rfl, -⟩ := List.cons.inj rest
        exact inFirst earlier entry between isFirst

@[simp] theorem atEach_singleton (entry : ε) :
    AtEach allowed [entry] ↔ allowed [] entry := by
  constructor
  · intro each
    exact each [] entry [] rfl
  · intro holds earlier other later split
    rcases List.append_eq_singleton_iff.mp split.symm with
      ⟨rfl, last⟩ | ⟨-, impossible⟩
    · obtain ⟨rfl, -⟩ := List.cons.inj last
      exact holds
    · exact absurd impossible (by simp)

@[simp] theorem atEach_cons
    (entry : ε)
    (record : List ε) :
    AtEach allowed (entry :: record) ↔
      allowed [] entry ∧ AtEach (fun earlier => allowed (entry :: earlier)) record := by
  have split := atEach_append allowed [entry] record
  rwa [atEach_singleton] at split

end

end Shroud.StateProgram
