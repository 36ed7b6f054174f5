import Mathlib.Data.List.Basic
import Mathlib.Order.Defs.Unbundled

namespace Shroud.StateProgram

/-!
# Reasoning about stateful programs

Programs are written in `StateM`.  Two judgements are enough for the whole
development: `Ensures` relates a condition on the state before a program to
one on its result and the state after it, and `Keeps` says that a program only
moves along a preorder on states.  Loops are the bounded repetition below and
the monadic search of the standard library.
-/

variable {σ α β γ ι : Type}

theorem run_pure
    (value : α)
    (state : σ) :
    (pure value : StateM σ α).run state = (value, state) :=
  rfl

theorem run_bind
    (program : StateM σ α)
    (next : α → StateM σ β)
    (state : σ) :
    (program >>= next).run state = (next (program.run state).1).run (program.run state).2 :=
  rfl

theorem run_get (state : σ) :
    (get : StateM σ σ).run state = (state, state) :=
  rfl

theorem run_get_bind
    (next : σ → StateM σ β)
    (state : σ) :
    (get >>= next).run state = (next state).run state :=
  rfl

theorem run_modify
    (change : σ → σ)
    (state : σ) :
    (modify change : StateM σ PUnit).run state = ((), change state) :=
  rfl

/-- From `pre`, the program ends with a result and a state in `post`. -/
def Ensures
    (pre : σ → Prop)
    (program : StateM σ α)
    (post : α → σ → Prop) : Prop :=
  ∀ state, pre state → post (program.run state).1 (program.run state).2

namespace Ensures

variable
  {pre pre' : σ → Prop}
  {post post' : α → σ → Prop}
  {program : StateM σ α}

theorem pure
    {value : α}
    (holds : ∀ state, pre state → post value state) :
    Ensures pre (pure value : StateM σ α) post :=
  holds

section

variable {final : β → σ → Prop}

theorem bind
    {next : α → StateM σ β}
    (first : Ensures pre program post)
    (second : ∀ value, Ensures (post value) (next value) final) :
    Ensures pre (program >>= next) final := by
  intro state before
  exact second _ _ (first state before)

theorem seq
    {middle : σ → Prop}
    {next : StateM σ β}
    (first : Ensures pre program (fun _ => middle))
    (second : Ensures middle next final) :
    Ensures pre (program >>= fun _ => next) final :=
  first.bind (fun _ => second)

theorem get
    {next : σ → StateM σ β}
    (rest : ∀ current, Ensures (fun state => state = current ∧ pre state)
      (next current) final) :
    Ensures pre (MonadState.get >>= next) final := by
  intro state before
  exact rest state state ⟨rfl, before⟩

/-- A program that need not know which state it has read. -/
theorem get_any
    {next : σ → StateM σ β}
    (rest : ∀ current, Ensures pre (next current) final) :
    Ensures pre (MonadState.get >>= next) final := by
  intro state before
  exact rest state state before

theorem change
    {update : σ → σ}
    {next : StateM σ β}
    (middle : σ → Prop)
    (changes : ∀ state, pre state → middle (update state))
    (rest : Ensures middle next final) :
    Ensures pre (modify update >>= fun _ => next) final := by
  intro state before
  exact rest _ (changes state before)

end

theorem consequence
    (ensures : Ensures pre program post)
    (stronger : ∀ state, pre' state → pre state)
    (weaker : ∀ value state, post value state → post' value state) :
    Ensures pre' program post' := by
  intro state before
  exact weaker _ _ (ensures state (stronger state before))

theorem weaken
    (ensures : Ensures pre program post)
    (weaker : ∀ value state, post value state → post' value state) :
    Ensures pre program post' :=
  ensures.consequence (fun _ before => before) weaker

theorem strengthen
    (ensures : Ensures pre program post)
    (stronger : ∀ state, pre' state → pre state) :
    Ensures pre' program post :=
  ensures.consequence stronger fun _ _ after => after

theorem and
    (first : Ensures pre program post)
    (second : Ensures pre program post') :
    Ensures pre program (fun value state => post value state ∧ post' value state) :=
  fun state before => ⟨first state before, second state before⟩

theorem ite
    {condition : Prop}
    [Decidable condition]
    {other : StateM σ α}
    (whenTrue : condition → Ensures pre program post)
    (whenFalse : ¬condition → Ensures pre other post) :
    Ensures pre (if condition then program else other) post := by
  by_cases holds : condition
  · rw [if_pos holds]
    exact whenTrue holds
  · rw [if_neg holds]
    exact whenFalse holds

theorem either
    {condition : Prop}
    [Decidable condition]
    {other : StateM σ α}
    (first : Ensures pre program post)
    (second : Ensures pre other post) :
    Ensures pre (if condition then program else other) post :=
  ite (fun _ => first) fun _ => second

/-- A precondition on values only may be assumed outright. -/
theorem of_pure_pre
    {fact : Prop}
    (ensures : fact → Ensures pre program post) :
    Ensures (fun state => fact ∧ pre state) program post :=
  fun state before => ensures before.1 state before.2

/-- Before each item of a search, no item has been a hit. -/
theorem findSomeM?
    {found : Option β → σ → Prop}
    {body : ι → StateM σ (Option β)}
    {items : List ι}
    (step : ∀ item ∈ items, Ensures (found none) (body item) found) :
    Ensures (found none) (items.findSomeM? body) found := by
  induction items with
  | nil =>
    intro state before
    exact before
  | cons item rest ih =>
    have later := ih (fun other member => step other (by simp [member]))
    refine bind (step item (by simp)) ?_
    intro result
    cases result with
    | some value => exact pure (fun _ after => after)
    | none => exact later

end Ensures

/-- The program only moves along a relation on states. -/
def Keeps (relation : σ → σ → Prop) (program : StateM σ α) : Prop :=
  ∀ state, relation state (program.run state).2

/-- A view of the state stays the same. -/
def SameView (view : σ → γ) (before after : σ) : Prop :=
  view after = view before

instance (view : σ → γ) : IsPreorder σ (SameView view) where
  refl _ := rfl
  trans _ _ _ first second := second.trans first

namespace Keeps

variable
  {relation : σ → σ → Prop}
  [IsPreorder σ relation]
  {program : StateM σ α}

theorem pure {value : α} :
    Keeps relation (pure value : StateM σ α) :=
  fun state => Std.Refl.refl state

theorem bind
    {next : α → StateM σ β}
    (first : Keeps relation program)
    (second : ∀ value, Keeps relation (next value)) :
    Keeps relation (program >>= next) := by
  intro state
  exact IsTrans.trans _ _ _ (first state) (second _ _)

theorem seq
    {next : StateM σ β}
    (first : Keeps relation program)
    (second : Keeps relation next) :
    Keeps relation (program >>= fun _ => next) :=
  first.bind (fun _ => second)

omit [IsPreorder σ relation] in
theorem get
    {next : σ → StateM σ β}
    (rest : ∀ current, Keeps relation (next current)) :
    Keeps relation (MonadState.get >>= next) :=
  fun state => rest state state

omit [IsPreorder σ relation] in
theorem ite
    {condition : Prop}
    [Decidable condition]
    {other : StateM σ α}
    (whenTrue : condition → Keeps relation program)
    (whenFalse : ¬condition → Keeps relation other) :
    Keeps relation (if condition then program else other) := by
  by_cases holds : condition
  · rw [if_pos holds]
    exact whenTrue holds
  · rw [if_neg holds]
    exact whenFalse holds

omit [IsPreorder σ relation] in
theorem either
    {condition : Prop}
    [Decidable condition]
    {other : StateM σ α}
    (first : Keeps relation program)
    (second : Keeps relation other) :
    Keeps relation (if condition then program else other) :=
  ite (fun _ => first) fun _ => second

/-- Whatever was reached from a start stays reached from it. -/
theorem ensures
    (keeps : Keeps relation program)
    (start : σ) :
    Ensures (relation start) program (fun _ => relation start) := by
  intro state before
  exact IsTrans.trans _ _ _ before (keeps state)

end Keeps

/-- The program keeps an invariant, whatever its result is. -/
def Preserves (invariant : σ → Prop) (program : StateM σ α) : Prop :=
  Ensures invariant program fun _ => invariant

namespace Preserves

variable
  {invariant : σ → Prop}
  {program : StateM σ α}

theorem pure {value : α} :
    Preserves invariant (pure value : StateM σ α) :=
  fun _ before => before

theorem bind
    {next : α → StateM σ β}
    (first : Preserves invariant program)
    (second : ∀ value, Preserves invariant (next value)) :
    Preserves invariant (program >>= next) :=
  Ensures.bind first second

theorem seq
    {next : StateM σ β}
    (first : Preserves invariant program)
    (second : Preserves invariant next) :
    Preserves invariant (program >>= fun _ => next) :=
  Ensures.seq first second

/-- What is known of a result may be used for what follows. -/
theorem bindResult
    {next : α → StateM σ β}
    {result : α → Prop}
    (first : Ensures invariant program (fun value state => invariant state ∧ result value))
    (second : ∀ value, result value → Preserves invariant (next value)) :
    Preserves invariant (program >>= next) := by
  refine Ensures.bind first ?_
  intro value state before
  exact second value before.2 state before.1

/-- What is read of the state is known to satisfy the invariant. -/
theorem get
    {next : σ → StateM σ β}
    (rest : ∀ current, invariant current → Preserves invariant (next current)) :
    Preserves invariant (MonadState.get >>= next) :=
  fun state before => rest state before state before

theorem either
    {condition : Prop}
    [Decidable condition]
    {other : StateM σ α}
    (first : Preserves invariant program)
    (second : Preserves invariant other) :
    Preserves invariant (if condition then program else other) :=
  Ensures.either first second

theorem findSomeM?
    {body : ι → StateM σ (Option β)}
    {items : List ι}
    (step : ∀ item ∈ items, Preserves invariant (body item)) :
    Preserves invariant (items.findSomeM? body) :=
  @Ensures.findSomeM? σ β ι (fun _ => invariant) body items step

end Preserves

section

variable {relation : σ → σ → Prop} [IsPreorder σ relation] {program : StateM σ α}

theorem Keeps.preserves
    (keeps : Keeps relation program)
    (start : σ) :
    Preserves (relation start) program :=
  keeps.ensures start

/-- What is kept from every start is a relation along which it moves. -/
theorem Keeps.of_preserves
    (preserves : ∀ start, Preserves (relation start) program) :
    Keeps relation program :=
  fun state => preserves state state (Std.Refl.refl state)

end

/-- To keep an invariant is to move along it. -/
def Along (invariant : σ → Prop) (before after : σ) : Prop :=
  invariant before → invariant after

instance (invariant : σ → Prop) : IsPreorder σ (Along invariant) where
  refl _ := id
  trans _ _ _ first second := second ∘ first

/-- Repeat a program while it asks to go on, up to a given number of times. -/
def repeatWhile (body : StateM σ Bool) : Nat → StateM σ Unit
  | 0 => pure ()
  | limit + 1 => do
      if ← body then repeatWhile body limit else pure ()

/--
A repetition that removes one item each time, and stops only when none is
left or it has to give up, has removed all of them if there were no more than
the limit.
-/
theorem Ensures.repeatWhile_exhausts
    {invariant gaveUp : σ → Prop}
    {remaining : σ → Nat}
    {body : StateM σ Bool}
    (step :
      ∀ count,
        Ensures (fun state => invariant state ∧ remaining state = count)
          body
          (fun goOn state =>
            invariant state ∧
              if goOn then remaining state + 1 = count
              else remaining state = 0 ∨ gaveUp state))
    (limit : Nat) :
    Ensures
      (fun state => invariant state ∧ remaining state ≤ limit)
      (StateProgram.repeatWhile body limit)
      (fun _ state =>
        invariant state ∧ (remaining state = 0 ∨ gaveUp state)) := by
  induction limit with
  | zero =>
    refine pure ?_
    intro state before
    exact ⟨before.1, .inl (Nat.le_zero.mp before.2)⟩
  | succ limit ih =>
    intro state before
    have stepped := step (remaining state) state ⟨before.1, rfl⟩
    rw [StateProgram.repeatWhile, run_bind]
    cases goOn : (body.run state).1 with
    | false =>
      rw [goOn] at stepped
      exact stepped
    | true =>
      rw [goOn] at stepped
      refine ih _ ⟨stepped.1, ?_⟩
      have fewer : remaining (body.run state).2 + 1 = remaining state := stepped.2
      omega

theorem findSomeM?_append
    (body : ι → StateM σ (Option β))
    (first second : List ι)
    (state : σ) :
    ((first ++ second).findSomeM? body).run state =
      match ((first.findSomeM? body).run state).1 with
      | some value => (some value, ((first.findSomeM? body).run state).2)
      | none =>
        (second.findSomeM? body).run ((first.findSomeM? body).run state).2 := by
  induction first generalizing state with
  | nil => rfl
  | cons item rest ih =>
    rw [List.cons_append, List.findSomeM?, List.findSomeM?, run_bind, run_bind]
    cases ((body item).run state).1 with
    | some value => rfl
    | none => exact ih _

section

variable {body : ι → StateM σ (Option β)} {item : ι} {rest : List ι}

/-- A search goes on to the rest only when the first item is no hit. -/
theorem Ensures.findSomeM?_cons
    {pre : σ → Prop}
    (middle : σ → Prop)
    {post : Option β → σ → Prop}
    (first :
      Ensures pre (body item)
        (fun result state =>
          match result with
          | some value => post (some value) state
          | none => middle state))
    (later : Ensures middle (rest.findSomeM? body) post) :
    Ensures pre ((item :: rest).findSomeM? body) post := by
  refine bind first ?_
  intro result
  cases result with
  | some value => exact pure (fun _ after => after)
  | none => exact later

theorem Ensures.findSomeM?_cons_none
    {pre middle post : σ → Prop}
    (first : Ensures pre (body item) (fun result state => result = none → middle state))
    (later :
      Ensures middle (rest.findSomeM? body) (fun result state => result = none → post state)) :
    Ensures pre ((item :: rest).findSomeM? body)
      (fun result state => result = none → post state) := by
  refine findSomeM?_cons middle (first.weaken ?_) later
  intro result state reached
  cases result with
  | some value => exact fun none => absurd none (Option.some_ne_none value)
  | none => exact reached rfl

end

theorem Ensures.findSomeM?_append
    {pre : σ → Prop}
    (middle : σ → Prop)
    {post : Option β → σ → Prop}
    {body : ι → StateM σ (Option β)}
    {front rest : List ι}
    (first :
      Ensures pre (front.findSomeM? body)
        (fun result state =>
          match result with
          | some value => post (some value) state
          | none => middle state))
    (later : Ensures middle (rest.findSomeM? body) post) :
    Ensures pre ((front ++ rest).findSomeM? body) post := by
  intro state before
  have reached := first state before
  rw [StateProgram.findSomeM?_append]
  cases hit : ((front.findSomeM? body).run state).1 with
  | some value =>
    rw [hit] at reached
    exact reached
  | none =>
    rw [hit] at reached
    exact later _ reached

theorem Ensures.findSomeM?_append_none
    {pre middle post : σ → Prop}
    {body : ι → StateM σ (Option β)}
    {front rest : List ι}
    (first : Ensures pre (front.findSomeM? body) (fun result state => result = none → middle state))
    (later :
      Ensures middle (rest.findSomeM? body) (fun result state => result = none → post state)) :
    Ensures pre ((front ++ rest).findSomeM? body)
      (fun result state => result = none → post state) := by
  refine findSomeM?_append middle (first.weaken ?_) later
  intro result state reached
  cases result with
  | some value => exact fun none => absurd none (Option.some_ne_none value)
  | none => exact reached rfl

section Loops

variable {relation : σ → σ → Prop} [IsPreorder σ relation]

theorem Keeps.repeatWhile
    {body : StateM σ Bool}
    (step : Keeps relation body)
    (limit : Nat) :
    Keeps relation (repeatWhile body limit) := by
  induction limit with
  | zero => exact pure
  | succ limit ih =>
    refine bind step ?_
    intro goOn
    exact ite (fun _ => ih) fun _ => pure

theorem Keeps.findSomeM?
    {body : ι → StateM σ (Option β)}
    {items : List ι}
    (step : ∀ item ∈ items, Keeps relation (body item)) :
    Keeps relation (items.findSomeM? body) :=
  .of_preserves fun start => .findSomeM? fun item member => (step item member).preserves start

theorem Keeps.forM
    {body : ι → StateM σ PUnit}
    {items : List ι}
    (step : ∀ item ∈ items, Keeps relation (body item)) :
    Keeps relation (items.forM body) := by
  induction items with
  | nil => exact pure
  | cons item rest ih =>
    refine bind (step item (by simp)) ?_
    intro _
    exact ih fun other member => step other (by simp [member])

end Loops

end Shroud.StateProgram
