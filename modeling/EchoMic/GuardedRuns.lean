import Mathlib.Data.List.Basic

/-!
# Runs of partial transition functions

A transition system is a partial function from a state and an event to the
next state.  A run executes a list of events.  Assumptions about the
environment are guards on the single steps of a run, so an invariant that
holds under such assumptions is proved once for a step and carried along
every guarded run.
-/

namespace EchoMic

namespace GuardedRuns

variable {State Event : Type*}

/-- Execute a list of events, failing when one of them is not enabled. -/
def run (step : State → Event → Option State) :
    State → List Event → Option State
  | state, [] => some state
  | state, event :: events =>
      (step state event).bind fun next => run step next events

/-- Every step that the event list takes satisfies `guard` in the state it is
taken from. -/
def Guarded (step : State → Event → Option State)
    (guard : State → Event → Prop) : State → List Event → Prop
  | _, [] => True
  | state, event :: events =>
      guard state event ∧
        ∀ next, step state event = some next →
          Guarded step guard next events

variable {step : State → Event → Option State}
variable {guard : State → Event → Prop} {invariant : State → Prop}

theorem run_cons (state : State) (event : Event) (events : List Event) :
    run step state (event :: events) =
      (step state event).bind fun next => run step next events :=
  rfl

theorem run_append (state : State) (first second : List Event) :
    run step state (first ++ second) =
      (run step state first).bind fun middle => run step middle second := by
  induction first generalizing state with
  | nil => rfl
  | cons event first ih =>
      rw [List.cons_append, run_cons, run_cons, Option.bind_assoc]
      congr 1
      funext next
      exact ih next

theorem run_concat {start middle : State} {events : List Event}
    (ran : run step start events = some middle) (event : Event) :
    run step start (events ++ [event]) = step middle event := by
  rw [run_append, ran, Option.bind_some, run_cons]
  cases step middle event <;> rfl

/-- The first step of a run, and the run that follows it. -/
theorem run_cons_some {start last : State} {event : Event}
    {events : List Event} (ran : run step start (event :: events) = some last) :
    ∃ next, step start event = some next ∧
      run step next events = some last := by
  rw [run_cons] at ran
  exact Option.bind_eq_some_iff.mp ran

theorem Guarded.imp {others : State → Event → Prop}
    (implies : ∀ state event, others state event → guard state event) {start : State}
    {events : List Event} (guarded : Guarded step others start events) :
    Guarded step guard start events := by
  induction events generalizing start with
  | nil => trivial
  | cons event events ih =>
      exact ⟨implies start event guarded.1,
        fun next stepped => ih (guarded.2 next stepped)⟩

theorem Guarded.and {others : State → Event → Prop} {start : State} {events : List Event}
    (guarded : Guarded step guard start events) (also : Guarded step others start events) :
    Guarded step (fun state event => guard state event ∧ others state event) start events := by
  induction events generalizing start with
  | nil => trivial
  | cons event events ih =>
      exact ⟨⟨guarded.1, also.1⟩,
        fun next stepped => ih (guarded.2 next stepped) (also.2 next stepped)⟩

theorem Guarded.append {start : State} {first second : List Event}
    (guarded : Guarded step guard start (first ++ second)) :
    Guarded step guard start first ∧
      ∀ middle, run step start first = some middle →
        Guarded step guard middle second := by
  induction first generalizing start with
  | nil =>
      refine ⟨trivial, fun middle ran => ?_⟩
      cases ran
      exact guarded
  | cons event first ih =>
      refine ⟨⟨guarded.1, fun next stepped => (ih (guarded.2 next stepped)).1⟩, ?_⟩
      intro middle ran
      obtain ⟨next, stepped, rest⟩ := run_cons_some ran
      exact (ih (guarded.2 next stepped)).2 middle rest

/-- A guarded run goes on to be guarded. -/
theorem Guarded.followedBy {start middle : State} {first second : List Event}
    (guarded : Guarded step guard start first) (ran : run step start first = some middle)
    (follows : Guarded step guard middle second) :
    Guarded step guard start (first ++ second) := by
  induction first generalizing start with
  | nil =>
      cases ran
      exact follows
  | cons event first ih =>
      obtain ⟨next, stepped, rest⟩ := run_cons_some ran
      refine ⟨guarded.1, fun other steppedOther => ?_⟩
      rw [stepped] at steppedOther
      cases steppedOther
      exact ih (guarded.2 next stepped) rest

/-- A run is guarded when the guard holds of every event in the state that
the events before it lead to. -/
theorem guarded_iff_forall_split (start : State) (events : List Event) :
    Guarded step guard start events ↔
      ∀ first event rest, events = first ++ event :: rest →
        ∀ state, run step start first = some state → guard state event := by
  constructor
  · rintro guarded first event rest rfl state ran
    exact (guarded.append.2 state ran).1
  · intro holds
    induction events generalizing start with
    | nil => trivial
    | cons event events ih =>
        refine ⟨holds [] event events rfl start rfl, fun next stepped => ?_⟩
        apply ih
        rintro first other rest rfl state ran
        apply holds (event :: first) other rest rfl state
        rw [run_cons, stepped, Option.bind_some, ran]

/-- With a decidable guard, a concrete run is checked by evaluation. -/
instance decidableGuarded [∀ state event, Decidable (guard state event)] :
    ∀ (start : State) (events : List Event), Decidable (Guarded step guard start events)
  | _, [] => .isTrue trivial
  | start, event :: events =>
      match stepped : step start event with
      | none => decidable_of_iff (guard start event) (by simp [Guarded, stepped])
      | some next =>
          have := decidableGuarded next events
          decidable_of_iff (guard start event ∧ Guarded step guard next events)
            (by simp [Guarded, stepped])

/-- The invariant rule: what every guarded step preserves holds at the end of
every guarded run. -/
theorem invariant_of_guarded
    (preserved : ∀ state event next, invariant state → guard state event →
      step state event = some next → invariant next)
    {start last : State} {events : List Event} (initially : invariant start)
    (guarded : Guarded step guard start events)
    (ran : run step start events = some last) :
    invariant last := by
  induction events generalizing start with
  | nil =>
      cases ran
      exact initially
  | cons event events ih =>
      obtain ⟨next, stepped, rest⟩ := run_cons_some ran
      exact ih (preserved start event next initially guarded.1 stepped)
        (guarded.2 next stepped) rest

/-- A guard on the events alone is checked event by event. -/
theorem guarded_of_forall_mem {events : List Event}
    (holds : ∀ event ∈ events, ∀ state, guard state event) (start : State) :
    Guarded step guard start events := by
  induction events generalizing start with
  | nil => trivial
  | cons event events ih =>
      refine ⟨holds event List.mem_cons_self start, fun next _ => ?_⟩
      exact ih (fun other member => holds other (List.mem_cons_of_mem _ member)) next

/-- The invariant rule for unrestricted runs. -/
theorem invariant_of_run
    (preserved : ∀ state event next, invariant state →
      step state event = some next → invariant next)
    {start last : State} {events : List Event} (initially : invariant start)
    (ran : run step start events = some last) :
    invariant last :=
  @invariant_of_guarded State Event step (fun _ _ => True) invariant
    (fun state event next holds _ => preserved state event next holds)
    start last events initially
    (guarded_of_forall_mem (fun _ _ _ => trivial) start) ran

/-- A step function that is never stuck runs every list of events. -/
theorem run_isSome (total : ∀ state event, (step state event).isSome)
    (start : State) (events : List Event) :
    ∃ last, run step start events = some last := by
  induction events generalizing start with
  | nil => exact ⟨start, rfl⟩
  | cons event events ih =>
      obtain ⟨next, stepped⟩ := Option.isSome_iff_exists.mp (total start event)
      obtain ⟨last, ran⟩ := ih next
      exact ⟨last, by rw [run_cons, stepped, Option.bind_some, ran]⟩

/-! ## What has happened in a run -/

/-- Every state of a run, its first and its last one included, satisfies
`holds`. -/
def Throughout (step : State → Event → Option State)
    (holds : State → Prop) : State → List Event → Prop
  | state, [] => holds state
  | state, event :: events =>
      holds state ∧
        ∀ next, step state event = some next →
          Throughout step holds next events

variable {holds : State → Prop}

theorem Throughout.start {start : State} {events : List Event}
    (throughout : Throughout step holds start events) : holds start := by
  cases events with
  | nil => exact throughout
  | cons event events => exact throughout.1

theorem Throughout.last {start last : State} {events : List Event}
    (throughout : Throughout step holds start events)
    (ran : run step start events = some last) : holds last := by
  induction events generalizing start with
  | nil =>
      cases ran
      exact throughout
  | cons event events ih =>
      obtain ⟨next, stepped, rest⟩ := run_cons_some ran
      exact ih (throughout.2 next stepped) rest

theorem Throughout.imp {others : State → Prop}
    (implies : ∀ state, others state → holds state) {start : State}
    {events : List Event} (throughout : Throughout step others start events) :
    Throughout step holds start events := by
  induction events generalizing start with
  | nil => exact implies start throughout
  | cons event events ih =>
      exact ⟨implies start throughout.1,
        fun next stepped => ih (throughout.2 next stepped)⟩

theorem Throughout.of_append {start middle : State} {first second : List Event}
    (throughout : Throughout step holds start (first ++ second))
    (ran : run step start first = some middle) :
    Throughout step holds middle second := by
  induction first generalizing start with
  | nil =>
      cases ran
      exact throughout
  | cons event first ih =>
      obtain ⟨next, stepped, rest⟩ := run_cons_some ran
      exact ih (throughout.2 next stepped) rest

/-- A run that ends in a state with a property either has it throughout, or
gains it in one of its steps and has it from then on. -/
theorem throughout_or_rise {start last : State} {events : List Event}
    (ran : run step start events = some last) (atLast : holds last) :
    Throughout step holds start events ∨
      ∃ before event after middle next, events = before ++ event :: after ∧
        run step start before = some middle ∧ ¬ holds middle ∧
        step middle event = some next ∧ Throughout step holds next after ∧
        run step next after = some last := by
  induction events generalizing start with
  | nil =>
      cases ran
      exact Or.inl atLast
  | cons event events ih =>
      obtain ⟨next, stepped, rest⟩ := run_cons_some ran
      rcases ih rest with throughout | ⟨before, other, after, middle, risen, rfl, ranBefore, rise⟩
      · by_cases atStart : holds start
        · refine Or.inl ⟨atStart, fun other steppedOther => ?_⟩
          rw [stepped] at steppedOther
          cases steppedOther
          exact throughout
        · exact Or.inr ⟨[], event, events, start, next, rfl, rfl, atStart, stepped,
            throughout, rest⟩
      · refine Or.inr ⟨event :: before, other, after, middle, risen, rfl, ?_, rise⟩
        rw [run_cons, stepped, Option.bind_some, ranBefore]

/-- What does not hold at the start of a run and holds at its end came about
in one of its steps and has held ever since. -/
theorem exists_rise (holds : State → Prop) {start last : State}
    {events : List Event} (initially : ¬ holds start) (ran : run step start events = some last)
    (atLast : holds last) :
    ∃ before event after middle next, events = before ++ event :: after ∧
      run step start before = some middle ∧ ¬ holds middle ∧
      step middle event = some next ∧ Throughout step holds next after ∧
      run step next after = some last := by
  rcases throughout_or_rise ran atLast with throughout | rise
  · exact absurd throughout.start initially
  · exact rise

end GuardedRuns

end EchoMic
