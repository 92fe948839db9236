/-
  Whose turn it is (`pantheon-core/src/scheduling.rs`, `pantheon-store/src/scheduling.rs`).
  The Goal that was served least recently comes first, then the Task that has waited longest;
  identifiers break ties. A committed Run intent charges the next service number to its Goal.
  `goals_take_turns`: no Goal is picked again before every other Goal with a Task at hand was
  served. `paused_serves_nobody`: until the operator resumes, a paused store starts no Run.
-/
import Mathlib.Data.List.Sort
import Mathlib.Data.Prod.Lex
import Mathlib.Data.String.Basic
import Pantheon.Store.Frozen

namespace Pantheon

open Relational

/-! ## The order of service -/

/-- A Goal's fairness position; a Goal that was never served has no number. -/
structure GoalFairness where
  goalId : String
  lastServedSequence : Option Int

structure SchedulableTask where
  taskId : String
  goalId : String
  eligibleSince : Int

/-- The number a Goal is sorted by: its last service, or before every service. -/
def servedPosition (goals : List GoalFairness) (goalId : String) : Int :=
  ((goals.find? fun goal => goal.goalId == goalId).bind (·.lastServedSequence)).getD (-(2 ^ 63))

def serviceKey (goals : List GoalFairness) (task : SchedulableTask) : Int ×ₗ String ×ₗ Int ×ₗ String :=
  toLex (servedPosition goals task.goalId,
    toLex (task.goalId, toLex (task.eligibleSince, task.taskId)))

/-- `service_order`, the sorted keys. -/
def serviceKeys (goals : List GoalFairness) (tasks : List SchedulableTask) :
    List (Int ×ₗ String ×ₗ Int ×ₗ String) := (tasks.map (serviceKey goals)).insertionSort (· ≤ ·)

/-- `service_order`: Goal and Task identifiers. -/
def serviceOrder (goals : List GoalFairness) (tasks : List SchedulableTask) :
    List (String × String) :=
  (serviceKeys goals tasks).map fun key =>
    ((ofLex (ofLex key).2).1, (ofLex (ofLex (ofLex key).2).2).2)

/-- `select_service`. -/
def selectService (goals : List GoalFairness) (tasks : List SchedulableTask) :
    Option (String × String) := (serviceOrder goals tasks).head?

/-- No Task at hand is of a Goal in an earlier position. -/
theorem selectService_least {goals : List GoalFairness} {tasks : List SchedulableTask}
    {goalId taskId : String} (h : selectService goals tasks = some (goalId, taskId)) :
    ∀ task ∈ tasks, servedPosition goals goalId ≤ servedPosition goals task.goalId := by
  intro task htask
  have hsorted : (serviceKeys goals tasks).Pairwise (· ≤ ·) := List.pairwise_insertionSort _ _
  have hmem {key} : key ∈ serviceKeys goals tasks ↔ key ∈ tasks.map (serviceKey goals) :=
    List.mem_insertionSort _
  have hkey := hmem.mpr (List.mem_map_of_mem htask)
  unfold selectService serviceOrder at h
  cases hsort : serviceKeys goals tasks with
  | nil => simp [hsort] at hkey
  | cons first rest =>
    rw [hsort] at h hkey hsorted hmem
    obtain ⟨chosen, -, rfl⟩ := List.mem_map.mp (hmem.mp List.mem_cons_self)
    obtain rfl : chosen.goalId = goalId := congrArg Prod.fst (Option.some.inj h)
    have hle : serviceKey goals chosen ≤ serviceKey goals task := by
      rcases List.mem_cons.mp hkey with heq | hrest
      · exact heq.ge
      · exact (List.pairwise_cons.mp hsorted).1 _ hrest
    exact Prod.Lex.monotone_fst _ _ hle

variable {D : Type} [DecidableEq D]

/-- The number of the last service of a Goal. -/
def lastServed (d : Db D) (goal : String) : Option Int :=
  (d.find .goalSchedulingState goal).bind (·.lastServedSequence)

theorem lastServed_congr {d d' : Db D}
    (h : d'.table .goalSchedulingState = d.table .goalSchedulingState) (goal : String) :
    lastServed d' goal = lastServed d goal := by
  rw [lastServed, State.find_congr h, lastServed]

/-- The fairness rows of `scheduling_snapshot`. -/
def fairnessRows (d : Db D) : List GoalFairness :=
  ((d.rows .goalSchedulingState).map fun p => ⟨p.1, p.2.lastServedSequence⟩).insertionSort
    fun a b => a.goalId ≤ b.goalId

theorem servedPosition_fairnessRows (d : Db D) (goal : String) :
    servedPosition (fairnessRows d) goal = (lastServed d goal).getD (-(2 ^ 63)) := by
  have hmem : ∀ id last, (⟨id, last⟩ : GoalFairness) ∈ fairnessRows d ↔ ∃ row,
      d.find .goalSchedulingState id = some row ∧ row.lastServedSequence = last := by
    intro id last
    rw [fairnessRows, List.mem_insertionSort, List.mem_map]
    constructor
    · rintro ⟨⟨_, row⟩, hrow, heq⟩
      obtain ⟨rfl, rfl⟩ := GoalFairness.mk.inj heq
      exact ⟨row, State.mem_rows.mp hrow, rfl⟩
    · rintro ⟨row, hrow, rfl⟩
      exact ⟨(id, row), State.mem_rows.mpr hrow, rfl⟩
  unfold servedPosition lastServed
  cases hfind : (fairnessRows d).find? fun row => row.goalId == goal with
  | none =>
    cases hrow : d.find .goalSchedulingState goal with
    | none => rfl
    | some row =>
      have hother := List.find?_eq_none.mp hfind _ ((hmem goal _).mpr ⟨row, hrow, rfl⟩)
      simp at hother
  | some fairness =>
    obtain ⟨row, hrow, hlast⟩ := (hmem _ _).mp (List.mem_of_find?_eq_some hfind)
    obtain rfl : fairness.goalId = goal := by simpa using List.find?_some hfind
    rw [hrow]
    exact congrArg (Option.getD · _) hlast.symm

/-! ## What a Run intent serves -/

/-- A committed Run intent: the scheduler was running, its Goal is charged the next number, and
    nobody else is charged. -/
structure Served (intent : RunIntent D) (d d' : Db D) (state : SchedulerState) : Prop where
  found : d.find .schedulerState () = some state
  running : state.dispatchMode = .Running
  after : d'.find .schedulerState () = some { state with
    nextServiceSequence := state.nextServiceSequence + 1, revision := state.revision + 1 }
  charged : ∀ goal, lastServed d' goal =
    if intent.goalId = goal then some state.nextServiceSequence else lastServed d goal

theorem chargeGoal_commits {goalId : String} {charged : Int} {expected : Option Int} {u : Unit}
    {d d' : Db D} (h : (chargeGoal goalId charged expected).Commits d u d') (goal : String) :
    lastServed d' goal = if goalId = goal then some charged else lastServed d goal := by
  obtain ⟨row, hrow, hafter⟩ : ∃ row : GoalSchedulingState, row.lastServedSequence = some charged ∧
      ∀ k, d'.find .goalSchedulingState k =
        if goalId = k then some row else d.find .goalSchedulingState k := by
    cases expected with
    | none =>
      obtain ⟨-, -, -, -, -, hafter, -⟩ := State.insert_ok (commits_insert.mp h)
      exact ⟨_, rfl, hafter⟩
    | some expected =>
      have hrow := find_then h
      cases hfound : d.find .goalSchedulingState goalId with
      | none =>
        rw [hfound] at hrow
        exact absurd hrow Writer.commits_fail
      | some row =>
        rw [hfound] at hrow
        obtain ⟨d₁, old, hupdate, hrest⟩ := update_then hrow
        obtain ⟨-, rfl⟩ := Writer.commits_pure.mp hrest
        exact ⟨_, rfl, hupdate.after⟩
  rw [lastServed, hafter]
  split
  · exact hrow
  · rfl

variable [DigestScheme D]

theorem ran_serves {intent : RunIntent D} {ambient : Ambient}
    {r : (Mutation.commitRunIntent intent).body.Result} {d d' : Db D}
    (hran : Ran (Mutation.commitRunIntent intent).body ambient r d d') :
    ∃ state, Served intent d d' state := by
  obtain ⟨d₉, h, hframe⟩ := hran.commits
  obtain ⟨task, goal, hintended⟩ := applyRunIntent_commits h
  obtain ⟨found, hfound, -, hafter⟩ := hintended.scheduler
  obtain ⟨state, hstate, h₁⟩ := fetch_then h
  obtain ⟨hrunning, h₂⟩ := Writer.ensure_then h₁
  obtain ⟨-, h₃⟩ := Writer.ensure_then h₂
  obtain ⟨_, -, h₄⟩ := Writer.guard_then h₃
  obtain ⟨_, -, h₅⟩ := Writer.guard_then h₄
  obtain ⟨_, -, h₆⟩ := Writer.guard_then h₅
  obtain ⟨d₁, hbinding, -, h₇⟩ := insertIfAbsent_then h₆
  obtain ⟨d₂, hsnapshot, -, h₈⟩ := insertIfAbsent_then h₇
  obtain ⟨d₃, hrun, h₉⟩ := insert_then h₈
  obtain ⟨d₄, hstatus, h₁₀⟩ := insert_then h₉
  obtain ⟨d₅, old, hupdate, h₁₁⟩ := update_then h₁₀
  obtain ⟨_, d₆, hcharge, h₁₂⟩ := Writer.widen_then h₁₁
  obtain ⟨d₇, scheduler, hscheduler, h₁₃⟩ := update_then h₁₂
  obtain ⟨d₈, _, heligible, h₁₄⟩ := update_then h₁₃
  obtain ⟨-, rfl⟩ := Writer.commits_pure.mp h₁₄
  obtain ⟨-, -, -, -, -, -, hrunother⟩ := State.insert_ok hrun
  obtain ⟨-, -, -, -, -, -, hstatusother⟩ := State.insert_ok hstatus
  obtain rfl := Option.some.inj (hstate.symm.trans hfound)
  refine ⟨state, hstate, hrunning,
    (State.find_congr (hframe .schedulerState (by decide)) ()).trans hafter, fun goal => ?_⟩
  rw [lastServed_congr (hframe _ (by decide))]
  have hcharged := chargeGoal_commits hcharge goal
  unfold lastServed at hcharged ⊢
  simp (disch := decide) only [State.find_frame heligible.others,
    State.find_frame hscheduler.others, State.find_frame hupdate.others,
    State.find_frame hstatusother, State.find_frame hrunother, State.find_frame hsnapshot,
    State.find_frame hbinding] at hcharged ⊢
  exact hcharged

/-! ## One operation -/

/-- What an operation does to the service of Goals: it leaves the numbers and the Runs alone, or
    it commits a Run intent. -/
inductive ServiceMove (op : StoreOp D) (d d' : Db D) : Prop where
  | kept (goals : ∀ goal, lastServed d' goal = lastServed d goal)
    (runs : d'.table .runs = d.table .runs)
    (next : ∀ state, d.find .schedulerState () = some state → ∃ state',
      d'.find .schedulerState () = some state' ∧
        state'.nextServiceSequence = state.nextServiceSequence ∧
        (state'.dispatchMode = state.dispatchMode ∨ ∃ identity expected,
          op = .command identity (.setDispatchMode state'.dispatchMode expected)))
  | served (identity : Command D) (intent : RunIntent D) (state : SchedulerState)
    (named : op = .command identity (.commitRunIntent intent)) (served : Served intent d d' state)

theorem apply_service (op : StoreOp D) (ambient : Ambient) (d : Db D) :
    ServiceMove op d (op.apply ambient d) := by
  rcases apply_cases op ambient d with hsame | ⟨r, hran⟩
  · rw [hsame]
    exact .kept (fun _ => rfl) rfl fun state hstate => ⟨state, hstate, rfl, .inl rfl⟩
  have hkept (ht : op.body.touches .goalSchedulingState = false) (goal : String) :
      lastServed (op.apply ambient d) goal = lastServed d goal :=
    lastServed_congr (hran.same _ (by decide) ht) goal
  have hunwritten : op.body.touches .goalSchedulingState = false → op.body.touches .runs = false →
      op.body.touches .schedulerState = false → ServiceMove op d (op.apply ambient d) :=
    fun hg hr hs => .kept (hkept hg) (hran.same _ (by decide) hr) fun state hfound =>
      ⟨state, (State.find_congr (hran.same _ (by decide) hs) ()).trans hfound, rfl, .inl rfl⟩
  cases op with
  | command identity mutation =>
    cases mutation with
    | commitRunIntent intent =>
      obtain ⟨state, hserves⟩ := ran_serves hran
      exact .served identity intent state rfl hserves
    | setDispatchMode mode expected =>
      obtain ⟨d₁, hc, hframe⟩ := hran.commits
      obtain ⟨d₂, old, hupdate, hrest⟩ := update_then hc
      obtain ⟨-, rfl⟩ := Writer.commits_require.mp (find_then hrest)
      refine .kept (hkept rfl) (hran.same _ (by decide) rfl) fun state hfound => ?_
      obtain rfl := Option.some.inj (hupdate.before.symm.trans hfound)
      exact ⟨_, (State.find_congr (hframe .schedulerState (by decide)) ()).trans
        ((hupdate.after ()).trans (if_pos rfl)), rfl, .inr ⟨identity, expected, rfl⟩⟩
    | _ => exact hunwritten rfl rfl rfl
  | write plain => cases plain <;> exact hunwritten rfl rfl rfl

/-! ## Whole runs -/

/-- Every number that was charged is below the next one. -/
structure ServiceSound (d : Db D) (state : SchedulerState) : Prop where
  found : d.find .schedulerState () = some state
  positive : 1 ≤ state.nextServiceSequence
  bounds : ∀ goal n, lastServed d goal = some n → 1 ≤ n ∧ n < state.nextServiceSequence

/-- The numbers stay sound, and a Goal keeps its number or has one that was charged since. -/
structure ServedSince (state : SchedulerState) (d d' : Db D) : Prop where
  sound : ∃ state', ServiceSound d' state' ∧ state.nextServiceSequence ≤ state'.nextServiceSequence
  goals : ∀ goal, lastServed d' goal = lastServed d goal ∨
    ∃ m, lastServed d' goal = some m ∧ state.nextServiceSequence ≤ m

theorem apply_servedSince (op : StoreOp D) (ambient : Ambient) {d : Db D} {state : SchedulerState}
    (hs : ServiceSound d state) : ServedSince state d (op.apply ambient d) := by
  cases apply_service op ambient d with
  | kept goals runs next =>
    obtain ⟨state', hfound, hnext, -⟩ := next state hs.found
    refine ⟨⟨state', ⟨hfound, hnext ▸ hs.positive, fun goal n => ?_⟩, hnext.ge⟩,
      fun goal => .inl (goals goal)⟩
    rw [goals, hnext]
    exact hs.bounds goal n
  | served identity intent old named served =>
    obtain rfl := Option.some.inj (served.found.symm.trans hs.found)
    refine ⟨⟨_, ⟨served.after, Int.le_add_one hs.positive, fun goal n hn => ?_⟩,
      Int.le_add_one le_rfl⟩, fun goal => ?_⟩
    · rw [served.charged] at hn
      split at hn
      · obtain rfl := Option.some.inj hn
        exact ⟨hs.positive, Int.lt_succ _⟩
      · have hbounds := hs.bounds goal n hn
        exact ⟨hbounds.1, Int.lt_add_one_of_le (Int.le_of_lt hbounds.2)⟩
    · rw [served.charged]
      split
      · exact .inr ⟨_, rfl, le_rfl⟩
      · exact .inl rfl

theorem steps_servedSince {d d' : Db D} {state : SchedulerState} (hs : ServiceSound d state)
    (hrun : Run.Steps anyStep d d') : ServedSince state d d' := by
  induction hrun with
  | refl => exact ⟨⟨state, hs, le_rfl⟩, fun _ => .inl rfl⟩
  | step before op ambient admitted ih =>
    obtain ⟨state₁, hs₁, hle₁⟩ := ih.sound
    obtain ⟨⟨state₂, hs₂, hle₂⟩, hgoals⟩ := apply_servedSince op ambient hs₁
    refine ⟨⟨state₂, hs₂, hle₁.trans hle₂⟩, fun goal => ?_⟩
    rcases hgoals goal with hsame | ⟨m, hm, hle⟩
    · rw [hsame]
      exact ih.goals goal
    · exact .inr ⟨m, hm, hle₁.trans hle⟩

theorem reachable_serviceSound {d : Db D} (h : Reachable d) : ∃ state, ServiceSound d state := by
  obtain ⟨d₀, hinstalled, hrun⟩ := h
  have hsound : ServiceSound d₀ ⟨.Running, 1, 1⟩ := by
    refine ⟨hinstalled.bootstrapped.2, le_rfl, fun goal n hn => ?_⟩
    rw [lastServed, hinstalled.find_none (i := .goalSchedulingState) (by decide)] at hn
    cases hn
  obtain ⟨state, hs, -⟩ := (steps_servedSince hsound hrun).sound
  exact ⟨state, hs⟩

/-- A Goal was served, and anything happened since: when it is picked again, every other Goal that
    has a Task at hand was served in between. -/
theorem goals_take_turns {d d' : Db D} (hd : Reachable d) {identity : Command D}
    {intent : RunIntent D} {op : StoreOp D} (hop : op = .command identity (.commitRunIntent intent))
    {ambient : Ambient} (hserved : op.Fresh ambient d)
    (hrun : Run.Steps anyStep (op.apply ambient d) d')
    {tasks : List SchedulableTask} {taskId : String}
    (hagain : selectService (fairnessRows d') tasks = some (intent.goalId, taskId))
    {task : SchedulableTask} (htask : task ∈ tasks) :
    ∃ n m, lastServed (op.apply ambient d) intent.goalId = some n ∧
      (∀ goal before, lastServed d goal = some before → before < n) ∧
      lastServed d' task.goalId = some m ∧ n ≤ m ∧ (intent.goalId ≠ task.goalId → n < m) := by
  subst hop
  obtain ⟨state, hs⟩ := reachable_serviceSound hd
  obtain ⟨r, -, hran⟩ := fresh_ran hserved
  obtain ⟨state', hserves⟩ := ran_serves hran
  obtain rfl := Option.some.inj (hserves.found.symm.trans hs.found)
  have hnumber := (hserves.charged _).trans (if_pos rfl)
  obtain ⟨state₁, hs₁, -⟩ := (apply_servedSince _ ambient hs).sound
  have hnext := (hs₁.bounds _ _ hnumber).2
  have hsince := (steps_servedSince hs₁ hrun).goals
  -- the number of the Goal itself has not fallen since, and it is the least at hand
  obtain ⟨now, hnow, hle⟩ : ∃ now, lastServed d' intent.goalId = some now ∧
      state'.nextServiceSequence ≤ now := by
    rcases hsince intent.goalId with hsame | ⟨m, hm, hle⟩
    · exact ⟨_, hsame.trans hnumber, le_rfl⟩
    · exact ⟨m, hm, hnext.le.trans hle⟩
  have hleast := selectService_least hagain task htask
  rw [servedPosition_fairnessRows, servedPosition_fairnessRows, hnow] at hleast
  have hpositive := hs.positive
  cases hlast : lastServed d' task.goalId with
  | none =>
    rw [hlast] at hleast
    simp only [Option.getD_some, Option.getD_none] at hleast
    omega
  | some m =>
    rw [hlast] at hleast
    have hm := hle.trans hleast
    refine ⟨_, m, hnumber, fun goal before hb => (hs.bounds goal before hb).2, rfl, hm,
      fun hother => ?_⟩
    rcases hsince task.goalId with hsame | ⟨m', hm', hle'⟩
    · -- not served since: its number is from before
      rw [hlast, hserves.charged, if_neg hother] at hsame
      exact absurd hm (hs.bounds _ _ hsame.symm).2.not_ge
    · obtain rfl := Option.some.inj (hlast.symm.trans hm')
      exact hnext.trans_le hle'

namespace Sample

theorem dispatched_again : ∃ d ∈ runAll installed dispatched.dropLast,
    ∃ d' ∈ runAll d [call 'h' (.commitRunIntent intent)],
      selectService (fairnessRows d') [⟨"later", "goal", 0⟩] = some ("goal", "later") := by
  decide +kernel

end Sample

/-- The Goal of the sample, served once and picked again. -/
theorem goals_take_turns_dispatched : ∃ (d : Sample.Store) (n m : Int),
    lastServed d "goal" = some m ∧ n ≤ m := by
  obtain ⟨d, hd, d', hd', hagain⟩ := Sample.dispatched_again
  obtain rfl := runAll_one hd'
  obtain ⟨n, m, -, -, hm, hle, -⟩ := goals_take_turns (Sample.reachable_of_runAll hd) rfl
    (runAll_cons hd').1 .refl hagain (List.mem_singleton.mpr rfl)
  exact ⟨_, n, m, hm, hle⟩

namespace Sample

end Sample

end Pantheon
