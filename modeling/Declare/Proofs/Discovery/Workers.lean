import Declare.Discovery.Basic
import Mathlib

/-!
# Workers that share a token

Candidates are worked on in parallel: a worker looks at the token, and then leaves the candidate out
or checks it. In the steps of a pool (`Pool.Step`) any number of workers take the candidates in any
order, and the token can be cancelled between any two steps.

The workers come to an end (`Pool.exists_run_hasEnded`). A worker that leaves its candidate out has
seen the token cancelled, and it stays so; this and the order of the candidates are what all steps
keep (`Pool.Sound`). So what has become of the candidates at the end depends on nothing but what was
seen of the token (`Pool.eq_ofSightings`), and all that can be seen of a token is seen by some run
(`Pool.run_ofSightings`).
-/

namespace Declare

/-- What was not seen at the end was not seen before. -/
theorem Cancellation.eq_never {token : Cancellation} (h : token.atEnd = false) :
    token = .never := by
  obtain ⟨atUnit, atEnd, stays⟩ := token
  obtain rfl : atEnd = false := h
  have unseen : atUnit = fun _ => false :=
    funext fun i => Bool.eq_false_iff.2 fun seen => Bool.noConfusion (stays i seen)
  subst unseen
  rfl

namespace Discovery

/-- What has become of a candidate. -/
inductive Progress where
  | waiting
  /-- A worker saw that the token was not cancelled, and checks the candidate. -/
  | underCheck
  /-- A worker saw that the token was cancelled. -/
  | leftOut
  | checked (accepted : Bool)
deriving Repr, DecidableEq

/-- A candidate and what has become of it. -/
structure Task where
  candidate : Constraint
  progress : Progress := .waiting

/-- The candidates that workers share, and whether their token is cancelled. -/
structure Pool where
  cancelled : Bool
  tasks : List Task

namespace Task

/-- A worker takes a candidate and looks at the token, or ends its check. -/
inductive Step (supports : Constraint → Bool) (cancelled : Bool) : Task → Task → Prop
  | leave (c : Constraint) (seen : cancelled = true) :
      Step supports cancelled ⟨c, .waiting⟩ ⟨c, .leftOut⟩
  | take (c : Constraint) (seen : cancelled = false) :
      Step supports cancelled ⟨c, .waiting⟩ ⟨c, .underCheck⟩
  | check (c : Constraint) :
      Step supports cancelled ⟨c, .underCheck⟩ ⟨c, .checked (supports c)⟩

/-- Whether no worker will look at the candidate any more. -/
def hasEnded (t : Task) : Bool :=
  match t.progress with
  | .waiting | .underCheck => false
  | .leftOut | .checked _ => true

/-- The candidate, if it was accepted. -/
def accepted? (t : Task) : Option Constraint :=
  match t.progress with
  | .checked true => some t.candidate
  | _ => none

/-- The number of steps until the end. -/
def work (t : Task) : Nat :=
  match t.progress with
  | .waiting => 2
  | .underCheck => 1
  | .leftOut | .checked _ => 0

/-- Only a cancelled run leaves candidates out, and only supported ones are accepted. -/
def Sound (supports : Constraint → Bool) (cancelled : Bool) (t : Task) : Prop :=
  match t.progress with
  | .waiting | .underCheck => True
  | .leftOut => cancelled = true
  | .checked accepted => accepted = supports t.candidate

variable {supports : Constraint → Bool} {cancelled : Bool} {t t' : Task}

theorem Step.candidate (h : Step supports cancelled t t') : t'.candidate = t.candidate := by
  cases h <;> rfl

theorem Step.sound (h : Step supports cancelled t t') : t'.Sound supports cancelled := by
  cases h with
  | leave c seen => exact seen
  | take c seen => trivial
  | check c => exact rfl

theorem Step.work_lt (h : Step supports cancelled t t') : t'.work < t.work := by
  cases h <;> simp [work]

/-- A cancelled token explains no less than one that is not. -/
theorem Sound.cancel (h : t.Sound supports false) : t.Sound supports true := by
  obtain ⟨c, progress⟩ := t
  cases progress with
  | leftOut => rfl
  | _ => exact h

theorem exists_step (supports : Constraint → Bool) (cancelled : Bool) (h : t.hasEnded = false) :
    ∃ t', Step supports cancelled t t' := by
  obtain ⟨c, progress⟩ := t
  cases progress with
  | waiting => cases cancelled with
      | true => exact ⟨_, .leave c rfl⟩
      | false => exact ⟨_, .take c rfl⟩
  | underCheck => exact ⟨_, .check c⟩
  | leftOut => cases h
  | checked accepted => cases h

end Task

namespace Pool

/-- One step of a run: the token is cancelled, or some worker makes a step on some candidate. -/
inductive Step (supports : Constraint → Bool) : Pool → Pool → Prop
  | cancel (tasks : List Task) : Step supports ⟨false, tasks⟩ ⟨true, tasks⟩
  | work {cancelled : Bool} {t t' : Task} (step : t.Step supports cancelled t') (before after) :
      Step supports ⟨cancelled, before ++ t :: after⟩ ⟨cancelled, before ++ t' :: after⟩

/-- Any number of steps. -/
abbrev Run (supports : Constraint → Bool) : Pool → Pool → Prop :=
  Relation.ReflTransGen (Step supports)

/-- The pool before any worker has looked at a candidate. -/
def start (cancelled : Bool) (cs : List Constraint) : Pool :=
  ⟨cancelled, cs.map fun c => { candidate := c }⟩

/-- All candidates have been left out or checked. -/
def HasEnded (pool : Pool) : Prop :=
  ∀ t ∈ pool.tasks, t.hasEnded = true

/-- The accepted candidates in the order in which they were listed. -/
def accepted (pool : Pool) : List Constraint :=
  pool.tasks.filterMap Task.accepted?

/-- The steps that are left, at most. -/
def work (pool : Pool) : Nat :=
  (if pool.cancelled then 0 else 1) + (pool.tasks.map Task.work).sum

variable {supports : Constraint → Bool} {pool pool' : Pool} {cs : List Constraint}

theorem Step.work_lt (h : Step supports pool pool') : pool'.work < pool.work := by
  cases h with
  | cancel tasks => simp [Pool.work]
  | work step before after =>
      have less := step.work_lt
      simp only [Pool.work, List.map_append, List.map_cons, List.sum_append, List.sum_cons]
      omega

theorem exists_step (supports : Constraint → Bool) (h : ¬pool.HasEnded) :
    ∃ pool', Step supports pool pool' := by
  obtain ⟨cancelled, tasks⟩ := pool
  simp only [HasEnded, not_forall, Bool.not_eq_true] at h
  obtain ⟨t, mem, going⟩ := h
  obtain ⟨before, after, rfl⟩ := List.append_of_mem mem
  obtain ⟨t', step⟩ := Task.exists_step supports cancelled going
  exact ⟨_, .work step before after⟩

/-- Whatever has happened so far, the workers come to an end. -/
theorem exists_run_hasEnded (supports : Constraint → Bool) (pool : Pool) :
    ∃ pool', Run supports pool pool' ∧ pool'.HasEnded := by
  induction left : pool.work using Nat.strongRecOn generalizing pool with
  | ind n ih =>
      by_cases ended : pool.HasEnded
      · exact ⟨pool, .refl, ended⟩
      · obtain ⟨next, step⟩ := exists_step supports ended
        obtain ⟨last, run, ended⟩ := ih next.work (left ▸ step.work_lt) next rfl
        exact ⟨last, .head step run, ended⟩

/-- The tasks are those of the candidates, and each of them is sound. -/
structure Sound (supports : Constraint → Bool) (cs : List Constraint) (pool : Pool) : Prop where
  candidates : pool.tasks.map (·.candidate) = cs
  tasks : ∀ t ∈ pool.tasks, t.Sound supports pool.cancelled

theorem sound_start (cancelled : Bool) (cs : List Constraint) :
    (start cancelled cs).Sound supports cs where
  candidates := by
    rw [start, List.map_map]
    exact List.map_id cs
  tasks t mem := by
    obtain ⟨c, -, rfl⟩ := List.mem_map.1 mem
    trivial

theorem Step.keeps_sound (h : Step supports pool pool') (sound : pool.Sound supports cs) :
    pool'.Sound supports cs := by
  cases h with
  | cancel tasks => exact ⟨sound.candidates, fun t mem => (sound.tasks t mem).cancel⟩
  | work step before after =>
      have tasks := sound.tasks
      simp only [List.forall_mem_append, List.forall_mem_cons] at tasks
      refine ⟨?_, ?_⟩
      · rw [← sound.candidates]
        simp [step.candidate]
      · simp only [List.forall_mem_append, List.forall_mem_cons]
        exact ⟨tasks.1, step.sound, tasks.2.2⟩

theorem Run.keeps_sound (h : Run supports pool pool') (sound : pool.Sound supports cs) :
    pool'.Sound supports cs := by
  induction h with
  | refl => exact sound
  | tail _ step ih => exact step.keeps_sound ih

/-- A cancelled token stays cancelled. -/
theorem Run.keeps_cancelled (h : Run supports pool pool') (cancelled : pool.cancelled = true) :
    pool'.cancelled = true := by
  induction h with
  | refl => exact cancelled
  | tail _ step ih => cases step with
      | cancel => rfl
      | work => exact ih

/-- What the workers, and the run at its end, have seen of the token. -/
def sightings (pool : Pool) (sound : pool.Sound supports cs) : Cancellation where
  atUnit i := pool.tasks[i]?.any (·.progress = .leftOut)
  atEnd := pool.cancelled
  stays i seen := by
    obtain ⟨t, found, leftOut⟩ := (Option.any_eq_true _ _).1 seen
    have explained := sound.tasks t (List.mem_of_getElem? found)
    rwa [Task.Sound, of_decide_eq_true leftOut] at explained

/-- The pool of a run that has ended with the given sightings of the token. -/
def ofSightings (supports : Constraint → Bool) (token : Cancellation) (cs : List Constraint) :
    Pool where
  cancelled := token.atEnd
  tasks := cs.zipIdx.map fun (c, i) =>
    ⟨c, if token.atUnit i then .leftOut else .checked (supports c)⟩

/-- A sound pool that has ended is known from what its run has seen. -/
theorem eq_ofSightings (sound : pool.Sound supports cs) (ended : pool.HasEnded) :
    pool = ofSightings supports (pool.sightings sound) cs := by
  have at_i (i : Nat) : cs[i]? = pool.tasks[i]?.map (·.candidate) := by
    rw [← sound.candidates, List.getElem?_map]
  obtain ⟨cancelled, tasks⟩ := pool
  congr 1
  apply List.ext_getElem?
  intro i
  rw [List.getElem?_map, List.getElem?_zipIdx, at_i]
  cases found : tasks[i]? with
  | none => rfl
  | some t =>
      have mem := List.mem_of_getElem? found
      have explained := sound.tasks t mem
      have done := ended t mem
      obtain ⟨c, progress⟩ := t
      cases progress with
      | waiting => cases done
      | underCheck => cases done
      | leftOut => simp [sightings, found]
      | checked accepted =>
          simp only [Task.Sound] at explained
          simp [sightings, found, explained]

theorem hasEnded_ofSightings (supports : Constraint → Bool) (token : Cancellation)
    (cs : List Constraint) : (ofSightings supports token cs).HasEnded := by
  intro t mem
  obtain ⟨⟨c, i⟩, -, rfl⟩ := List.mem_map.1 mem
  dsimp only [Task.hasEnded]
  cases token.atUnit i <;> rfl

/-- Runs on single candidates, one after the other, make up a run of the pool. -/
theorem run_of_forall₂ {cancelled : Bool} {ts ts' : List Task}
    (runs : List.Forall₂ (Relation.ReflTransGen (Task.Step supports cancelled)) ts ts')
    (before : List Task) : Run supports ⟨cancelled, before ++ ts⟩ ⟨cancelled, before ++ ts'⟩ := by
  induction runs generalizing before with
  | nil => exact .refl
  | @cons t t' ts ts' run runs ih =>
      have first : Run supports ⟨cancelled, before ++ t :: ts⟩ ⟨cancelled, before ++ t' :: ts⟩ :=
        run.lift (fun t => (⟨cancelled, before ++ t :: ts⟩ : Pool)) fun _ _ step =>
          .work step before ts
      have others := ih (before ++ [t'])
      rw [List.append_assoc, List.append_assoc] at others
      exact first.trans others

/-- Some run has the given sightings: the candidates of those who see a token that is not cancelled
come first, then it is cancelled if it is at all, and then come the others. -/
theorem run_ofSightings (supports : Constraint → Bool) (token : Cancellation)
    (cs : List Constraint) : Run supports (.start false cs) (.ofSightings supports token cs) := by
  -- the tasks when the token is about to be cancelled
  obtain ⟨middle, def_middle⟩ : ∃ tasks : List Task, cs.zipIdx.map (fun (c, i) =>
      ⟨c, if token.atUnit i then .waiting else .checked (supports c)⟩) = tasks := ⟨_, rfl⟩
  have start : (start false cs).tasks = cs.zipIdx.map fun (c, _) => { candidate := c } := by
    rw [Pool.start]
    conv_lhs => rw [← List.zipIdx_map_fst 0 cs, List.map_map]
    rfl
  have first : Run supports (.start false cs) ⟨false, middle⟩ := by
    have runs : List.Forall₂ (Relation.ReflTransGen (Task.Step supports false))
        (Pool.start false cs).tasks middle := by
      rw [start, ← def_middle, List.forall₂_map_left_iff, List.forall₂_map_right_iff,
        List.forall₂_same]
      rintro ⟨c, i⟩ -
      cases seen : token.atUnit i with
      | true => simp only [seen, ↓reduceIte]; exact .refl
      | false => simp only [seen]; exact .head (.take c rfl) (.single (.check c))
    exact run_of_forall₂ runs []
  cases cancelled : token.atEnd with
  | false =>
      obtain rfl := Cancellation.eq_never cancelled
      rw [← def_middle] at first
      exact first
  | true =>
      have runs : List.Forall₂ (Relation.ReflTransGen (Task.Step supports true)) middle
          (ofSightings supports token cs).tasks := by
        rw [ofSightings, ← def_middle, List.forall₂_map_left_iff, List.forall₂_map_right_iff,
          List.forall₂_same]
        rintro ⟨c, i⟩ -
        cases seen : token.atUnit i with
        | true => simp only [seen, ↓reduceIte]; exact .single (.leave c rfl)
        | false => simp only [seen]; exact .refl
      have rest := run_of_forall₂ runs []
      have same : ofSightings supports token cs =
          ⟨true, (ofSightings supports token cs).tasks⟩ := by
        rw [← cancelled]
        rfl
      rw [same]
      exact first.trans (.head (.cancel middle) rest)

end Pool

end Discovery

end Declare
